import Mathlib.Data.List.Nodup
import Mathlib.Data.Nat.Notation
import Mathlib.Logic.Function.Basic

/-!
# Numbers drawn from several counters

Cells are visited in a fixed order. Each visit names a counter, which moves on by one, and
writes the number it reached into the cell. The order of the visits alone decides which
numbers are drawn; what is in the cells does not matter.

## Main definitions

* `Ticketing.issue` — the number each cell gets
* `Ticketing.advance` — where the counters stand afterwards
* `Ticketing.stampAll` — the visits, on any state whose cells can be written

## Main results

* `Ticketing.issue_injective` — one counter gives no number twice
* `Ticketing.exists_issue` — and leaves none out
* `Ticketing.number_lt_of_before` — cells that are visited in some order are numbered in it
* `Ticketing.cell_stampAll_of_mem`, `Ticketing.cell_stampAll_of_not_mem` — a cell holds the
  number it was issued, or what it held
-/

namespace Ticketing

variable {κ ι : Type*} [DecidableEq κ]

/-- The cells in the order of the visits, each with its counter and the number it gets. -/
def issue (c : κ → ℕ) : List (κ × ι) → List (ι × κ × ℕ)
  | [] => []
  | (k, x) :: l => (x, k, c k + 1) :: issue (Function.update c k (c k + 1)) l

/-- The counters after the visits. -/
def advance (c : κ → ℕ) (l : List (κ × ι)) (k : κ) : ℕ := c k + l.countP fun t => t.1 = k

variable {c : κ → ℕ} {l : List (κ × ι)} {k : κ} {x y : ι} {n : ℕ}

@[simp] theorem issue_nil : issue c ([] : List (κ × ι)) = [] := rfl

@[simp] theorem issue_cons :
    issue c ((k, x) :: l) = (x, k, c k + 1) :: issue (Function.update c k (c k + 1)) l := rfl

@[simp] theorem advance_nil : advance c ([] : List (κ × ι)) = c := rfl

theorem advance_cons :
    advance c ((k, x) :: l) = advance (Function.update c k (c k + 1)) l := by
  funext j
  unfold advance
  by_cases hj : k = j
  · subst hj
    simp
    omega
  · rw [List.countP_cons_of_neg (by simpa using hj), Function.update_of_ne (Ne.symm hj)]

/-- Every visit is issued a number, and nothing else is. -/
theorem map_issue (c : κ → ℕ) (l : List (κ × ι)) :
    (issue c l).map (fun e => (e.2.1, e.1)) = l := by
  induction l generalizing c with
  | nil => rfl
  | cons t l ih =>
    obtain ⟨k, x⟩ := t
    simp [ih]

theorem exists_number_of_mem (c : κ → ℕ) (h : (k, x) ∈ l) : ∃ n, (x, k, n) ∈ issue c l := by
  rw [← map_issue c l] at h
  obtain ⟨⟨y, j, n⟩, hmem, heq⟩ := List.mem_map.mp h
  obtain ⟨rfl, rfl⟩ := Prod.mk.inj heq
  exact ⟨n, hmem⟩

theorem mem_of_mem_issue (h : (x, k, n) ∈ issue c l) : (k, x) ∈ l := by
  rw [← map_issue c l]
  exact List.mem_map.mpr ⟨(x, k, n), h, rfl⟩

/-- The numbers a counter gives follow where it stood and end where it stands. -/
theorem bounds_of_mem_issue (h : (x, k, n) ∈ issue c l) : c k < n ∧ n ≤ advance c l k := by
  induction l generalizing c with
  | nil => cases h
  | cons t l ih =>
    obtain ⟨j, y⟩ := t
    rw [advance_cons]
    rcases List.mem_cons.mp h with heq | htail
    · obtain ⟨rfl, rfl, rfl⟩ := by simpa using heq
      refine ⟨Nat.lt_succ_self _, ?_⟩
      unfold advance
      rw [Function.update_self]
      exact Nat.le_add_right _ _
    · obtain ⟨hlt, hle⟩ := ih htail
      refine ⟨Nat.lt_of_le_of_lt ?_ hlt, hle⟩
      by_cases hj : k = j
      · subst hj
        rw [Function.update_self]
        exact Nat.le_succ _
      · exact Nat.le_of_eq (Function.update_of_ne hj _ _).symm

/-- **One counter gives no number twice.** -/
theorem issue_injective (h : (x, k, n) ∈ issue c l) (h' : (y, k, n) ∈ issue c l) : x = y := by
  induction l generalizing c with
  | nil => cases h
  | cons t l ih =>
    obtain ⟨j, z⟩ := t
    -- what is issued later from the counter of the first visit is larger
    have hlater : ∀ w, (w, j, c j + 1) ∉ issue (Function.update c j (c j + 1)) l := by
      intro w hw
      have hlt := (bounds_of_mem_issue hw).1
      rw [Function.update_self] at hlt
      exact Nat.lt_irrefl _ hlt
    rcases List.mem_cons.mp h with heq | htail
    · rcases List.mem_cons.mp h' with heq' | htail'
      · exact (Prod.mk.inj heq).1.trans (Prod.mk.inj heq').1.symm
      · obtain ⟨rfl, rfl, rfl⟩ := by simpa using heq
        exact absurd htail' (hlater y)
    · rcases List.mem_cons.mp h' with heq' | htail'
      · obtain ⟨rfl, rfl, rfl⟩ := by simpa using heq'
        exact absurd htail (hlater x)
      · exact ih htail htail'

/-- **And leaves none out.** -/
theorem exists_issue (hlt : c k < n) (hle : n ≤ advance c l k) : ∃ x, (x, k, n) ∈ issue c l := by
  induction l generalizing c with
  | nil =>
    rw [advance_nil] at hle
    omega
  | cons t l ih =>
    obtain ⟨j, z⟩ := t
    rw [advance_cons] at hle
    by_cases hj : k = j
    · subst hj
      rcases Nat.lt_or_eq_of_le (Nat.succ_le_of_lt hlt) with hlt' | heq
      · obtain ⟨x, hx⟩ := ih (by rwa [Function.update_self]) hle
        exact ⟨x, List.mem_cons_of_mem _ hx⟩
      · exact ⟨z, by simp [← heq]⟩
    · obtain ⟨x, hx⟩ := ih (by rwa [Function.update_of_ne hj]) hle
      exact ⟨x, List.mem_cons_of_mem _ hx⟩

/-! ### The order of the numbers -/

/-- A counter gives larger numbers to later visits. -/
theorem pairwise_issue (c : κ → ℕ) (l : List (κ × ι)) :
    (issue c l).Pairwise fun e e' => e.2.1 = e'.2.1 → e.2.2 < e'.2.2 := by
  induction l generalizing c with
  | nil => exact List.Pairwise.nil
  | cons t l ih =>
    obtain ⟨j, z⟩ := t
    rw [issue_cons, List.pairwise_cons]
    refine ⟨?_, ih _⟩
    rintro ⟨w, k, n⟩ hw (rfl : j = k)
    have hlt := (bounds_of_mem_issue hw).1
    rwa [Function.update_self] at hlt

/-- Of two entries of a list one is before the other. -/
theorem cases_of_pairwise {α : Type*} {r : α → α → Prop} {l : List α} (h : l.Pairwise r) {a b : α}
    (ha : a ∈ l) (hb : b ∈ l) : a = b ∨ r a b ∨ r b a := by
  induction l with
  | nil => cases ha
  | cons x l ih =>
    obtain ⟨hx, hl⟩ := List.pairwise_cons.mp h
    rcases List.mem_cons.mp ha with rfl | ha'
    · rcases List.mem_cons.mp hb with rfl | hb'
      · exact .inl rfl
      · exact .inr (.inl (hx b hb'))
    · rcases List.mem_cons.mp hb with rfl | hb'
      · exact .inr (.inr (hx a ha'))
      · exact ih hl ha' hb'

/-- **Cells that are visited in some order are numbered in it.** If no visit of a counter is
followed by one that comes before it, then of two cells of this counter the one that comes
before the other has the smaller number. -/
theorem number_lt_of_before {before : κ × ι → κ × ι → Prop} {m : ℕ}
    (horder : l.Pairwise fun t t' => t.1 = t'.1 → ¬before t' t) (hirrefl : ∀ t, ¬before t t)
    (hx : (x, k, n) ∈ issue c l) (hy : (y, k, m) ∈ issue c l) (hbefore : before (k, x) (k, y)) :
    n < m := by
  have hvisits : (issue c l).Pairwise fun e e' =>
      e.2.1 = e'.2.1 → ¬before (e'.2.1, e'.1) (e.2.1, e.1) := by
    rw [← map_issue c l, List.pairwise_map] at horder
    exact horder
  rcases cases_of_pairwise ((pairwise_issue c l).and hvisits) hx hy with heq | h | h
  · obtain ⟨rfl, -⟩ := Prod.mk.inj heq
    exact absurd hbefore (hirrefl _)
  · exact h.1 rfl
  · exact absurd hbefore (h.2 rfl)

/-! ### Cells of a state -/

section Stamp

variable {σ ν : Type*} (write : κ → ℕ → ι → σ → σ)

/-- One visit: the counter moves on and the cell is written. -/
def stampOne (st : (κ → ℕ) × σ) (t : κ × ι) : (κ → ℕ) × σ :=
  (Function.update st.1 t.1 (st.1 t.1 + 1), write t.1 (st.1 t.1 + 1) t.2 st.2)

/-- The visits, in order. -/
def stampAll (st : (κ → ℕ) × σ) (l : List (κ × ι)) : (κ → ℕ) × σ := l.foldl (stampOne write) st

variable {write} {st : (κ → ℕ) × σ} {s : σ}

@[simp] theorem stampAll_nil : stampAll write st [] = st := rfl

@[simp] theorem stampAll_cons {t : κ × ι} :
    stampAll write st (t :: l) = stampAll write (stampOne write st t) l := rfl

theorem stampAll_append {l' : List (κ × ι)} :
    stampAll write st (l ++ l') = stampAll write (stampAll write st l) l' := List.foldl_append

theorem stampAll_fst (write : κ → ℕ → ι → σ → σ) (st : (κ → ℕ) × σ) :
    (stampAll write st l).1 = advance st.1 l := by
  induction l generalizing st with
  | nil => rfl
  | cons t l ih =>
    rw [stampAll_cons, ih, advance_cons]
    rfl

variable [DecidableEq ι] {cell : σ → ι → Option ν} {mark : κ → ℕ → ν → ν}

/-- A cell that is not visited holds what it held. -/
theorem cell_stampAll_of_not_mem (st : (κ → ℕ) × σ)
    (hwrite : ∀ k n x s y, cell (write k n x s) y =
      if y = x then (cell s y).map (mark k n) else cell s y)
    (hx : ∀ k, (k, x) ∉ l) : cell (stampAll write st l).2 x = cell st.2 x := by
  induction l generalizing st with
  | nil => rfl
  | cons t l ih =>
    have hne : x ≠ t.2 := by
      rintro rfl
      exact hx t.1 List.mem_cons_self
    rw [stampAll_cons, ih _ fun k hmem => hx k (List.mem_cons_of_mem _ hmem), stampOne, hwrite,
      if_neg hne]

/-- **A cell that is visited once holds the number it was issued.** -/
theorem cell_stampAll_of_mem (st : (κ → ℕ) × σ)
    (hwrite : ∀ k n x s y, cell (write k n x s) y =
      if y = x then (cell s y).map (mark k n) else cell s y)
    (hnodup : (l.map Prod.snd).Nodup) (hx : (x, k, n) ∈ issue st.1 l) :
    cell (stampAll write st l).2 x = (cell st.2 x).map (mark k n) := by
  induction l generalizing st with
  | nil => cases hx
  | cons t l ih =>
    obtain ⟨j, y⟩ := t
    rw [List.map_cons, List.nodup_cons] at hnodup
    rw [stampAll_cons]
    rcases List.mem_cons.mp hx with heq | htail
    · obtain ⟨rfl, rfl, rfl⟩ := by simpa using heq
      have hrest : ∀ j, (j, x) ∉ l := fun j hmem =>
        hnodup.1 (List.mem_map.mpr ⟨(j, x), hmem, rfl⟩)
      rw [cell_stampAll_of_not_mem _ hwrite hrest, stampOne, hwrite, if_pos rfl]
    · -- the first visit is to another cell
      have hne : x ≠ y := by
        rintro rfl
        exact hnodup.1 (List.mem_map.mpr ⟨(k, x), mem_of_mem_issue htail, rfl⟩)
      rw [ih _ hnodup.2 htail, stampOne, hwrite, if_neg hne]

end Stamp

end Ticketing
