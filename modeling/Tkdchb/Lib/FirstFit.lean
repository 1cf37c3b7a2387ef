import Mathlib.Data.List.Sort
import Mathlib.Order.Lattice.Nat

/-!
# The first that fits

Rows that come in no promised order are searched for the first that fits. One search takes
them as they come. Another one orders them by a key, and rows of equal key still come in no
promised order. Two such searches find the same whatever the orders exactly if none of the
rows fits either, or one row is all that fits the one and the only least that fits the other.

## Main definitions

* `FirstFit.leastFit` — the rows of a query, ordered by a key, and the first that fits

## Main results

* `FirstFit.find?_spec`, `FirstFit.exists_perm_find?` — what a search may find
* `FirstFit.leastFit_spec`, `FirstFit.exists_perm_leastFit` — what an ordered search may find
* `FirstFit.agree_iff` — when the two find the same
-/

namespace FirstFit

variable {α κ : Type*} [LinearOrder κ] {key : α → κ} {query fits fits' : α → Bool} {l : List α}
  {x y : α}

/-! ### Rows as they come -/

/-- What a search finds is a row that fits. -/
theorem find?_spec {l' : List α} (hperm : l'.Perm l) (h : l'.find? fits = some x) :
    x ∈ l ∧ fits x = true :=
  ⟨hperm.mem_iff.mp (List.mem_of_find?_eq_some h), List.find?_some h⟩

/-- Any row may come first. -/
theorem exists_perm_cons (hx : x ∈ l) : ∃ rest, (x :: rest).Perm l := by
  obtain ⟨s, t, rfl⟩ := List.append_of_mem hx
  exact ⟨s ++ t, List.perm_middle.symm⟩

/-- **Any row that fits may be found.** -/
theorem exists_perm_find? (hx : x ∈ l) (hfits : fits x = true) :
    ∃ l' : List α, l'.Perm l ∧ l'.find? fits = some x := by
  obtain ⟨rest, hperm⟩ := exists_perm_cons hx
  exact ⟨x :: rest, hperm, List.find?_cons_of_pos hfits⟩

/-! ### Rows in the order of a key -/

/-- The rows of a query, ordered by a key: the first that fits. -/
def leastFit (key : α → κ) (query fits : α → Bool) (l : List α) : Option α :=
  ((l.filter query).insertionSort fun x y => key x ≤ key y).find? fits

theorem mem_sorted_iff :
    x ∈ (l.filter query).insertionSort (fun x y => key x ≤ key y) ↔ x ∈ l ∧ query x = true := by
  rw [List.mem_insertionSort, List.mem_filter]

theorem leastFit_eq_none_iff :
    leastFit key query fits l = none ↔ ∀ x ∈ l, query x = true → fits x = false := by
  simp only [leastFit, List.find?_eq_none, mem_sorted_iff, and_imp, Bool.not_eq_true]

/-- The first that fits is before all others that fit. -/
theorem eq_or_rel_of_find? {r : α → α → Prop} (hsorted : l.Pairwise r)
    (h : l.find? fits = some x) (hy : y ∈ l) (hfits : fits y = true) : x = y ∨ r x y := by
  induction l with
  | nil => cases hy
  | cons z l ih =>
    obtain ⟨hz, hl⟩ := List.pairwise_cons.mp hsorted
    by_cases hfound : fits z = true
    · rw [List.find?_cons_of_pos hfound, Option.some.injEq] at h
      subst h
      rcases List.mem_cons.mp hy with rfl | hy'
      · exact .inl rfl
      · exact .inr (hz y hy')
    · rw [List.find?_cons_of_neg hfound] at h
      rcases List.mem_cons.mp hy with rfl | hy'
      · exact absurd hfits hfound
      · exact ih hl h hy'

/-- **An ordered search finds a least row that fits.** -/
theorem leastFit_spec {l' : List α} (hperm : l'.Perm l) (h : leastFit key query fits l' = some x) :
    x ∈ l ∧ query x = true ∧ fits x = true ∧
      ∀ y ∈ l, query y = true → fits y = true → key x ≤ key y := by
  have : Std.Total fun x y : α => key x ≤ key y := ⟨fun x y => le_total (key x) (key y)⟩
  have : IsTrans α fun x y : α => key x ≤ key y := ⟨fun _ _ _ => le_trans⟩
  have hsorted : ((l'.filter query).insertionSort fun x y => key x ≤ key y).Pairwise
      fun x y => key x ≤ key y := List.pairwise_insertionSort _ _
  rw [leastFit] at h
  obtain ⟨hx, hquery⟩ := mem_sorted_iff.mp (List.mem_of_find?_eq_some h)
  refine ⟨hperm.mem_iff.mp hx, hquery, List.find?_some h, fun y hy hquery' hfits => ?_⟩
  have hy' : y ∈ (l'.filter query).insertionSort fun x y => key x ≤ key y :=
    mem_sorted_iff.mpr ⟨hperm.mem_iff.mpr hy, hquery'⟩
  rcases eq_or_rel_of_find? hsorted h hy' hfits with rfl | hle
  · exact le_rfl
  · exact hle

/-- A row that is inserted is found, if no smaller one fits. -/
theorem find?_orderedInsert (hfits : fits x = true)
    (hleast : ∀ y ∈ l, fits y = true → key x ≤ key y) :
    (l.orderedInsert (fun x y => key x ≤ key y) x).find? fits = some x := by
  induction l with
  | nil => simp [hfits]
  | cons y l ih =>
    rw [List.orderedInsert_cons]
    split_ifs with hle
    · exact List.find?_cons_of_pos hfits
    · have hy : ¬fits y = true := fun hfound => hle (hleast y List.mem_cons_self hfound)
      rw [List.find?_cons_of_neg hy]
      exact ih fun z hz => hleast z (List.mem_cons_of_mem _ hz)

/-- **Any least row that fits may be found.** -/
theorem exists_perm_leastFit (hx : x ∈ l) (hquery : query x = true) (hfits : fits x = true)
    (hleast : ∀ y ∈ l, query y = true → fits y = true → key x ≤ key y) :
    ∃ l' : List α, l'.Perm l ∧ leastFit key query fits l' = some x := by
  obtain ⟨rest, hperm⟩ := exists_perm_cons hx
  refine ⟨x :: rest, hperm, ?_⟩
  rw [leastFit, List.filter_cons_of_pos hquery, List.insertionSort_cons]
  apply find?_orderedInsert hfits
  intro y hy hfits'
  obtain ⟨hy, hquery'⟩ := mem_sorted_iff.mp hy
  exact hleast y (hperm.mem_iff.mp (List.mem_cons_of_mem _ hy)) hquery' hfits'

/-! ### Two searches -/

/-- **When the two searches find the same**, in whatever orders the rows come. -/
theorem agree_iff :
    (∀ l₁ l₂ : List α, l₁.Perm l → l₂.Perm l → leastFit key query fits l₁ = l₂.find? fits') ↔
      (∀ x ∈ l, (query x && fits x) = false ∧ fits' x = false) ∨
        ∃ x ∈ l, (query x && fits x) = true ∧ fits' x = true ∧
          ∀ y ∈ l, (fits' y = true → y = x) ∧
            ((query y && fits y) = true → y = x ∨ key x < key y) := by
  simp only [Bool.and_eq_true, Bool.and_eq_false_imp]
  constructor
  · intro hagree
    cases hfirst : leastFit key query fits l with
    | none =>
      left
      intro x hx
      refine ⟨leastFit_eq_none_iff.mp hfirst x hx, Bool.eq_false_iff.mpr fun hfits => ?_⟩
      obtain ⟨l₂, hperm, hfound⟩ := exists_perm_find? hx hfits
      have hnone := hagree l l₂ (List.Perm.refl _) hperm
      rw [hfirst, hfound] at hnone
      cases hnone
    | some x =>
      right
      have hfound : ∀ l₂ : List α, l₂.Perm l → l₂.find? fits' = some x := by
        intro l₂ hperm
        rw [← hagree l l₂ (List.Perm.refl _) hperm, hfirst]
      obtain ⟨hx, hquery, hfits, hleast⟩ := leastFit_spec (List.Perm.refl _) hfirst
      have hfits' := (find?_spec (List.Perm.refl _) (hfound l (List.Perm.refl _))).2
      refine ⟨x, hx, ⟨hquery, hfits⟩, hfits', fun y hy => ⟨fun hother => ?_, ?_⟩⟩
      · -- another row that fits could come first
        obtain ⟨l₂, hperm, hsome⟩ := exists_perm_find? hy hother
        exact Option.some.inj (hsome.symm.trans (hfound l₂ hperm))
      · rintro ⟨hquery', hfits'⟩
        by_contra! hequal
        -- a row of the same key could come before
        obtain ⟨l₁, hperm, hsome⟩ := exists_perm_leastFit hy hquery' hfits'
          fun z hz hz₁ hz₂ => hequal.2.trans (hleast z hz hz₁ hz₂)
        have hsame := hagree l₁ l hperm (List.Perm.refl _)
        rw [hsome, hfound l (List.Perm.refl _)] at hsame
        exact hequal.1 (Option.some.inj hsame)
  · rintro (hnone | ⟨x, hx, ⟨hquery, hfits⟩, hfits', hother⟩) l₁ l₂ hperm₁ hperm₂
    · have hfirst : leastFit key query fits l₁ = none :=
        leastFit_eq_none_iff.mpr fun x hx => (hnone x (hperm₁.mem_iff.mp hx)).1
      have hsecond : l₂.find? fits' = none :=
        List.find?_eq_none.mpr fun x hx => by simp [(hnone x (hperm₂.mem_iff.mp hx)).2]
      rw [hfirst, hsecond]
    · have hfirst : leastFit key query fits l₁ = some x := by
        cases hcase : leastFit key query fits l₁ with
        | none =>
          have hmiss := leastFit_eq_none_iff.mp hcase x (hperm₁.mem_iff.mpr hx) hquery
          rw [hfits] at hmiss
          cases hmiss
        | some y =>
          obtain ⟨hy, hquery', hfits'', hleast⟩ := leastFit_spec hperm₁ hcase
          rcases (hother y hy).2 ⟨hquery', hfits''⟩ with rfl | hlt
          · rfl
          · exact absurd (hleast x hx hquery hfits) hlt.not_ge
      have hsecond : l₂.find? fits' = some x := by
        cases hcase : l₂.find? fits' with
        | none =>
          exact absurd hfits' (List.find?_eq_none.mp hcase x (hperm₂.mem_iff.mpr hx))
        | some y =>
          obtain ⟨hy, hfound⟩ := find?_spec hperm₂ hcase
          rw [(hother y hy).1 hfound]
      rw [hfirst, hsecond]

end FirstFit
