import Mathlib.Algebra.BigOperators.Group.Finset.Piecewise
import Mathlib.Algebra.BigOperators.Group.List.Lemmas
import Mathlib.Algebra.Order.BigOperators.Group.List
import Mathlib.Algebra.Order.Group.Int
import Mathlib.Tactic.Abel

/-!
# Running totals and the ledger behind them

A program keeps a running total for each account and a ledger of rows, and each row
stands for postings to some accounts. The totals are in balance with the ledger when
every one of them is its baseline plus what the rows book on it. Recording rows together
with their postings keeps the balance, and so does reversing the postings of the rows
that are struck out.

## Main definitions

* `Ledger.booked` — what a list of postings books on an account
* `Ledger.postAll` — the totals after a list of postings
* `Ledger.reversal` — the postings that undo others
* `Ledger.Balanced` — the totals are the baseline plus the ledger
* `Ledger.grouped` — the sum of an amount in each group of rows

## Main results

* `postAll_apply` — posting adds exactly what is booked
* `Balanced.record`, `Balanced.strike` — the two moves that keep the balance
* `filter_replaced` — rows replaced by key
* `sum_fiberwise` — a sum over rows, taken group by group
* `booked_grouped` — posting the sum of each group books the same as posting row by row
-/

namespace Ledger

variable {α M ρ κ : Type*} [DecidableEq α] [AddCommGroup M]

/-- What the postings book on an account. -/
def booked (ps : List (α × M)) (a : α) : M := (ps.map fun p => if p.1 = a then p.2 else 0).sum

/-- The totals after one posting. -/
def post (totals : α → M) (p : α × M) : α → M := Function.update totals p.1 (totals p.1 + p.2)

/-- The totals after a list of postings. -/
def postAll (totals : α → M) (ps : List (α × M)) : α → M := ps.foldl post totals

/-- The postings that undo others. -/
def reversal (ps : List (α × M)) : List (α × M) := ps.map fun p => (p.1, -p.2)

variable {a : α} {p : α × M} {ps qs : List (α × M)} {totals : α → M}

@[simp] theorem booked_nil : booked ([] : List (α × M)) a = 0 := rfl

@[simp] theorem booked_cons :
    booked (p :: ps) a = (if p.1 = a then p.2 else 0) + booked ps a := by
  simp only [booked, List.map_cons, List.sum_cons]

@[simp] theorem booked_append : booked (ps ++ qs) a = booked ps a + booked qs a := by
  simp only [booked, List.map_append, List.sum_append]

theorem booked_perm (h : ps.Perm qs) (a : α) : booked ps a = booked qs a :=
  (h.map _).sum_eq

@[simp] theorem booked_reversal : booked (reversal ps) a = -booked ps a := by
  induction ps with
  | nil => simp [reversal]
  | cons p ps ih =>
    rw [reversal, List.map_cons, booked_cons, booked_cons, neg_add, ← ih, reversal]
    split_ifs
    · rfl
    · rw [neg_zero]

/-- Postings that only add book no negative amount. -/
theorem booked_nonneg {ps : List (α × ℤ)} (h : ∀ p ∈ ps, 0 ≤ p.2) (a : α) : 0 ≤ booked ps a := by
  apply List.sum_nonneg
  intro x hx
  obtain ⟨p, hp, rfl⟩ := List.mem_map.mp hx
  split_ifs
  · exact h p hp
  · exact le_rfl

@[simp] theorem postAll_nil : postAll totals [] = totals := rfl

@[simp] theorem postAll_cons : postAll totals (p :: ps) = postAll (post totals p) ps := rfl

theorem postAll_append : postAll totals (ps ++ qs) = postAll (postAll totals ps) qs :=
  List.foldl_append

/-- Posting adds exactly what is booked. -/
theorem postAll_apply (totals : α → M) (ps : List (α × M)) (a : α) :
    postAll totals ps a = totals a + booked ps a := by
  induction ps generalizing totals with
  | nil => simp
  | cons p ps ih =>
    rw [postAll_cons, ih, booked_cons, post, Function.update_apply]
    split_ifs with h h' h'
    · subst h
      rw [add_assoc]
    · exact absurd h.symm h'
    · exact absurd h'.symm h
    · rw [zero_add]

/-- The order of postings does not matter. -/
theorem postAll_comm (totals : α → M) (ps qs : List (α × M)) :
    postAll (postAll totals ps) qs = postAll (postAll totals qs) ps := by
  funext a
  simp only [postAll_apply, add_right_comm]

/-! ### Rows -/

section Rows

variable {base : α → M} {rows new : List ρ} {entries : ρ → List (α × M)}

/-- Every total is its baseline plus what the rows book on it. -/
def Balanced (entries : ρ → List (α × M)) (base totals : α → M) (rows : List ρ) : Prop :=
  ∀ a, totals a = base a + booked (rows.flatMap entries) a

/-- The totals and an empty ledger are in balance from there on. -/
theorem balanced_nil (entries : ρ → List (α × M)) (totals : α → M) :
    Balanced entries totals totals [] := by
  intro a
  simp

/-- **Recording** rows with postings that book the same keeps the balance. -/
theorem Balanced.record (h : Balanced entries base totals rows)
    (hps : ∀ a, booked ps a = booked (new.flatMap entries) a) :
    Balanced entries base (postAll totals ps) (rows ++ new) := by
  intro a
  rw [postAll_apply, h a, hps a, List.flatMap_append, booked_append, add_assoc]

/-- What rows book, row by row. -/
theorem booked_flatMap (entries : ρ → List (α × M)) (rows : List ρ) (a : α) :
    booked (rows.flatMap entries) a = (rows.map fun r => booked (entries r) a).sum := by
  induction rows with
  | nil => rfl
  | cons r rows ih =>
    rw [List.flatMap_cons, booked_append, ih, List.map_cons, List.sum_cons]

/-- What rows book depends only on what each of them books. -/
theorem booked_flatMap_congr {entries' : ρ → List (α × M)}
    (h : ∀ r ∈ rows, booked (entries r) a = booked (entries' r) a) :
    booked (rows.flatMap entries) a = booked (rows.flatMap entries') a := by
  rw [booked_flatMap, booked_flatMap, List.map_congr_left h]

/-- Rows that each undo what other entries book undo all of it. -/
theorem booked_flatMap_neg {entries' : ρ → List (α × M)}
    (h : ∀ r ∈ rows, booked (entries r) a = -booked (entries' r) a) :
    booked (rows.flatMap entries) a = -booked (rows.flatMap entries') a := by
  induction rows with
  | nil => simp
  | cons r rows ih =>
    rw [List.flatMap_cons, List.flatMap_cons, booked_append, booked_append,
      h r List.mem_cons_self, ih fun r' hr' => h r' (List.mem_cons_of_mem _ hr'), neg_add]

/-- Rows that replace those of their key are what the key has afterwards. -/
theorem filter_replaced [BEq κ] [LawfulBEq κ] {key : ρ → κ} {k k' : κ} {rows new : List ρ}
    (hnew : ∀ row ∈ new, key row = k) [Decidable (k = k')] :
    ((rows.filter fun row => !(key row == k)) ++ new).filter (fun row => key row == k') =
      if k = k' then new else rows.filter fun row => key row == k' := by
  rw [List.filter_append, List.filter_filter]
  split_ifs with hk
  · subst hk
    have hold : rows.filter (fun row => key row == k && !(key row == k)) = [] := by
      simp
    have hall : new.filter (fun row => key row == k) = new :=
      List.filter_eq_self.mpr fun row hrow => beq_iff_eq.mpr (hnew row hrow)
    rw [hold, hall, List.nil_append]
  · have hnone : new.filter (fun row => key row == k') = [] := by
      refine List.filter_eq_nil_iff.mpr fun row hrow => ?_
      rw [hnew row hrow, beq_iff_eq]
      exact hk
    rw [hnone, List.append_nil]
    apply List.filter_congr
    intro row _
    by_cases hrow : key row = k'
    · simp [hrow, Ne.symm hk]
    · simp [hrow]

/-- The rows that satisfy a predicate and the others book what all rows book. -/
theorem booked_filter_add (q : ρ → Bool) (rows : List ρ) (a : α) :
    booked ((rows.filter q).flatMap entries) a +
      booked ((rows.filter fun r => !q r).flatMap entries) a =
        booked (rows.flatMap entries) a := by
  rw [← booked_append, ← List.flatMap_append]
  exact booked_perm ((List.filter_append_perm q rows).flatMap_right entries) a

/-- **Striking out** rows and posting what undoes them keeps the balance. -/
theorem Balanced.strike (h : Balanced entries base totals rows) (q : ρ → Bool)
    (hps : ∀ a, booked ps a = -booked ((rows.filter q).flatMap entries) a) :
    Balanced entries base (postAll totals ps) (rows.filter fun r => !q r) := by
  intro a
  rw [postAll_apply, h a, hps a, ← booked_filter_add q rows a]
  abel

end Rows

/-! ### Groups of rows -/

/-- A sum over rows, taken group by group. -/
theorem sum_fiberwise [DecidableEq κ] (key : ρ → κ) (f : ρ → M) {rows : List ρ} {keys : Finset κ}
    (hkeys : ∀ r ∈ rows, key r ∈ keys) :
    ∑ k ∈ keys, ((rows.filter fun r => key r = k).map f).sum = (rows.map f).sum := by
  induction rows with
  | nil => simp
  | cons r rows ih =>
    have hrow : ∀ k, (((r :: rows).filter fun r => key r = k).map f).sum =
        (if key r = k then f r else 0) + ((rows.filter fun r => key r = k).map f).sum := by
      intro k
      by_cases hk : key r = k
      · simp [hk]
      · simp [hk]
    rw [Finset.sum_congr rfl fun k _ => hrow k, Finset.sum_add_distrib,
      ih fun r hr => hkeys r (List.mem_cons_of_mem _ hr), Finset.sum_ite_eq,
      if_pos (hkeys r List.mem_cons_self), List.map_cons, List.sum_cons]

/-- `SELECT key, SUM(amount) … GROUP BY key` -/
def grouped [DecidableEq κ] (key : ρ → κ) (amount : ρ → M) (rows : List ρ) : List (κ × M) :=
  (rows.map key).dedup.map fun k => (k, ((rows.filter fun r => key r = k).map amount).sum)

/-- Posting an amount under a key is additive in the amount. -/
def PostsAdditively (posting : κ → M → List (α × M)) : Prop :=
  ∀ k a, ∃ φ : M →+ M, ∀ x, booked (posting k x) a = φ x

theorem PostsAdditively.booked_neg {posting : κ → M → List (α × M)} (h : PostsAdditively posting)
    (k : κ) (x : M) (a : α) : booked (posting k (-x)) a = -booked (posting k x) a := by
  obtain ⟨φ, hφ⟩ := h k a
  rw [hφ, hφ, map_neg]

/-- Posting the sum of each group books the same as posting row by row. -/
theorem booked_grouped [DecidableEq κ] {posting : κ → M → List (α × M)}
    (h : PostsAdditively posting) (key : ρ → κ) (amount : ρ → M) (rows : List ρ) (a : α) :
    booked ((grouped key amount rows).flatMap fun g => posting g.1 g.2) a =
      booked (rows.flatMap fun r => posting (key r) (amount r)) a := by
  have hkeys : ∀ r ∈ rows, key r ∈ (rows.map key).dedup.toFinset := by
    intro r hr
    rw [List.mem_toFinset, List.mem_dedup]
    exact List.mem_map_of_mem hr
  have hgroup : ∀ k, booked (posting k ((rows.filter fun r => key r = k).map amount).sum) a =
      ((rows.filter fun r => key r = k).map fun r => booked (posting (key r) (amount r)) a).sum := by
    intro k
    obtain ⟨φ, hφ⟩ := h k a
    rw [hφ, map_list_sum, List.map_map]
    congr 1
    apply List.map_congr_left
    intro r hr
    obtain rfl := of_decide_eq_true (List.mem_filter.mp hr).2
    exact (hφ _).symm
  rw [booked_flatMap, booked_flatMap, ← sum_fiberwise key _ hkeys, grouped, List.map_map,
    List.sum_toFinset _ (List.nodup_dedup _)]
  congr 1
  exact List.map_congr_left fun k _ => hgroup k

end Ledger
