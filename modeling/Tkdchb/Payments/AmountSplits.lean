import Mathlib.Algebra.Order.Group.Abs
import Tkdchb.Payments.GroupFinalization

/-!
# Splitting the amount of a group

A group is paid with one amount, which is written to the enrollments of its students in
parts. The payments and the coach's view each have their own copy of the function that finds
the parts. Here the copies are modelled with all that they may raise: `int` may refuse what it
is given, and a part may not be there.

## Main definitions

* `PaymentsViews.splitAmounts`, `CoachRegisterStudentsView.splitAmounts` — the two copies of
  `_split_amounts`
* `raisedParts` — the indices that their loop writes

## Main results

* `PaymentsViews.splitAmounts_eq_ok_iff` — the parts are the even split, whatever the sign of
  the amount
* `PaymentsViews.splitAmounts_natCast` — the finalisations split amounts in that way
* `split_amount_is_kept` — splitting loses nothing, in either copy
-/

namespace Tkdchb

open EvenSplit

/-- What `_split_amounts` may raise. -/
inductive SplitError where
  | valueError
  | indexError
  deriving DecidableEq, Repr

section Copies

-- `int(x or 0)` of what a caller gives, which is a number in both calls
variable {α : Type} (intOrZero : α → Except SplitError ℤ)

/-- `_split_amounts` of `payments/views.py` -/
def PaymentsViews.splitAmounts (total n : α) : Except SplitError (List ℤ) := do
  let total ← intOrZero total
  let n ← intOrZero n
  if n ≤ 0 then return []
  let base := total.fdiv n
  let rem := total - base * n
  let parts := List.replicate n.toNat base
  -- `for i in range(rem): parts[i] += 1`
  (List.range rem.toNat).foldlM (raise .indexError) parts

/-- `CoachRegisterStudentsView._split_amounts` -/
def CoachRegisterStudentsView.splitAmounts (total n : α) : Except SplitError (List ℤ) := do
  let total ← intOrZero total
  let n ← intOrZero n
  if n ≤ 0 then return []
  let base := total.fdiv n
  let rem := total - base * n
  let parts := List.replicate n.toNat base
  (List.range rem.toNat).foldlM (raise .indexError) parts

end Copies

/-- The indices of `range(rem)`. -/
def raisedParts (total n : ℤ) : List ℕ := List.range (total - total.fdiv n * n).toNat

section Integers

variable {total n : ℤ}

/-- The remainder of a division that rounds down. -/
theorem remainder_eq (hn : 1 ≤ n) : total - total.fdiv n * n = total % n := by
  rw [Int.fdiv_eq_ediv_of_nonneg total (by omega), Int.emod_def, Int.mul_comm]

/-- The loop writes fewer parts than there are. -/
theorem lt_of_mem_raisedParts (hn : 1 ≤ n) {i : ℕ} (hi : i ∈ raisedParts total n) :
    (i : ℤ) < n := by
  rw [raisedParts, remainder_eq hn, List.mem_range] at hi
  have hlt : total % n < n := Int.emod_lt_of_pos total (by omega)
  omega

end Integers

namespace PaymentsViews

variable {α : Type} {intOrZero : α → Except SplitError ℤ} {x y : α} {total n : ℤ}

/-- The parts are the quotient, and one more in the first ones. -/
theorem splitAmounts_eq (hx : intOrZero x = .ok total) (hy : intOrZero y = .ok n) (hn : 1 ≤ n) :
    splitAmounts intOrZero x y =
      .ok (runs (total / n) (total % n).toNat (n.toNat - (total % n).toNat)) := by
  have hle : (total % n).toNat ≤ n.toNat := by
    have hlt : total % n < n := Int.emod_lt_of_pos total (by omega)
    omega
  have hloop := foldlM_raise SplitError.indexError (total / n) (total % n).toNat
    (n.toNat - (total % n).toNat)
  rw [Nat.add_sub_cancel' hle] at hloop
  unfold splitAmounts
  rw [hx, hy]
  change (if n ≤ 0 then _ else _) = _
  rw [if_neg (by omega), remainder_eq hn, Int.fdiv_eq_ediv_of_nonneg total (by omega)]
  exact hloop

/-- **The parts are the even split** of the amount, of either sign, and nothing is raised. -/
theorem splitAmounts_eq_ok_iff (hx : intOrZero x = .ok total) (hy : intOrZero y = .ok n)
    (hn : 1 ≤ n) {parts : List ℤ} :
    splitAmounts intOrZero x y = .ok parts ↔ IsEven total n.toNat parts := by
  have hpos : n.toNat ≠ 0 := by omega
  have hcast : (n.toNat : ℤ) = n := Int.toNat_of_nonneg (by omega)
  have heven := isEven_div_mod total hpos
  rw [splitAmounts_eq hx hy hn]
  rw [hcast] at heven
  constructor
  · intro h
    rw [← Except.ok.inj h]
    exact heven
  · intro h
    have hruns := h.eq_runs hpos
    rw [hcast] at hruns
    rw [hruns]

end PaymentsViews

/-! ### The amounts of the finalisations -/

/-- The finalisations split amounts as the copies do. -/
theorem PaymentsViews.splitAmounts_natCast (total n : ℕ) :
    PaymentsViews.splitAmounts Except.ok (total : ℤ) (n : ℤ) =
      .ok ((Tkdchb.splitAmounts total n).map Nat.cast) := by
  by_cases hn : n = 0
  · subst hn
    rfl
  · rw [PaymentsViews.splitAmounts_eq rfl rfl (by omega), splitAmounts_eq_runs total hn,
      map_cast_runs, Int.toNat_natCast, ← Int.natCast_emod, Int.toNat_natCast, Int.natCast_ediv]

/-! ### Splitting loses nothing -/

/-- **Splitting loses nothing.** The parts are there, they add up to the amount and no two are
far apart, and the two copies agree whatever they are given. -/
theorem split_amount_is_kept {α : Type} (intOrZero : α → Except SplitError ℤ) :
    (∀ (x y : α) (total n : ℤ), intOrZero x = .ok total → intOrZero y = .ok n →
      0 ≤ total → 1 ≤ n →
        ∃ parts, PaymentsViews.splitAmounts intOrZero x y = .ok parts ∧
          (parts.length : ℤ) = n ∧ (∀ p ∈ parts, 0 ≤ p) ∧ parts.sum = total ∧
          parts.Pairwise (· ≥ ·) ∧ (∀ p ∈ parts, ∀ q ∈ parts, |p - q| ≤ 1) ∧
          ∀ i ∈ raisedParts total n, i < parts.length) ∧
      ∀ x y, CoachRegisterStudentsView.splitAmounts intOrZero x y =
        PaymentsViews.splitAmounts intOrZero x y := by
  refine ⟨fun x y total n hx hy htotal hn => ?_, fun x y => rfl⟩
  have hsplit := PaymentsViews.splitAmounts_eq hx hy hn
  have heven := (PaymentsViews.splitAmounts_eq_ok_iff hx hy hn).mp hsplit
  have hlength : (runs (total / n) (total % n).toNat
      (n.toNat - (total % n).toNat)).length = n.toNat := heven.length_eq
  have hquotient : 0 ≤ total / n := Int.ediv_nonneg htotal (by omega)
  refine ⟨_, hsplit, ?_, ?_, heven.sum_eq, heven.sorted, ?_, ?_⟩
  · rw [hlength]
    exact Int.toNat_of_nonneg (by omega)
  · intro p hp
    rcases mem_runs.mp hp with ⟨-, rfl⟩ | ⟨-, rfl⟩ <;> omega
  · intro p hp q hq
    have hpq := heven.close p hp q hq
    have hqp := heven.close q hq p hp
    exact abs_sub_le_iff.mpr ⟨by omega, by omega⟩
  · intro i hi
    have hlt := lt_of_mem_raisedParts hn hi
    rw [hlength]
    omega

/-- Ten among three, as a number or as nothing at all. -/
theorem split_amount_is_kept_ten :
    ∃ parts, PaymentsViews.splitAmounts (fun x : Option ℤ => .ok (x.getD 0)) (some 10) (some 3) =
        .ok parts ∧ parts.sum = 10 ∧ parts = [4, 3, 3] := by
  obtain ⟨parts, hparts, -, -, hsum, -⟩ :=
    (split_amount_is_kept fun x : Option ℤ => .ok (x.getD 0)).1 (some 10) (some 3) 10 3 rfl rfl
      (by decide) (by decide)
  refine ⟨parts, hparts, hsum, ?_⟩
  have hrun : PaymentsViews.splitAmounts (fun x : Option ℤ => .ok (x.getD 0)) (some 10) (some 3) =
      .ok [4, 3, 3] := by decide
  exact Except.ok.inj (hparts.symm.trans hrun)

end Tkdchb
