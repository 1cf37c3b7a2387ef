import Mathlib.Tactic.ByContra

/-!
# Two checks made of the same tests

Each of two checks accepts what passes all of its tests, and the tests of the one match those
of the other. What fails a test may fail it in both checks or in one only. The checks say the
same exactly if a test fails in both, or if tests fail in each alone, or none in one alone.

## Main definitions

* `TwoChecks.Refusals` — by which checks one test is failed
* `TwoChecks.Agree` — what the refusals by all tests have to be

## Main results

* `TwoChecks.agree_iff` — when the two checks say the same
* `TwoChecks.agree_of_forall` — they do if no test fails in one of them alone
-/

namespace TwoChecks

/-- A test is failed in both checks, in the first only, or in the second only. -/
structure Refusals where
  both : Prop
  first : Prop
  second : Prop

/-- The refusals by a test that is passed in the first check if `p` and in the second if `q`. -/
structure Refusals.Tells (R : Refusals) (p q : Prop) : Prop where
  both_iff : R.both ↔ ¬p ∧ ¬q
  first_iff : R.first ↔ ¬p ∧ q
  second_iff : R.second ↔ p ∧ ¬q

variable {ι : Type*} {R : ι → Refusals} {p q : ι → Prop}

/-- A test is failed in both, or both checks refuse or neither does. -/
def Agree (R : ι → Refusals) : Prop :=
  (∃ i, (R i).both) ∨ ((∃ i, (R i).first) ↔ ∃ i, (R i).second)

/-- Where no test fails in both checks, one refuses exactly what fails a test there alone. -/
theorem forall_iff_not_exists (hboth : ¬∃ i, ¬p i ∧ ¬q i) :
    (∀ i, p i) ↔ ¬∃ i, ¬p i ∧ q i := by
  constructor
  · rintro h ⟨i, hp, -⟩
    exact hp (h i)
  · intro h i
    by_contra hp
    by_cases hq : q i
    · exact h ⟨i, hp, hq⟩
    · exact hboth ⟨i, hp, hq⟩

/-- **When the two checks say the same.** -/
theorem agree_iff (h : ∀ i, (R i).Tells (p i) (q i)) :
    ((∀ i, p i) ↔ ∀ i, q i) ↔ Agree R := by
  unfold Agree
  simp only [fun i => (h i).both_iff, fun i => (h i).first_iff, fun i => (h i).second_iff]
  by_cases hboth : ∃ i, ¬p i ∧ ¬q i
  · obtain ⟨i, hp, hq⟩ := hboth
    exact iff_of_true (iff_of_false (fun hall => hp (hall i)) fun hall => hq (hall i))
      (Or.inl ⟨i, hp, hq⟩)
  · have hswap : ¬∃ i, ¬q i ∧ ¬p i := fun ⟨i, hq, hp⟩ => hboth ⟨i, hp, hq⟩
    have hsecond : (∃ i, ¬q i ∧ p i) ↔ ∃ i, p i ∧ ¬q i := exists_congr fun i => and_comm
    rw [or_iff_right hboth, forall_iff_not_exists hboth, forall_iff_not_exists hswap, hsecond,
      not_iff_not]

theorem agree_of_forall (h : ∀ i, ¬(R i).first ∧ ¬(R i).second) : Agree R := by
  refine Or.inr (iff_of_false ?_ ?_)
  · rintro ⟨i, hfirst⟩
    exact (h i).1 hfirst
  · rintro ⟨i, hsecond⟩
    exact (h i).2 hsecond

end TwoChecks
