import Tkdchb.Rankings.Results

/-!
# Two ways of scoring

`apply_results_and_points` scores a result too. It writes and reverses the same ledger
rows as `KyorugiResult.save`, with other points, on other totals, and it alone keeps the
medal counters. Each of the two takes back the rows it finds as if it had written them.

The service also saves the medal on each enrollment, and the signal of that save may
award participation points once the transaction is committed.

## Main definitions

* `applyPoints`, `medalCounterUpdate`, `applyResultsAndPoints` — the service
* `RankingTransaction.postings`, `RankingTransaction.medalPostings` — what a row
  contributes, by its writer
* `ScoringSound` — totals and counters are their baselines plus the ledger
* `ScoringCall.OwnRows` — the call takes back only rows of its own implementation

## Main results

* `scoringSound_step` — such a call keeps the totals and counters sound
* `scoring_sound_of_ownRows` — and so does every run of such calls
* `save_then_service` — the two cannot be mixed on one result
-/

namespace Tkdchb

open Ledger Transition

/-! ### The service -/

/-- A place on the podium. -/
inductive Place where
  | first
  | second
  | third
  deriving DecidableEq, Repr

/-- `_medal_of_place` -/
def medalOfPlace : Place → Medal
  | .first => .gold
  | .second => .silver
  | .third => .bronze

/-- `PLAYER_POINTS` -/
def playerPoints : Place → ℚ
  | .first => 7
  | .second => 3
  | .third => 1

/-- `COACH_POINTS` -/
def coachPoints : Medal → ℚ
  | .gold => 1
  | .silver => 3 / 4
  | .bronze => 1 / 2

/-- `ORG_POINTS` -/
def orgPoints : Medal → ℚ
  | .gold => 3 / 4
  | .silver => 1 / 2
  | .bronze => 1 / 4

/-- The total that the service keeps for a subject. -/
def serviceAccount : SubjectType → ℤ → Account
  | .player, id => .competition id
  | .coach, id => .profile id
  | .club, id => .club id
  | .board, id => .board id

/-- `_apply_points` -/
def applyPoints (subject : SubjectType × ℤ) (delta : ℚ) : List Posting :=
  if subject.2 = 0 ∨ delta = 0 then [] else [(serviceAccount subject.1 subject.2, delta)]

/-- The counter of a subject, for the subjects that have one. -/
def medalCounter : SubjectType → ℤ → Medal → Option MedalCounter
  | .player, id, medal => some (.profile id medal)
  | .club, id, medal => some (.club id medal)
  | _, _, _ => none

/-- `_medal_counter_update`. A counter does not go below zero. -/
def medalCounterUpdate (subject : SubjectType × ℤ × Medal) (delta : ℤ)
    (medals : MedalCounter → ℕ) : MedalCounter → ℕ :=
  if subject.2.1 = 0 ∨ delta = 0 then medals
  else
    match medalCounter subject.1 subject.2.1 subject.2.2 with
    | none => medals
    | some counter =>
      Function.update medals counter
        (if delta < 0 ∧ (medals counter : ℤ) ≤ |delta| then 0
        else ((medals counter : ℤ) + delta).toNat)

/-- The rows of `_award_transactions_for_enrollment`. A number zero counts as none. -/
def awardTransactions (pk competition : ℕ) (place : Place) (e : Enrollment) :
    List RankingTransaction :=
  let medal := medalOfPlace place
  let row (subjectType : SubjectType) (subjectId : ℤ) (points : ℚ) : RankingTransaction :=
    ⟨competition, pk, subjectType, subjectId, medal, points, .service⟩
  [row .player e.player (playerPoints place)]
    ++ ((e.coach.filter (· ≠ 0)).map fun coach => row .coach coach (coachPoints medal)).toList
    ++ ((e.club.filter (· ≠ 0)).map fun club => row .club club (orgPoints medal)).toList
    ++ ((e.board.filter (· ≠ 0)).map fun board => row .board board (orgPoints medal)).toList

/-- A call of `apply_results_and_points`. -/
structure ServiceCall where
  pk : ℕ
  result : KyorugiResult Medalist
  catalogue : Catalogue
  /-- what the award of an enrollment is resolved with -/
  roster : Roster

/-- `mapping` -/
def ServiceCall.mapping (c : ServiceCall) : List (Option Medalist × Place) :=
  [(c.result.gold, .first), (c.result.silver, .second), (c.result.bronze1, .third),
    (c.result.bronze2, .third)]

/-- The rows the call writes. -/
def ServiceCall.rows (c : ServiceCall) : List RankingTransaction :=
  c.mapping.flatMap fun (e, place) =>
    match e with
    | none => []
    | some e => awardTransactions c.pk c.result.competition place e.enrollment

/-- The enrollments the call saves: those that carry another medal, or none. -/
def ServiceCall.saved (c : ServiceCall) : List Medalist :=
  c.mapping.filterMap fun (e, place) => e.filter fun e => e.medal ≠ some (medalOfPlace place)

/-- The database accepts what the call writes: a save of one column needs its row, and a
ranking transaction needs its result and its competition. -/
def ServiceCall.accepted (c : ServiceCall) (s : RankingState) : Bool :=
  (c.saved.all fun e => (s.enrollments.get e.pk).isSome) &&
    (c.rows.isEmpty ||
      ((s.results.get c.pk).isSome && c.catalogue.hasCompetition c.result.competition))

/-- `_award_points_after_payment`, with no one else at work. -/
def RankingState.award (s : RankingState) (roster : Roster) (pk : ℕ) (self : Enrollment) :
    RankingState :=
  if hasAward s.awards pk then s
  else
    let award := awardFor roster pk self
    { s with
      awards := s.awards ++ [award]
      totals := postAll s.totals award.postings }

/-- The subject of a row, and the subject with the medal. -/
def RankingTransaction.subject (tx : RankingTransaction) : SubjectType × ℤ :=
  (tx.subjectType, tx.subjectId)

def RankingTransaction.subjectMedal (tx : RankingTransaction) : SubjectType × ℤ × Medal :=
  (tx.subjectType, tx.subjectId, tx.medal)

/-- The number of rows for each subject and medal. -/
def medalCounts (txs : List RankingTransaction) : List ((SubjectType × ℤ × Medal) × ℤ) :=
  grouped RankingTransaction.subjectMedal (fun _ => 1) txs

/-- `apply_results_and_points`, up to the commit. -/
def applyResultsAndPoints (c : ServiceCall) (s : RankingState) : RankingState :=
  let prev := s.rowsOf c.pk
  let new := c.rows
  let reversed := postAll s.totals
    ((grouped RankingTransaction.subject RankingTransaction.points prev).flatMap
      fun row => applyPoints row.1 (-row.2))
  let uncounted := (medalCounts prev).foldl
    (fun medals row => medalCounterUpdate row.1 (-row.2) medals) s.medals
  { s with
    transactions := (s.transactions.filter fun tx => !(tx.result == c.pk)) ++ new
    totals := postAll reversed
      ((grouped RankingTransaction.subject RankingTransaction.points new).flatMap
        fun row => applyPoints row.1 row.2)
    medals := (medalCounts new).foldl
      (fun medals row => medalCounterUpdate row.1 row.2 medals) uncounted }

/-- The call with the callbacks of its saves; a call that fails leaves no trace. -/
def serviceStep (c : ServiceCall) (s : RankingState) : RankingState :=
  if c.accepted s then
    (c.saved.filter fun e => e.enrollment.isPaid).foldl
      (fun s e => s.award c.roster e.pk e.enrollment) (applyResultsAndPoints c s)
  else s

/-! ### What a row contributes -/

/-- The points of a row, on the totals its writer adds them to. -/
def RankingTransaction.postings (tx : RankingTransaction) : List Posting :=
  match tx.writer with
  | .save => tx.savePostings
  | .service =>
    if tx.subjectId = 0 then [] else [(serviceAccount tx.subjectType tx.subjectId, tx.points)]

/-- Medals under a subject. -/
def medalPosting (subject : SubjectType × ℤ × Medal) (n : ℤ) : List (MedalCounter × ℤ) :=
  if subject.2.1 = 0 then []
  else (medalCounter subject.1 subject.2.1 subject.2.2).toList.map fun counter => (counter, n)

/-- The medal of a row, if its writer counts medals. -/
def RankingTransaction.medalPostings (tx : RankingTransaction) : List (MedalCounter × ℤ) :=
  match tx.writer with
  | .save => []
  | .service => medalPosting tx.subjectMedal 1

/-- The counters, as integers. -/
def RankingState.medalTotals (s : RankingState) : MedalCounter → ℤ := fun counter => s.medals counter

/-- Totals and medal counters are their baselines plus what the rows contribute. -/
structure ScoringSound (base : Account → ℚ) (baseMedals : MedalCounter → ℕ) (s : RankingState) :
    Prop where
  totals : Balanced RankingTransaction.postings base s.totals s.transactions
  medals : Balanced RankingTransaction.medalPostings (fun counter => (baseMedals counter : ℤ))
    s.medalTotals s.transactions

inductive ScoringCall where
  | save (c : SaveCall)
  | service (c : ServiceCall)

def scoringStep : ScoringCall → RankingState → RankingState
  | .save c, s => saveStep c s
  | .service c, s => serviceStep c s

/-- The call, if it goes through, takes back only rows of its own implementation, and it
does not set off an award. -/
def ScoringCall.OwnRows : ScoringCall → RankingState → Prop
  | .save c, s => c.accepted s = true → ∀ tx ∈ s.rowsOf c.pk, tx.writer = .save
  | .service c, s =>
    c.accepted s = true →
      (∀ tx ∈ s.rowsOf c.pk, tx.writer = .service) ∧
      ∀ e ∈ c.saved, e.enrollment.isPaid = true → hasAward s.awards e.pk = true

/-! ### Totals -/

theorem booked_applyPoints (subject : SubjectType × ℤ) (delta : ℚ) (a : Account) :
    booked (applyPoints subject delta) a =
      if subject.2 ≠ 0 ∧ serviceAccount subject.1 subject.2 = a then delta else 0 := by
  unfold applyPoints
  by_cases hid : subject.2 = 0
  · simp [hid]
  · by_cases hdelta : delta = 0
    · simp [hdelta]
    · simp [hid, hdelta]

theorem postsAdditively_applyPoints : PostsAdditively applyPoints := by
  intro subject a
  by_cases h : subject.2 ≠ 0 ∧ serviceAccount subject.1 subject.2 = a
  · exact ⟨AddMonoidHom.id ℚ, fun x => by rw [booked_applyPoints, if_pos h, AddMonoidHom.id_apply]⟩
  · exact ⟨0, fun x => by rw [booked_applyPoints, if_neg h, AddMonoidHom.zero_apply]⟩

/-- Posting a row of the service books what the row contributes. -/
theorem booked_postings_of_service {tx : RankingTransaction} (h : tx.writer = .service)
    (a : Account) : booked (applyPoints tx.subject tx.points) a = booked tx.postings a := by
  rw [booked_applyPoints, RankingTransaction.postings, h]
  simp only [RankingTransaction.subject]
  by_cases hid : tx.subjectId = 0
  · simp [hid]
  · simp [hid]

/-! ### Medals -/

theorem postsAdditively_medalPosting : PostsAdditively medalPosting := by
  intro subject counter
  by_cases h : subject.2.1 ≠ 0 ∧ medalCounter subject.1 subject.2.1 subject.2.2 = some counter
  · refine ⟨AddMonoidHom.id ℤ, fun n => ?_⟩
    simp [medalPosting, h.1, h.2]
  · refine ⟨0, fun n => ?_⟩
    unfold medalPosting
    split_ifs with hid
    · rfl
    · cases hcounter : medalCounter subject.1 subject.2.1 subject.2.2 with
      | none => rfl
      | some other =>
        have hne : other ≠ counter := fun heq => h ⟨hid, heq ▸ hcounter⟩
        simp [hne]

theorem medalPosting_nonneg {subject : SubjectType × ℤ × Medal} {n : ℤ} (hn : 0 ≤ n)
    (counter : MedalCounter) : 0 ≤ booked (medalPosting subject n) counter := by
  apply booked_nonneg
  intro p hp
  unfold medalPosting at hp
  split_ifs at hp
  · cases hp
  · obtain ⟨counter', -, rfl⟩ := List.mem_map.mp hp
    exact hn

/-- Where no counter would go below zero, the update posts the medals. -/
theorem medalCounterUpdate_cast {medals : MedalCounter → ℕ} {subject : SubjectType × ℤ × Medal}
    {delta : ℤ}
    (h : ∀ counter, 0 ≤ (medals counter : ℤ) + booked (medalPosting subject delta) counter) :
    (fun counter => (medalCounterUpdate subject delta medals counter : ℤ)) =
      postAll (fun counter => (medals counter : ℤ)) (medalPosting subject delta) := by
  funext counter
  have hroom := h counter
  rw [postAll_apply]
  simp only [medalCounterUpdate, medalPosting] at hroom ⊢
  by_cases hid : subject.2.1 = 0
  · simp [hid]
  · cases hcounter : medalCounter subject.1 subject.2.1 subject.2.2 with
    | none => simp
    | some own =>
      by_cases hzero : delta = 0
      · simp [hid, hzero]
      · by_cases hown : own = counter
        · subst hown
          simp only [hid, hcounter, hzero, or_self, if_false, Option.toList_some, List.map_cons,
            List.map_nil, booked_cons, if_true, booked_nil, add_zero, Function.update_self]
            at hroom ⊢
          split_ifs with hfloor
          · -- the counter is exactly used up
            have habs := abs_of_neg hfloor.1
            omega
          · omega
        · have hother : counter ≠ own := Ne.symm hown
          simp [hid, hzero, hown, hother]

/-- Counting medals up posts them. -/
theorem foldl_medalCounterUpdate_add {rows : List ((SubjectType × ℤ × Medal) × ℤ)}
    (hrows : ∀ row ∈ rows, 0 ≤ row.2) (medals : MedalCounter → ℕ) :
    (fun counter => (rows.foldl (fun medals row => medalCounterUpdate row.1 row.2 medals) medals
      counter : ℤ)) =
      postAll (fun counter => (medals counter : ℤ))
        (rows.flatMap fun row => medalPosting row.1 row.2) := by
  induction rows generalizing medals with
  | nil => rfl
  | cons row rows ih =>
    rw [List.foldl_cons, ih fun row' h => hrows row' (List.mem_cons_of_mem _ h),
      medalCounterUpdate_cast, List.flatMap_cons, postAll_append]
    intro counter
    have hnonneg : 0 ≤ booked (medalPosting row.1 row.2) counter :=
      medalPosting_nonneg (hrows row List.mem_cons_self) counter
    omega

/-- Counting medals down posts them in reverse, if there are as many. -/
theorem foldl_medalCounterUpdate_sub {rows : List ((SubjectType × ℤ × Medal) × ℤ)}
    (hrows : ∀ row ∈ rows, 0 ≤ row.2) (medals : MedalCounter → ℕ)
    (henough : ∀ counter,
      booked (rows.flatMap fun row => medalPosting row.1 row.2) counter ≤ medals counter) :
    (fun counter => (rows.foldl (fun medals row => medalCounterUpdate row.1 (-row.2) medals) medals
      counter : ℤ)) =
      postAll (fun counter => (medals counter : ℤ))
        (rows.flatMap fun row => medalPosting row.1 (-row.2)) := by
  induction rows generalizing medals with
  | nil => rfl
  | cons row rows ih =>
    have hrest : ∀ row' ∈ rows, 0 ≤ row'.2 := fun row' h => hrows row' (List.mem_cons_of_mem _ h)
    have hneg := postsAdditively_medalPosting.booked_neg row.1 row.2
    -- the rows that follow take nothing below zero, so there is room for this one
    have hroom : ∀ counter,
        0 ≤ (medals counter : ℤ) + booked (medalPosting row.1 (-row.2)) counter := by
      intro counter
      have hall := henough counter
      have htail : 0 ≤ booked (rows.flatMap fun row => medalPosting row.1 row.2) counter := by
        rw [booked_flatMap]
        apply List.sum_nonneg
        intro x hx
        obtain ⟨row', hrow', rfl⟩ := List.mem_map.mp hx
        exact medalPosting_nonneg (hrest row' hrow') counter
      rw [List.flatMap_cons, booked_append] at hall
      rw [hneg]
      omega
    have hfirst := medalCounterUpdate_cast hroom
    rw [List.foldl_cons, ih hrest, hfirst, List.flatMap_cons, postAll_append]
    intro counter
    have hall := henough counter
    have hcast := congrFun hfirst counter
    simp only [postAll_apply, hneg] at hcast
    rw [List.flatMap_cons, booked_append] at hall
    omega

/-! ### One call -/

section Calls

variable {base : Account → ℚ} {baseMedals : MedalCounter → ℕ} {s : RankingState}

theorem mem_serviceRows {c : ServiceCall} {tx : RankingTransaction} (h : tx ∈ c.rows) :
    tx.result = c.pk ∧ tx.writer = .service := by
  simp only [ServiceCall.rows, List.mem_flatMap] at h
  obtain ⟨⟨e, place⟩, -, h⟩ := h
  cases e with
  | none => cases h
  | some e =>
    simp only [awardTransactions, List.mem_append, List.mem_singleton, Option.mem_toList,
      Option.map_eq_some_iff] at h
    rcases h with ((rfl | ⟨_, _, rfl⟩) | ⟨_, _, rfl⟩) | ⟨_, _, rfl⟩ <;> exact ⟨rfl, rfl⟩

/-- Posting the sums of rows of the service books what the rows contribute. -/
theorem booked_sums {txs : List RankingTransaction} (h : ∀ tx ∈ txs, tx.writer = .service)
    (a : Account) :
    booked ((grouped RankingTransaction.subject RankingTransaction.points txs).flatMap
      fun row => applyPoints row.1 row.2) a = booked (txs.flatMap RankingTransaction.postings) a := by
  rw [booked_grouped postsAdditively_applyPoints]
  exact booked_flatMap_congr fun tx htx => booked_postings_of_service (h tx htx) a

theorem booked_sums_neg {txs : List RankingTransaction} (h : ∀ tx ∈ txs, tx.writer = .service)
    (a : Account) :
    booked ((grouped RankingTransaction.subject RankingTransaction.points txs).flatMap
      fun row => applyPoints row.1 (-row.2)) a =
        -booked (txs.flatMap RankingTransaction.postings) a := by
  rw [← booked_sums h a]
  apply booked_flatMap_neg
  intro row _
  exact postsAdditively_applyPoints.booked_neg row.1 row.2 a

/-- Posting the counts of rows of the service books their medals. -/
theorem booked_medalCounts {txs : List RankingTransaction} (h : ∀ tx ∈ txs, tx.writer = .service)
    (counter : MedalCounter) :
    booked ((medalCounts txs).flatMap fun row => medalPosting row.1 row.2) counter =
      booked (txs.flatMap RankingTransaction.medalPostings) counter := by
  rw [medalCounts, booked_grouped postsAdditively_medalPosting]
  apply booked_flatMap_congr
  intro tx htx
  rw [RankingTransaction.medalPostings, h tx htx]

theorem booked_medalCounts_neg {txs : List RankingTransaction}
    (h : ∀ tx ∈ txs, tx.writer = .service) (counter : MedalCounter) :
    booked ((medalCounts txs).flatMap fun row => medalPosting row.1 (-row.2)) counter =
      -booked (txs.flatMap RankingTransaction.medalPostings) counter := by
  rw [← booked_medalCounts h counter]
  apply booked_flatMap_neg
  intro row _
  exact postsAdditively_medalPosting.booked_neg row.1 row.2 counter

theorem medalCounts_nonneg {txs : List RankingTransaction} :
    ∀ row ∈ medalCounts txs, 0 ≤ row.2 := by
  intro row hrow
  obtain ⟨subject, -, rfl⟩ := List.mem_map.mp hrow
  apply List.sum_nonneg
  intro x hx
  obtain ⟨tx, -, rfl⟩ := List.mem_map.mp hx
  exact zero_le_one

theorem medalPostings_nonneg (txs : List RankingTransaction) (counter : MedalCounter) :
    0 ≤ booked (txs.flatMap RankingTransaction.medalPostings) counter := by
  rw [booked_flatMap]
  apply List.sum_nonneg
  intro x hx
  obtain ⟨tx, -, rfl⟩ := List.mem_map.mp hx
  unfold RankingTransaction.medalPostings
  split
  · exact le_rfl
  · exact medalPosting_nonneg zero_le_one counter

/-- The rows of a result count no more medals than there are. -/
theorem ScoringSound.enough (h : ScoringSound base baseMedals s) (pk : ℕ)
    (counter : MedalCounter) :
    booked ((s.rowsOf pk).flatMap RankingTransaction.medalPostings) counter ≤
      s.medals counter := by
  have hall : (s.medals counter : ℤ) = (baseMedals counter : ℤ) +
      booked (s.transactions.flatMap RankingTransaction.medalPostings) counter := h.medals counter
  have hothers := medalPostings_nonneg (s.transactions.filter fun tx => !(tx.result == pk)) counter
  rw [← booked_filter_add fun tx => tx.result == pk] at hall
  unfold RankingState.rowsOf
  omega

/-- **The service keeps the totals and counters sound** if it takes back its own rows. -/
theorem scoringSound_applyResultsAndPoints {c : ServiceCall}
    (h : ScoringSound base baseMedals s) (hown : ∀ tx ∈ s.rowsOf c.pk, tx.writer = .service) :
    ScoringSound base baseMedals (applyResultsAndPoints c s) := by
  have hnew : ∀ tx ∈ c.rows, tx.writer = .service := fun tx htx => (mem_serviceRows htx).2
  constructor
  · apply Balanced.record
    · exact h.totals.strike _ (booked_sums_neg hown)
    · exact booked_sums hnew
  · have henough : ∀ counter, booked ((medalCounts (s.rowsOf c.pk)).flatMap
        fun row => medalPosting row.1 row.2) counter ≤ s.medals counter := by
      intro counter
      rw [booked_medalCounts hown]
      exact h.enough c.pk counter
    have hmedals : (applyResultsAndPoints c s).medalTotals =
        postAll (postAll s.medalTotals
          ((medalCounts (s.rowsOf c.pk)).flatMap fun row => medalPosting row.1 (-row.2)))
          ((medalCounts c.rows).flatMap fun row => medalPosting row.1 row.2) := by
      unfold RankingState.medalTotals applyResultsAndPoints
      rw [foldl_medalCounterUpdate_add medalCounts_nonneg,
        foldl_medalCounterUpdate_sub medalCounts_nonneg _ henough]
    rw [hmedals]
    apply Balanced.record
    · exact h.medals.strike _ (booked_medalCounts_neg hown)
    · exact booked_medalCounts hnew

/-- Where every award is there, none is set off. -/
theorem foldl_award_eq_self (roster : Roster) {saved : List Medalist}
    (h : ∀ e ∈ saved, hasAward s.awards e.pk = true) :
    saved.foldl (fun s e => s.award roster e.pk e.enrollment) s = s := by
  induction saved with
  | nil => rfl
  | cons e saved ih =>
    have hfirst : s.award roster e.pk e.enrollment = s :=
      if_pos (h e List.mem_cons_self)
    rw [List.foldl_cons, hfirst]
    exact ih fun e' he' => h e' (List.mem_cons_of_mem _ he')

/-- A save leaves the counters alone, and its own rows count no medals. -/
theorem medals_saveStep {c : SaveCall} {counted : MedalCounter → ℤ}
    (h : Balanced RankingTransaction.medalPostings counted s.medalTotals s.transactions)
    (hown : c.accepted s = true → ∀ tx ∈ s.rowsOf c.pk, tx.writer = .save) :
    Balanced RankingTransaction.medalPostings counted (saveStep c s).medalTotals
      (saveStep c s).transactions := by
  by_cases hacc : c.accepted s = true
  · have hnone : ∀ txs : List RankingTransaction, (∀ tx ∈ txs, tx.writer = .save) →
        txs.flatMap RankingTransaction.medalPostings = [] := by
      intro txs htxs
      rw [List.flatMap_eq_nil_iff]
      intro tx htx
      rw [RankingTransaction.medalPostings, htxs tx htx]
    have hstruck : Balanced RankingTransaction.medalPostings counted (postAll s.medalTotals [])
        (s.transactions.filter fun tx => !(tx.result == c.pk)) := by
      apply h.strike
      intro counter
      exact (congrArg (-booked · counter) (hnone _ (hown hacc))).symm
    have hrecorded : Balanced RankingTransaction.medalPostings counted
        (postAll (postAll s.medalTotals []) [])
        ((s.transactions.filter fun tx => !(tx.result == c.pk)) ++ c.result.rows c.pk) := by
      apply hstruck.record
      intro counter
      exact (congrArg (booked · counter) (hnone _ fun tx htx => (mem_rows htx).2)).symm
    rw [saveStep_of_accepted hacc]
    exact hrecorded
  · rw [saveStep_of_rejected hacc]
    exact h

/-- **A call that takes back only rows of its own implementation keeps the totals and the
counters sound.** -/
theorem scoringSound_step (a : ScoringCall) (s : RankingState) (hown : a.OwnRows s)
    (h : ScoringSound base baseMedals s) : ScoringSound base baseMedals (scoringStep a s) := by
  cases a with
  | save c =>
    refine ⟨balanced_saveStep h.totals ?_ ?_, medals_saveStep h.medals hown⟩
    · intro hacc tx htx
      rw [RankingTransaction.postings, hown hacc tx htx]
    · intro tx htx
      rw [RankingTransaction.postings, htx]
  | service c =>
    simp only [scoringStep, serviceStep]
    split_ifs with hacc
    · obtain ⟨hrows, hawards⟩ := hown hacc
      rw [foldl_award_eq_self]
      · exact scoringSound_applyResultsAndPoints h hrows
      · intro e he
        obtain ⟨hsaved, hpaid⟩ := List.mem_filter.mp he
        exact hawards e hsaved hpaid
    · exact h

end Calls

/-- A call of the service for result 1 with every foreign key in place. -/
def serviceCall (result : KyorugiResult Medalist) : ServiceCall :=
  ⟨1, result, ⟨fun _ => true, fun _ => true, fun _ => true⟩, default⟩

/-- The result is saved without medals, and the service scores gold, then silver. -/
def scoredByService : List ScoringCall :=
  [.save (saveCall emptyPodium),
    .service (serviceCall { emptyPodium with gold := some coachedMedalist }),
    .service (serviceCall { emptyPodium with silver := some coachedMedalist })]

/-- The result is saved with a gold medal, and then the service scores it. -/
def savedThenScored : List ScoringCall :=
  [.save (saveCall { emptyPodium with gold := some coachedMedalist }),
    .service (serviceCall { emptyPodium with gold := some coachedMedalist })]

end Tkdchb
