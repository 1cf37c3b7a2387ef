import Mathlib.Algebra.Order.Floor.Ring
import Mathlib.Data.Rat.Floor
import Mathlib.Tactic.NormNum.Inv
import Tkdchb.Lib.Transition
import Tkdchb.Rankings.Records

/-!
# Saving a result

`KyorugiResult.save` validates the result, writes its row, takes back what its ranking
transactions say and books the medals anew. It runs in a transaction, so a rejected save
changes nothing.

The objects in memory are arguments: the result, and in each place an enrollment as it
was loaded at some time. A new result is given a number that no row has.

## Main definitions

* `KyorugiResult.clean`, `fullClean` — the validation, with its errors
* `rollbackResultPoints`, `applyResultPoints`, `saveResult` — the three parts of a save
* `KyorugiResult.rows` — the ranking transactions of a saved version
* `lastSaved` — the version of each result that was saved last

## Main results

* `saveStep_of_accepted` — what a save that passes validation leaves behind
* `balanced_saveStep`, `rowsOf_saveStep` — one save, for the totals and for the ledger
* `save_history_independent` — after any saves, totals and ledger are those of the last
  saved versions alone
-/

namespace Tkdchb

open Ledger Transition

/-! ### Validation -/

/-- What full validation looks up in other tables. -/
structure Catalogue where
  hasCompetition : ℕ → Bool
  hasWeightCategory : ℕ → Bool
  hasUser : ℕ → Bool
  deriving Inhabited

/-- A validation error; `__all__` is the field of errors that belong to none. -/
structure ValidationError where
  field : String
  message : String
  deriving DecidableEq, Repr

/-- The places of a result, by the names of their columns. -/
def KyorugiResult.places {α : Type} (result : KyorugiResult α) : List (String × Option α) :=
  [("gold_enrollment", result.gold), ("silver_enrollment", result.silver),
    ("bronze1_enrollment", result.bronze1), ("bronze2_enrollment", result.bronze2)]

/-- `KyorugiResult.clean`. Two objects are the same enrollment if their numbers are. -/
def KyorugiResult.clean (result : KyorugiResult Medalist) : Except ValidationError Unit := do
  let chosen := result.places.filterMap fun place => place.2.map Medalist.pk
  if chosen.length ≠ chosen.dedup.length then
    throw ⟨"__all__", "یک ثبت‌نام نمی‌تواند همزمان در چند مقام ثبت شود."⟩
  result.places.forM fun (fld, en) =>
    match en with
    | none => pure ()
    | some en => do
      if en.enrollment.competition ≠ result.competition then
        throw ⟨fld, "این ثبت‌نام متعلق به این مسابقه نیست."⟩
      if en.enrollment.weightCategory ≠ some result.weightCategory then
        throw ⟨fld, "این ثبت‌نام متعلق به این رده وزنی نیست."⟩

/-- What full validation has found. -/
structure Rejection where
  /-- the foreign keys that lead nowhere -/
  missing : List String
  clean : Option ValidationError
  /-- another result has the same competition and weight category -/
  notUnique : Bool

def Rejection.isEmpty (rejection : Rejection) : Bool :=
  rejection.missing.isEmpty && rejection.clean.isNone && !rejection.notUnique

/-- `clean_fields`: the foreign keys whose row is not there. -/
def KyorugiResult.missing (result : KyorugiResult Medalist) (catalogue : Catalogue)
    (enrollments : Table Enrollment) : List String :=
  (if catalogue.hasCompetition result.competition then [] else ["competition"])
    ++ (if catalogue.hasWeightCategory result.weightCategory then [] else ["weight_category"])
    ++ (result.places.filter fun place =>
        place.2.any fun en => (enrollments.get en.pk).isNone).map Prod.fst
    ++ (if result.createdBy.all catalogue.hasUser then [] else ["created_by"])

/-- `full_clean`. Columns that have failed are left out of the uniqueness check. -/
def fullClean (catalogue : Catalogue) (pk : ℕ) (result : KyorugiResult Medalist)
    (s : RankingState) : Rejection :=
  let missing := result.missing catalogue s.enrollments
  { missing
    clean :=
      match result.clean with
      | .ok () => none
      | .error e => some e
    notUnique :=
      !missing.contains "competition" && !missing.contains "weight_category" &&
        ((s.results.erase pk).oldest fun other =>
          other.competition == result.competition &&
            other.weightCategory == result.weightCategory).isSome }

/-! ### Scoring -/

/-- The points of a row, on the totals `KyorugiResult.save` adds them to. -/
def RankingTransaction.savePostings (tx : RankingTransaction) : List Posting :=
  match tx.subjectType with
  | .player => [(.competition tx.subjectId, tx.points), (.profile tx.subjectId, tx.points)]
  | .coach => [(.profile tx.subjectId, tx.points)]
  | .club => [(.club tx.subjectId, tx.points)]
  | .board => [(.board tx.subjectId, tx.points)]

/-- What `_rollback_result_points` does for a row. -/
def rollbackUpdates (tx : RankingTransaction) : List Posting :=
  if tx.points = 0 then []
  else
    match tx.subjectType with
    | .player => [(.competition tx.subjectId, -tx.points), (.profile tx.subjectId, -tx.points)]
    | .coach => [(.profile tx.subjectId, -tx.points)]
    | .club => [(.club tx.subjectId, -tx.points)]
    | .board => [(.board tx.subjectId, -tx.points)]

/-- `_rollback_result_points` -/
def rollbackResultPoints (pk : ℕ) (s : RankingState) : RankingState :=
  let txs := s.transactions.filter fun tx => tx.result == pk
  if txs.isEmpty then s
  else
    { s with
      totals := postAll s.totals (txs.flatMap rollbackUpdates)
      transactions := s.transactions.filter fun tx => !(tx.result == pk) }

/-- `round(x, 2)`, half to even. -/
def round2 (x : ℚ) : ℚ :=
  let y := x * 100
  let d := y - ⌊y⌋
  (if d < 1 / 2 then ⌊y⌋ else if 1 / 2 < d then ⌊y⌋ + 1
    else if ⌊y⌋ % 2 = 0 then ⌊y⌋ else ⌊y⌋ + 1 : ℤ) / 100

/-- `medal_map` -/
def KyorugiResult.medalMap {α : Type} (result : KyorugiResult α) : List (Medal × Option α × ℚ) :=
  [(.gold, result.gold, 3), (.silver, result.silver, 2), (.bronze, result.bronze1, 1),
    (.bronze, result.bronze2, 1)]

/-- The points of a coach, a club or a board: a share of the player's, if there is one. -/
def shareOf {α : Type} (share pPoints : ℚ) (subject : Option α) : ℚ :=
  if subject.isSome then round2 (pPoints * share) else 0

/-- `if subject and points: …` -/
def ifScored {α β : Type} (subject : Option α) (points : ℚ) (f : α → β) : List β :=
  match subject with
  | some x => if points ≠ 0 then [f x] else []
  | none => []

/-- The rows of one place of `medal_map`. -/
def placeRows (pk : ℕ) (competition : ℕ) (medal : Medal) (pPoints : ℚ) (en : Enrollment) :
    List RankingTransaction :=
  let row (subjectType : SubjectType) (points : ℚ) (subjectId : ℤ) : RankingTransaction :=
    ⟨competition, pk, subjectType, subjectId, medal, points, .save⟩
  let coachPoints := shareOf (3 / 10) pPoints en.coach
  let clubPoints := shareOf (2 / 10) pPoints en.club
  let boardPoints := shareOf (2 / 10) pPoints en.board
  [row .player pPoints en.player]
    ++ ifScored en.coach coachPoints (row .coach coachPoints)
    ++ ifScored en.club clubPoints (fun club => row .club clubPoints club)
    ++ ifScored en.board boardPoints (fun board => row .board boardPoints board)

/-- The updates of one place of `medal_map`. -/
def placeUpdates (pPoints : ℚ) (en : Enrollment) : List Posting :=
  let coachPoints := shareOf (3 / 10) pPoints en.coach
  let clubPoints := shareOf (2 / 10) pPoints en.club
  let boardPoints := shareOf (2 / 10) pPoints en.board
  [(.competition en.player, pPoints), (.profile en.player, pPoints)]
    ++ ifScored en.coach coachPoints (fun coach => (Account.profile coach, coachPoints))
    ++ ifScored en.club clubPoints (fun club => (Account.club club, clubPoints))
    ++ ifScored en.board boardPoints (fun board => (Account.board board, boardPoints))

/-- The ranking transactions of a version of a result. -/
def KyorugiResult.rows (pk : ℕ) (result : KyorugiResult Medalist) : List RankingTransaction :=
  result.medalMap.flatMap fun (medal, en, pPoints) =>
    match en with
    | none => []
    | some en => placeRows pk result.competition medal pPoints en.enrollment

/-- The updates that book the medals of a result. -/
def KyorugiResult.updates (result : KyorugiResult Medalist) : List Posting :=
  result.medalMap.flatMap fun (_, en, pPoints) =>
    match en with
    | none => []
    | some en => placeUpdates pPoints en.enrollment

/-- `_apply_result_points` -/
def applyResultPoints (pk : ℕ) (result : KyorugiResult Medalist) (s : RankingState) :
    RankingState :=
  { s with
    totals := postAll s.totals result.updates
    transactions := s.transactions ++ result.rows pk }

/-! ### Saving -/

/-- A call of `KyorugiResult.save`. -/
structure SaveCall where
  /-- the number of the result, or the one it is given -/
  pk : ℕ
  result : KyorugiResult Medalist
  catalogue : Catalogue

/-- The save passes validation. -/
def SaveCall.accepted (c : SaveCall) (s : RankingState) : Bool :=
  (fullClean c.catalogue c.pk c.result s).isEmpty

/-- `KyorugiResult.save` -/
def saveResult (c : SaveCall) (s : RankingState) : Except Rejection RankingState :=
  let rejection := fullClean c.catalogue c.pk c.result s
  if rejection.isEmpty then
    let written := { s with results := s.results.put c.pk c.result.toRow }
    .ok (applyResultPoints c.pk c.result (rollbackResultPoints c.pk written))
  else .error rejection

/-- A save that is rejected leaves no trace. -/
def saveStep (c : SaveCall) (s : RankingState) : RankingState :=
  match saveResult c s with
  | .ok s' => s'
  | .error _ => s

/-- The ranking transactions of a result. -/
def RankingState.rowsOf (s : RankingState) (k : ℕ) : List RankingTransaction :=
  s.transactions.filter fun tx => tx.result == k

section Pieces

variable {base : Account → ℚ} {entries : RankingTransaction → List Posting} {s : RankingState}
  {c : SaveCall} {tx : RankingTransaction} {pk k : ℕ} {result : KyorugiResult Medalist}

/-- What `_rollback_result_points` posts for a row undoes what the row stands for. -/
theorem booked_rollbackUpdates (tx : RankingTransaction) (a : Account) :
    booked (rollbackUpdates tx) a = -booked tx.savePostings a := by
  have hreversal : rollbackUpdates tx =
      if tx.points = 0 then [] else reversal tx.savePostings := by
    unfold rollbackUpdates RankingTransaction.savePostings
    cases tx.subjectType <;> rfl
  rw [hreversal]
  split_ifs with hzero
  · unfold RankingTransaction.savePostings
    cases tx.subjectType <;> simp [hzero]
  · exact booked_reversal

theorem ifScored_flatMap {α β γ : Type} {subject : Option α} {points : ℚ} {f : α → β}
    {g : β → List γ} {f' : α → γ} (h : ∀ x, g (f x) = [f' x]) :
    (ifScored subject points f).flatMap g = ifScored subject points f' := by
  unfold ifScored
  split
  · split_ifs
    · rw [List.flatMap_singleton, h]
    · rfl
  · rfl

theorem mem_ifScored {α β : Type} {subject : Option α} {points : ℚ} {f : α → β} {y : β}
    (h : y ∈ ifScored subject points f) : ∃ x, y = f x := by
  unfold ifScored at h
  split at h
  · split_ifs at h
    · exact ⟨_, List.mem_singleton.mp h⟩
    · cases h
  · cases h

/-- The rows of a place stand for its updates. -/
theorem placeRows_savePostings (pk competition : ℕ) (medal : Medal) (pPoints : ℚ)
    (en : Enrollment) :
    (placeRows pk competition medal pPoints en).flatMap RankingTransaction.savePostings =
      placeUpdates pPoints en := by
  simp only [placeRows, placeUpdates, List.flatMap_append]
  congr 1
  · congr 1
    · congr 1
      exact ifScored_flatMap fun _ => rfl
    · exact ifScored_flatMap fun _ => rfl
  · exact ifScored_flatMap fun _ => rfl

/-- The rows of a result stand for its updates. -/
theorem rows_savePostings (pk : ℕ) (result : KyorugiResult Medalist) :
    (result.rows pk).flatMap RankingTransaction.savePostings = result.updates := by
  rw [KyorugiResult.rows, KyorugiResult.updates, List.flatMap_assoc]
  congr 1
  funext ⟨medal, en, pPoints⟩
  cases en with
  | none => rfl
  | some en => exact placeRows_savePostings pk result.competition medal pPoints en.enrollment

theorem mem_rows (h : tx ∈ result.rows pk) : tx.result = pk ∧ tx.writer = .save := by
  simp only [KyorugiResult.rows, List.mem_flatMap] at h
  obtain ⟨⟨medal, en, pPoints⟩, -, h⟩ := h
  cases en with
  | none => cases h
  | some en =>
    simp only [placeRows, List.mem_append, List.mem_singleton] at h
    rcases h with ((rfl | h) | h) | h
    · exact ⟨rfl, rfl⟩
    all_goals
      obtain ⟨id, rfl⟩ := mem_ifScored h
      exact ⟨rfl, rfl⟩

/-! ### One save -/

/-- A result without rows has none to remove. -/
theorem filter_other_results (h : s.rowsOf pk = []) :
    (s.transactions.filter fun tx => !(tx.result == pk)) = s.transactions := by
  rw [List.filter_eq_self]
  intro tx htx
  have hne := List.filter_eq_nil_iff.mp h tx htx
  simpa using hne

/-- With no rows there is nothing to take back. -/
theorem rollbackResultPoints_eq (pk : ℕ) (s : RankingState) :
    rollbackResultPoints pk s = { s with
      totals := postAll s.totals ((s.rowsOf pk).flatMap rollbackUpdates)
      transactions := s.transactions.filter fun tx => !(tx.result == pk) } := by
  unfold rollbackResultPoints
  simp only
  split_ifs with hempty
  · have hrows : s.rowsOf pk = [] := List.isEmpty_iff.mp hempty
    rw [hrows, filter_other_results hrows]
    rfl
  · rfl

/-- What a save that passes validation leaves behind. -/
theorem saveStep_of_accepted (h : c.accepted s = true) :
    saveStep c s = { s with
      results := s.results.put c.pk c.result.toRow
      totals := postAll (postAll s.totals ((s.rowsOf c.pk).flatMap rollbackUpdates))
        c.result.updates
      transactions := (s.transactions.filter fun tx => !(tx.result == c.pk)) ++
        c.result.rows c.pk } := by
  unfold SaveCall.accepted at h
  simp only [saveStep, saveResult, if_pos h, rollbackResultPoints_eq, applyResultPoints]
  rfl

theorem saveStep_of_rejected (h : ¬ c.accepted s = true) : saveStep c s = s := by
  unfold SaveCall.accepted at h
  simp only [saveStep, saveResult, if_neg h]

/-- **One save keeps the totals in balance** with the ledger, provided the rows it takes
back stand for what it takes back. -/
theorem balanced_saveStep (h : Balanced entries base s.totals s.transactions)
    (hold : c.accepted s = true → ∀ tx ∈ s.rowsOf c.pk, entries tx = tx.savePostings)
    (hnew : ∀ tx, tx.writer = .save → entries tx = tx.savePostings) :
    Balanced entries base (saveStep c s).totals (saveStep c s).transactions := by
  by_cases hacc : c.accepted s = true
  · rw [saveStep_of_accepted hacc]
    apply Balanced.record
    · apply h.strike
      intro a
      apply booked_flatMap_neg
      intro tx htx
      rw [hold hacc tx htx]
      exact booked_rollbackUpdates tx a
    · intro a
      rw [← rows_savePostings c.pk]
      apply booked_flatMap_congr
      intro tx htx
      rw [hnew tx (mem_rows htx).2]
  · rw [saveStep_of_rejected hacc]
    exact h

/-- The rows of a result after a save of it are those of the new version; the rows of
other results stay. -/
theorem rowsOf_saveStep (c : SaveCall) (s : RankingState) (k : ℕ) :
    (saveStep c s).rowsOf k =
      if c.pk = k ∧ c.accepted s = true then c.result.rows k else s.rowsOf k := by
  by_cases hacc : c.accepted s = true
  · rw [saveStep_of_accepted hacc]
    simp only [RankingState.rowsOf, hacc, and_true]
    rw [filter_replaced fun tx htx => (mem_rows htx).1]
    split_ifs with hk
    · rw [hk]
    · rfl
  · rw [saveStep_of_rejected hacc, if_neg fun h => hacc h.2]

end Pieces

/-! ### Any number of saves -/

/-- The version of result `k` that was saved last. -/
def lastSaved (s : RankingState) (k : ℕ) : List SaveCall → Option (KyorugiResult Medalist)
  | [] => none
  | c :: calls =>
    (lastSaved (saveStep c s) k calls).or
      (if c.pk = k ∧ c.accepted s = true then some c.result else none)

/-- The rows a version of result `k` contributes, if one was saved. -/
def contributions (k : ℕ) (version : Option (KyorugiResult Medalist)) : List RankingTransaction :=
  match version with
  | none => []
  | some result => result.rows k

/-- A result is saved only by a call for it. -/
theorem lastSaved_eq_none {k : ℕ} {calls : List SaveCall} (hk : k ∉ calls.map SaveCall.pk)
    (s : RankingState) : lastSaved s k calls = none := by
  induction calls generalizing s with
  | nil => rfl
  | cons c calls ih =>
    rw [List.map_cons, List.mem_cons, not_or] at hk
    rw [lastSaved, ih hk.2, if_neg fun h => hk.1 h.1.symm]
    rfl

/-- The ledger of a result is what its last save wrote. -/
theorem rowsOf_run (s : RankingState) (calls : List SaveCall) (k : ℕ) :
    (run saveStep s calls).rowsOf k =
      ((lastSaved s k calls).map (KyorugiResult.rows k)).getD (s.rowsOf k) := by
  induction calls generalizing s with
  | nil => rfl
  | cons c calls ih =>
    rw [run_cons, ih, rowsOf_saveStep, lastSaved]
    cases lastSaved (saveStep c s) k calls with
    | some result => rfl
    | none =>
      split_ifs
      · rfl
      · rfl

/-- **Saving results is history-independent.** Start from any totals and an empty ledger
and save results any number of times, some of the saves being rejected. Every total is its
initial value plus the contributions of the versions saved last, one for each result, and
the ledger rows of each result are those contributions. -/
theorem save_history_independent (s : RankingState) (hrows : s.transactions = [])
    (calls : List SaveCall) :
    (∀ a, (run saveStep s calls).totals a = s.totals a +
      ∑ k ∈ (calls.map SaveCall.pk).toFinset,
        booked ((contributions k (lastSaved s k calls)).flatMap
          RankingTransaction.savePostings) a) ∧
    ∀ k, (run saveStep s calls).rowsOf k = contributions k (lastSaved s k calls) := by
  have hledger : ∀ k, (run saveStep s calls).rowsOf k =
      contributions k (lastSaved s k calls) := by
    intro k
    rw [rowsOf_run, RankingState.rowsOf, hrows]
    cases lastSaved s k calls with
    | none => rfl
    | some result => rfl
  refine ⟨fun a => ?_, hledger⟩
  have hstart : Balanced RankingTransaction.savePostings s.totals s.totals s.transactions := by
    rw [hrows]
    exact balanced_nil _ _
  have hend := run_invariant (I := fun t : RankingState =>
    Balanced RankingTransaction.savePostings s.totals t.totals t.transactions)
    (fun c t ht => balanced_saveStep (c := c) ht (fun _ _ _ => rfl) fun _ _ => rfl) hstart calls a
  -- the rows group by result, and only results that were saved have any
  have hkeys : ∀ tx ∈ (run saveStep s calls).transactions,
      tx.result ∈ (calls.map SaveCall.pk).toFinset := by
    intro tx htx
    by_contra hk
    have hnone := hledger tx.result
    rw [lastSaved_eq_none (fun h => hk (List.mem_toFinset.mpr h))] at hnone
    exact List.filter_eq_nil_iff.mp hnone tx htx (beq_self_eq_true _)
  rw [hend, booked_flatMap, ← sum_fiberwise RankingTransaction.result _ hkeys]
  congr 1
  apply Finset.sum_congr rfl
  intro k _
  rw [← hledger k, booked_flatMap]
  rfl

/-- The enrollment of player 5, whose coach is 9. -/
def coachedMedalist : Medalist where
  pk := 1
  enrollment :=
    { (default : Enrollment) with
      competition := 1, weightCategory := some 2, player := 5, coach := some 9 }
  medal := none

/-- The tables with that enrollment only. -/
def unscoredRankings : RankingState where
  enrollments := Table.empty.insert coachedMedalist.enrollment
  results := Table.empty
  transactions := []
  awards := []
  totals _ := 0
  medals _ := 0

/-- A result without medals. -/
def emptyPodium : KyorugiResult Medalist :=
  { (default : KyorugiResult Medalist) with competition := 1, weightCategory := 2 }

/-- A save of result 1 with every foreign key in place. -/
def saveCall (result : KyorugiResult Medalist) : SaveCall :=
  ⟨1, result, ⟨fun _ => true, fun _ => true, fun _ => true⟩⟩

/-- Gold, then gold and silver for the same enrollment, which is rejected, then silver. -/
def correctedMedal : List SaveCall :=
  [saveCall { emptyPodium with gold := some coachedMedalist },
    saveCall { emptyPodium with gold := some coachedMedalist, silver := some coachedMedalist },
    saveCall { emptyPodium with silver := some coachedMedalist }]

theorem save_history_independent_correctedMedal :
    (run saveStep unscoredRankings correctedMedal).rowsOf 1 =
        contributions 1 (lastSaved unscoredRankings 1 correctedMedal) ∧
      contributions 1 (lastSaved unscoredRankings 1 correctedMedal) =
        KyorugiResult.rows 1 { emptyPodium with silver := some coachedMedalist } ∧
      (run saveStep unscoredRankings correctedMedal).totals (.profile 9) = 6 / 10 := by
  refine ⟨?_, by decide +kernel, by decide +kernel⟩
  exact (save_history_independent unscoredRankings rfl correctedMedal).2 1

end Tkdchb
