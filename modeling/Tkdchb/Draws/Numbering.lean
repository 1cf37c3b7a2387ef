import Mathlib.Data.List.Dedup
import Mathlib.Data.List.Sort
import Tkdchb.Draws.CreateDraw
import Tkdchb.Lib.Transition

/-!
# Numbering the matches of a competition

`numbering_service`: the weights of a competition are assigned to mats, and each mat
numbers the matches of its draws from one on, round by round, with the finals of all draws
at the end. Before that the later rounds of each draw are filled up with empty matches.

The matches of a draw are kept with it, in the order of their ids; a match is named by its
draw and its position. All queries of the service are about the matches of one draw, and a
new match gets the last position.

## Main definitions

* `Bout`, `Bracket`, `NumberingState` — matches with mat and number, and their draws
* `weightToMatMap` — the mat of each weight
* `Bracket.ensureRoundsExist`, `Bracket.hasRealMatch` — the preparation of a draw
* `numberMatchesForCompetition`, `clearMatchNumbersForCompetition` — the two services
* `NumberingAction`, `numberingStep` — their calls, and edits of the mat assignments
-/

namespace Tkdchb

/-- A row of the table of matches. -/
structure Bout extends Match where
  matNo : Option ℕ
  matchNumber : Option ℕ
  deriving DecidableEq, Repr, Inhabited

/-- A draw with its matches, in the order of their ids. -/
structure Bracket where
  scope : DrawScope
  size : ℕ
  bouts : List Bout
  deriving DecidableEq, Repr

structure MatAssignment where
  matNumber : ℕ
  weights : List ℕ
  deriving DecidableEq, Repr

/-- The part of a competition that belongs to its brackets. -/
structure BracketEvent where
  matAssignments : List MatAssignment
  bracketPublishedAt : Option Time

structure NumberingState where
  draws : Table Bracket
  events : ℕ → Option BracketEvent
  /-- `WeightCategory.min_weight` -/
  minWeight : ℕ → ℚ

/-- What the service raises. -/
inductive NumberingError where
  /-- `KyorugiCompetition.DoesNotExist` -/
  | doesNotExist
  | noWeights
  | noMat (missing : List ℕ)
  | noDraws
  deriving DecidableEq, Repr

def NumberingError.message : NumberingError → String
  | .doesNotExist => "KyorugiCompetition matching query does not exist."
  | .noWeights => "هیچ رده‌ی وزنی انتخاب نشده است."
  | .noMat missing => "برای این وزن‌ها زمین تعریف نشده: " ++ toString missing
  | .noDraws => "برای اوزان انتخاب‌شده قرعه‌ای وجود ندارد."

/-- `_weight_to_mat_map`: of several mats the smallest. -/
def weightToMatMap (assignments : List MatAssignment) : ℕ → Option ℕ :=
  assignments.foldl (fun mapping ma =>
    ma.weights.foldl (fun mapping w =>
      Function.update mapping w (some (match mapping w with
        | none => ma.matNumber
        | some mat => min mat ma.matNumber))) mapping) fun _ => none

/-! ### One draw -/

namespace Bracket

/-- `_rounds_of` -/
def roundsOf (b : Bracket) : List ℕ := (b.bouts.map (·.roundNo)).dedup.insertionSort (· ≤ ·)

/-- `_first_round_no` -/
def firstRoundNo (b : Bracket) : Option ℕ := b.roundsOf.head?

/-- `_last_round_no` -/
def lastRoundNo (b : Bracket) : Option ℕ := b.roundsOf.getLast?

/-- `order_by("slot_a", "slot_b", "id")`, on matches with their positions. -/
def slotOrder (x y : Bout × ℕ) : Prop :=
  x.1.slotA < y.1.slotA ∨ x.1.slotA = y.1.slotA ∧
    (x.1.slotB < y.1.slotB ∨ x.1.slotB = y.1.slotB ∧ x.2 ≤ y.2)

instance : DecidableRel slotOrder := fun _ _ =>
  inferInstanceAs (Decidable (_ ∨ _ ∧ (_ ∨ _ ∧ _)))

/-- `_matches_in_round`, with the positions of the matches. -/
def matchesInRound (b : Bracket) (roundNo : ℕ) : List (Bout × ℕ) :=
  (b.bouts.zipIdx.filter fun x => x.1.roundNo = roundNo).insertionSort slotOrder

/-- `Match.objects.filter(draw=draw, round_no=r).count()` -/
def countInRound (b : Bracket) (roundNo : ℕ) : ℕ := b.bouts.countP fun m => m.roundNo = roundNo

/-- The loop that counts the rounds: doublings of `s` until the size is reached. -/
def roundsCountLoop (totalSize : ℕ) : ℕ → ℕ → ℕ
  | 0, _ => 0
  | fuel + 1, s => if s < totalSize then roundsCountLoop totalSize fuel (s <<< 1) + 1 else 0

def roundsCount (totalSize : ℕ) : ℕ := roundsCountLoop totalSize totalSize 1

/-- A match of a later round, whose players are not known yet. -/
def emptyBout (roundNo idx : ℕ) : Bout where
  roundNo
  slotA := idx
  slotB := idx
  playerA := none
  playerB := none
  isBye := false
  matNo := none
  matchNumber := none

/-- The body of the loop over the later rounds: what is missing is created. -/
def fillRound (b : Bracket) (roundNo expected : ℕ) : Bracket :=
  let existing := b.countInRound roundNo
  { b with
    bouts := b.bouts ++ (List.range' existing (expected - existing)).map (emptyBout roundNo) }

/-- `_first_round_no(draw) or 1` -/
def baseRound (b : Bracket) : ℕ :=
  match b.firstRoundNo with
  | none => 1
  | some fr => if fr = 0 then 1 else fr

/-- The size of the draw, or twice the matches of its first round. -/
def totalSize (b : Bracket) : ℕ :=
  if b.size = 0 then max 1 (b.countInRound b.baseRound * 2) else b.size

/-- `_ensure_rounds_exist` -/
def ensureRoundsExist (b : Bracket) : Bracket :=
  let fr := b.baseRound
  let totalSize := b.totalSize
  (List.range' 1 (roundsCount totalSize - 1)).foldl (fun b step =>
    b.fillRound (fr + step) (max 1 (totalSize / 2 ^ (step + 1)))) b

/-- `_real_players_count` -/
def realPlayersCount (b : Bracket) : ℕ :=
  ((b.bouts.flatMap fun m => m.playerA.toList ++ m.playerB.toList).filter (· ≠ 0)).dedup.length

/-- `_has_real_match` -/
def hasRealMatch (b : Bracket) : Bool :=
  if b.realPlayersCount < 2 then false
  else
    match b.firstRoundNo with
    | none => false
    | some fr =>
      b.bouts.any (fun m => m.roundNo ≠ fr) ||
        b.bouts.any fun m => m.roundNo = fr && !m.isBye

/-- `update(match_number=None)` -/
def clearNumbers (b : Bracket) : Bracket :=
  { b with bouts := b.bouts.map fun m => { m with matchNumber := none } }

/-- A draw before it is numbered: without its old numbers if these are to be cleared, and
with all its rounds. -/
def prepare (b : Bracket) (clearPrev : Bool) : Bracket :=
  (if clearPrev then b.clearNumbers else b).ensureRoundsExist

/-- `m.save(update_fields=["is_bye", "mat_no", "match_number"])` on the row at a position. -/
def saveNumber (b : Bracket) (i : ℕ) (m : Bout) : Bracket :=
  { b with
    bouts := b.bouts.modify i fun row =>
      { row with isBye := m.isBye, matNo := m.matNo, matchNumber := m.matchNumber } }

end Bracket

/-! ### The two phases -/

/-- The body of the loops over the matches of a round. A BYE of the first round gets no
number; a BYE of a later round becomes a match where `opens` says so. -/
def numberMatch (matNo rnd : ℕ) (fr : Option ℕ) (opens : Bool) (pk : ℕ)
    (st : (ℕ → ℕ) × Table Bracket) (x : Bout × ℕ) : (ℕ → ℕ) × Table Bracket :=
  let (m, i) := x
  if fr = some rnd ∧ m.isBye = true then st
  else
    let number := st.1 matNo + 1
    let saved := { m with
      isBye := m.isBye && !(fr.any (· < rnd) && opens)
      matNo := if m.matNo.getD 0 = 0 then some matNo else m.matNo
      matchNumber := some number }
    (Function.update st.1 matNo number, st.2.modify pk fun b => b.saveNumber i saved)

/-- The matches of one round of one draw. -/
def numberRound (matNo rnd : ℕ) (fr : Option ℕ) (opens : Bracket → Bool)
    (st : (ℕ → ℕ) × Table Bracket) (pk : ℕ) : (ℕ → ℕ) × Table Bracket :=
  match st.2.get pk with
  | none => st
  | some b => (b.matchesInRound rnd).foldl (numberMatch matNo rnd fr (opens b) pk) st

/-- `drs_by_mat` -/
def drawsOnMat (w2m : ℕ → Option ℕ) (draws : List (ℕ × Bracket)) (matNo : ℕ) :
    List (ℕ × Bracket) :=
  draws.filter fun d => w2m d.2.scope.weightCategory = some matNo

/-- All rounds of the draws but their last ones, round by round and mat by mat. -/
def numberEarlierRounds (w2m : ℕ → Option ℕ) (mats : List ℕ) (draws : List (ℕ × Bracket))
    (st : (ℕ → ℕ) × Table Bracket) : (ℕ → ℕ) × Table Bracket :=
  let allRounds := (draws.flatMap fun d => d.2.roundsOf).dedup.insertionSort (· ≤ ·)
  allRounds.foldl (fun st rnd =>
    mats.foldl (fun st matNo =>
      (drawsOnMat w2m draws matNo).foldl (fun st d =>
        if d.2.lastRoundNo = some rnd then st
        else numberRound matNo rnd d.2.firstRoundNo (fun b => !decide (b.realPlayersCount < 2))
          st d.1) st) st) st

/-- The last rounds of the draws, mat by mat. -/
def numberFinals (w2m : ℕ → Option ℕ) (mats : List ℕ) (draws : List (ℕ × Bracket))
    (st : (ℕ → ℕ) × Table Bracket) : (ℕ → ℕ) × Table Bracket :=
  mats.foldl (fun st matNo =>
    (drawsOnMat w2m draws matNo).foldl (fun st d =>
      match d.2.lastRoundNo with
      | none => st
      | some lr => numberRound matNo lr d.2.firstRoundNo (fun _ => true) st d.1) st) st

/-! ### The services -/

namespace NumberingState

/-- The draws of a competition in some weights, by weight and id. -/
def drawsOf (s : NumberingState) (competitionId : ℕ) (weightIds : List ℕ) : List (ℕ × Bracket) :=
  (s.draws.select fun b =>
    b.scope.competition = competitionId && weightIds.contains b.scope.weightCategory).insertionSort
      fun x y => s.minWeight x.2.scope.weightCategory < s.minWeight y.2.scope.weightCategory ∨
        s.minWeight x.2.scope.weightCategory = s.minWeight y.2.scope.weightCategory ∧ x.1 ≤ y.1

/-- An update of the draws of a competition in some weights. -/
def updateDraws (s : NumberingState) (competitionId : ℕ) (weightIds : List ℕ)
    (f : Bracket → Bracket) : Table Bracket :=
  s.draws.map fun b =>
    if b.scope.competition = competitionId ∧ b.scope.weightCategory ∈ weightIds then f b else b

/-- The checks of `number_matches_for_competition`: the mats, and the draws it is about. -/
def selection (s : NumberingState) (competitionId : ℕ) (weightIds : List ℕ) :
    Except NumberingError ((ℕ → Option ℕ) × List (ℕ × Bracket)) :=
  match s.events competitionId with
  | none => .error .doesNotExist
  | some event =>
    if weightIds = [] then .error .noWeights
    else
      let w2m := weightToMatMap event.matAssignments
      let missing := weightIds.dedup.filter fun w => (w2m w).isNone
      if missing ≠ [] then .error (.noMat missing)
      else
        let draws := s.drawsOf competitionId weightIds
        if draws = [] then .error .noDraws else .ok (w2m, draws)

/-- The state in which the loops start. -/
def prepared (s : NumberingState) (competitionId : ℕ) (weightIds : List ℕ) (clearPrev : Bool) :
    NumberingState :=
  { s with draws := s.updateDraws competitionId weightIds fun b => b.prepare clearPrev }

end NumberingState

/-- The mats of some draws, in order. -/
def matsOf (w2m : ℕ → Option ℕ) (draws : List (ℕ × Bracket)) : List ℕ :=
  (draws.filterMap fun d => w2m d.2.scope.weightCategory).dedup.insertionSort (· ≤ ·)

/-- `number_matches_for_competition`: the counters, and the state. Where no draw has a real
match the loops do nothing, which is what the two early returns come to. -/
def numberMatchesForCompetition (competitionId : ℕ) (weightIds : List ℕ) (clearPrev : Bool)
    (s : NumberingState) : Except NumberingError (List (ℕ × ℕ) × NumberingState) := do
  let (w2m, allDraws) ← s.selection competitionId weightIds
  let mats := matsOf w2m allDraws
  let ready := s.prepared competitionId weightIds clearPrev
  let draws := (ready.drawsOf competitionId weightIds).filter fun d => d.2.hasRealMatch
  let st := numberFinals w2m mats draws (numberEarlierRounds w2m mats draws (fun _ => 0, ready.draws))
  return (mats.map fun matNo => (matNo, st.1 matNo), { s with draws := st.2 })

/-- `clear_match_numbers_for_competition` -/
def clearMatchNumbersForCompetition (competitionId : ℕ) (weightIds : List ℕ)
    (s : NumberingState) : Except NumberingError NumberingState :=
  match s.events competitionId with
  | none => .error .doesNotExist
  | some _ =>
    if weightIds = [] then .ok s
    else .ok { s with draws := s.updateDraws competitionId weightIds Bracket.clearNumbers }

inductive NumberingAction where
  | number (competitionId : ℕ) (weightIds : List ℕ) (clearPrev : Bool)
  | clear (competitionId : ℕ) (weightIds : List ℕ)
  | assignMats (competitionId : ℕ) (assignments : List MatAssignment)

/-- A call that raises is rolled back. -/
def numberingStep : NumberingAction → NumberingState → NumberingState
  | .number competitionId weightIds clearPrev, s =>
    match numberMatchesForCompetition competitionId weightIds clearPrev s with
    | .ok (_, s') => s'
    | .error _ => s
  | .clear competitionId weightIds, s =>
    match clearMatchNumbersForCompetition competitionId weightIds s with
    | .ok s' => s'
    | .error _ => s
  | .assignMats competitionId assignments, s =>
    { s with
      events := Function.update s.events competitionId
        ((s.events competitionId).map fun event => { event with matAssignments := assignments }) }

end Tkdchb
