import Tkdchb.Draws.Bracket
import Tkdchb.Lib.KeyedRows

/-!
# Creating a draw

`create_draw_for_group` replaces the newest draw of a group unless it is locked, writes
the first-round matches, records the pairs that meet, and runs the yearly cleanup of that
record. All of it is one transaction, so a call that raises leaves nothing behind.

Matches are kept with their draw. Foreign keys of enrollments lead somewhere, so of the
columns of a draw only the age category can be refused.

## Main definitions

* `PairHistory` — the recorded pairs, unique for each scope
* `Draw`, `DrawState` — draws with their matches
* `createDrawForGroup`, `drawStep` — the call, and the state it leaves

## Main results

* `createDrawForGroup_ok` — what a call that returns has checked and done
* `DrawCall.Created.mem_pairsIn` — the recorded pairs of the scope after such a call
-/

namespace Tkdchb

/-! ### The history of first-round pairs -/

/-- The columns of the history that are not the players. -/
structure PairScope where
  gender : String
  ageCategory : ℕ
  beltGroup : ℕ
  weightCategory : ℕ
  deriving DecidableEq, Repr

/-- A row of the history. Its players are in order: `save` swaps them if they are not. -/
structure FirstRoundPairHistory where
  pair : PlayerPair
  scope : PairScope
  lastCompetition : Option ℕ
  lastMetAt : Time

/-- The swap in `FirstRoundPairHistory.save`. -/
def savedOrder (a b : ℤ) : ℤ × ℤ := if a ≠ 0 ∧ b ≠ 0 ∧ b < a then (b, a) else (a, b)

/-- A pair that is in order is saved as it is. -/
theorem savedOrder_pair (p : PlayerPair) :
    savedOrder p.playerA p.playerB = (p.playerA, p.playerB) :=
  if_neg fun h => (not_lt.mpr p.ordered) h.2.2

/-- `unique_together` -/
def FirstRoundPairHistory.key (row : FirstRoundPairHistory) : PlayerPair × PairScope :=
  (row.pair, row.scope)

abbrev PairHistory := KeyedRows FirstRoundPairHistory.key

/-- The pairs recorded for a scope. No row has a null age category. -/
def pairsIn (h : PairHistory) : Option PairScope → List PlayerPair
  | none => []
  | some scope => (h.rows.filter fun row => row.scope = scope).map FirstRoundPairHistory.pair

theorem mem_pairsIn_iff {h : PairHistory} {scope : PairScope} {pair : PlayerPair} :
    pair ∈ pairsIn h (some scope) ↔ (pair, scope) ∈ h.keys := by
  simp only [pairsIn, KeyedRows.keys, List.mem_map, List.mem_filter, decide_eq_true_eq,
    FirstRoundPairHistory.key, Prod.mk.injEq]
  constructor
  · rintro ⟨row, ⟨hrow, hscope⟩, rfl⟩
    exact ⟨row, hrow, rfl, hscope⟩
  · rintro ⟨row, hrow, rfl, hscope⟩
    exact ⟨row, ⟨hrow, hscope⟩, rfl⟩

/-! ### Draws -/

/-- A match of the first round. -/
structure Match where
  roundNo : ℕ
  slotA : ℕ
  slotB : ℕ
  playerA : Option ℤ
  playerB : Option ℤ
  isBye : Bool
  deriving DecidableEq, Repr

/-- The columns that identify the group of a draw. -/
structure DrawScope where
  competition : ℕ
  gender : String
  ageCategory : Option ℕ
  beltGroup : ℕ
  weightCategory : ℕ
  deriving DecidableEq, Repr

/-- The scope of the history that belongs to a group. -/
def DrawScope.pairScope (scope : DrawScope) : Option PairScope :=
  scope.ageCategory.map fun age => ⟨scope.gender, age, scope.beltGroup, scope.weightCategory⟩

/-- A draw, with its matches. -/
structure Draw where
  scope : DrawScope
  size : ℕ
  clubThreshold : ℕ
  rngSeed : String
  isLocked : Bool
  createdAt : Time
  matchRows : List Match

structure DrawState where
  draws : Table Draw
  history : PairHistory

/-- No draws and no history. -/
def DrawState.empty : DrawState := ⟨Table.empty, KeyedRows.empty⟩

/-- The matches of the first round: slots one and two, three and four, and so on. -/
def firstRound (entriesFinal : List (Option Entry)) : List Match :=
  (pairUp entriesFinal).mapIdx fun i (a, b) =>
    { roundNo := 1
      slotA := 2 * i + 1
      slotB := 2 * i + 2
      playerA := a.map Entry.playerId
      playerB := b.map Entry.playerId
      isBye := a.isNone || b.isNone }

/-- The players of a match, if there are two. -/
def Match.pair (m : Match) : Option PlayerPair :=
  match m.playerA, m.playerB with
  | some p, some q => some (PlayerPair.of p q)
  | _, _ => none

theorem Match.pair_eq_some_iff {m : Match} {pair : PlayerPair} :
    m.pair = some pair ↔
      ∃ p q, m.playerA = some p ∧ m.playerB = some q ∧ PlayerPair.of p q = pair := by
  unfold Match.pair
  cases m.playerA <;> cases m.playerB <;> simp

/-- The pairs that meet in the first round of a draw. -/
def Draw.firstRoundPairs (draw : Draw) : List PlayerPair :=
  (draw.matchRows.filter fun m => m.roundNo = 1).filterMap Match.pair

/-- Numbering a list does not matter to a search that does not read the numbers. -/
theorem filterMap_mapIdx {α β γ : Type} {f : ℕ → α → β} {g : β → Option γ} {g' : α → Option γ}
    (h : ∀ i x, g (f i x) = g' x) (l : List α) : (l.mapIdx f).filterMap g = l.filterMap g' := by
  induction l generalizing f with
  | nil => rfl
  | cons x l ih =>
    rw [List.mapIdx_cons, List.filterMap_cons, List.filterMap_cons, h, ih fun i x => h (i + 1) x]

theorem mem_firstRound {l : List (Option Entry)} {m : Match} :
    m ∈ firstRound l ↔ ∃ (i : ℕ) (h : i < (pairUp l).length),
      { roundNo := 1
        slotA := 2 * i + 1
        slotB := 2 * i + 2
        playerA := (pairUp l)[i].1.map Entry.playerId
        playerB := (pairUp l)[i].2.map Entry.playerId
        isBye := (pairUp l)[i].1.isNone || (pairUp l)[i].2.isNone } = m :=
  List.mem_mapIdx

theorem roundNo_of_mem_firstRound {l : List (Option Entry)} {m : Match} (h : m ∈ firstRound l) :
    m.roundNo = 1 := by
  obtain ⟨i, hi, rfl⟩ := mem_firstRound.mp h
  rfl

/-- A new draw has no other rounds. -/
theorem filter_roundNo_firstRound (l : List (Option Entry)) :
    (firstRound l).filter (fun m => m.roundNo = 1) = firstRound l := by
  rw [List.filter_eq_self]
  intro m hm
  exact decide_eq_true (roundNo_of_mem_firstRound hm)

/-- The matches of the first round are those of the pairs. -/
theorem filterMap_firstRound (l : List (Option Entry)) :
    ((firstRound l).filter fun m => m.roundNo = 1).filterMap Match.pair = realPairs l := by
  rw [filter_roundNo_firstRound]
  apply filterMap_mapIdx
  rintro i ⟨a, b⟩
  cases a <;> cases b <;> rfl

/-! ### The call -/

/-- The group of a call. The gender is that of the competition. -/
def DrawCall.scope (c : DrawCall) : Option DrawScope :=
  (c.registry.kyorugi c.competitionId).map fun comp =>
    ⟨c.competitionId, comp.gender, c.ageCategoryId, c.beltGroupId, c.weightCategoryId⟩

/-- The newer one of a draw and the newest before it. -/
def newer (best : Option (ℕ × Draw)) (draw : ℕ × Draw) : ℕ × Draw :=
  match best with
  | none => draw
  | some b => if b.2.createdAt < draw.2.createdAt then draw else b

/-- `order_by("-created_at").first()` -/
def newestDraw (draws : List (ℕ × Draw)) : Option (ℕ × Draw) :=
  draws.foldl (fun best draw => some (newer best draw)) none

/-- The newest draw of a group. -/
def DrawState.previous (s : DrawState) (scope : DrawScope) : Option (ℕ × Draw) :=
  newestDraw (s.draws.select fun draw => draw.scope = scope)

/-- The previous draw is deleted if it is not locked. -/
def DrawState.discardPrevious (s : DrawState) (scope : DrawScope) : Table Draw :=
  match s.previous scope with
  | some (pk, prev) => if prev.isLocked then s.draws else s.draws.erase pk
  | none => s.draws

/-- `unique_together` refuses a second draw of a group, unless a column is null. -/
def violatesUnique (draws : Table Draw) (scope : DrawScope) : Bool :=
  scope.ageCategory.isSome && (draws.oldest fun draw => draw.scope = scope).isSome

/-- The row that `update_or_create` leaves for a pair. -/
def historyRow (c : DrawCall) (scope : PairScope) (pair : PlayerPair) : FirstRoundPairHistory where
  pair
  scope
  lastCompetition := some c.competitionId
  lastMetAt := c.now

/-- The `update_or_create` of each pair. The age category of a row must not be null. -/
def recordPairs (c : DrawCall) (scope : Option PairScope) (h : PairHistory)
    (pairs : List PlayerPair) : Except DrawError PairHistory :=
  match scope, pairs with
  | _, [] => .ok h
  | none, _ :: _ => .error .integrityError
  | some scope, pairs => .ok (h.putAll (pairs.map (historyRow c scope)))

/-- `cleanup_pair_history`: everything goes on 1 Farvardin. -/
def cleanupPairHistory (today : Option (ℕ × ℕ)) (h : PairHistory) : PairHistory :=
  if today = some (1, 1) then .empty else h

/-- The draw a call inserts, with its matches. -/
def DrawCall.newDraw (c : DrawCall) (scope : DrawScope) (size : ℕ)
    (entriesFinal : List (Option Entry)) : Draw where
  scope
  size
  clubThreshold := c.clubThreshold
  rngSeed := c.seed
  isLocked := false
  createdAt := c.now
  matchRows := firstRound entriesFinal

/-- `create_draw_for_group` -/
def createDrawForGroup (c : DrawCall) (s : DrawState) : Except DrawError (ℕ × DrawState) := do
  let some scope := c.scope | throw .doesNotExist
  let size ← c.size
  let some entriesFinal := c.seeding (pairsIn s.history scope.pairScope) size
    | throw .stopIteration
  let draws := s.discardPrevious scope
  if violatesUnique draws scope || c.ageCategoryId.any (!c.hasAgeCategory ·) then
    throw .integrityError
  let history ← recordPairs c scope.pairScope s.history (realPairs entriesFinal)
  return (draws.next,
    ⟨draws.insert (c.newDraw scope size entriesFinal), cleanupPairHistory c.today history⟩)

/-- A call that raises is rolled back. -/
def drawStep (c : DrawCall) (s : DrawState) : DrawState :=
  match createDrawForGroup c s with
  | .ok (_, s') => s'
  | .error _ => s

/-! ### What a call that returns has done -/

theorem exists_of_toOption {r : Except DrawError (ℕ × DrawState)} {pk : ℕ}
    (h : r.toOption.map Prod.fst = some pk) : ∃ s', r = .ok (pk, s') := by
  cases r with
  | error e => cases h
  | ok x =>
    obtain rfl := Option.some.inj h
    exact ⟨x.2, rfl⟩

/-- What a call that returns has checked and done. -/
structure DrawCall.Created (c : DrawCall) (s : DrawState) (pk : ℕ) (s' : DrawState)
    (scope : DrawScope) (size : ℕ) (entriesFinal : List (Option Entry)) : Prop where
  scope_eq : c.scope = some scope
  size_eq : c.size = .ok size
  seeding_eq : c.seeding (pairsIn s.history scope.pairScope) size = some entriesFinal
  unique : violatesUnique (s.discardPrevious scope) scope = false
  recorded : ∃ history,
    recordPairs c scope.pairScope s.history (realPairs entriesFinal) = .ok history ∧
      s'.history = cleanupPairHistory c.today history
  pk_eq : pk = s.draws.next
  draws_eq : s'.draws = (s.discardPrevious scope).insert (c.newDraw scope size entriesFinal)

section Created

variable {c : DrawCall} {s s' : DrawState} {pk : ℕ} {scope : DrawScope} {size : ℕ}
  {entriesFinal : List (Option Entry)}

@[simp] theorem next_discardPrevious (s : DrawState) (scope : DrawScope) :
    (s.discardPrevious scope).next = s.draws.next := by
  unfold DrawState.discardPrevious
  split
  · split_ifs <;> rfl
  · rfl

theorem createDrawForGroup_ok (h : createDrawForGroup c s = .ok (pk, s')) :
    ∃ scope size entriesFinal, c.Created s pk s' scope size entriesFinal := by
  unfold createDrawForGroup at h
  cases hscope : c.scope with
  | none => simp [hscope, throw, throwThe, MonadExceptOf.throw] at h
  | some scope =>
    cases hsize : c.size with
    | error e => simp [hscope, hsize, bind, Except.bind] at h
    | ok size =>
      cases hseed : c.seeding (pairsIn s.history scope.pairScope) size with
      | none =>
        simp [hscope, hsize, hseed, bind, Except.bind, throw, throwThe, MonadExceptOf.throw] at h
      | some entriesFinal =>
        simp only [hscope, hsize, hseed, bind, Except.bind, throw, throwThe,
          MonadExceptOf.throw] at h
        split_ifs at h with hintegrity
        cases hrecord : recordPairs c scope.pairScope s.history (realPairs entriesFinal) with
        | error e => simp [hrecord] at h
        | ok history =>
          simp only [hrecord, pure, Except.pure, Except.ok.injEq, Prod.mk.injEq] at h
          obtain ⟨rfl, rfl⟩ := h
          rw [Bool.or_eq_true, not_or] at hintegrity
          exact ⟨scope, size, entriesFinal, hscope, hsize, hseed,
            Bool.eq_false_iff.mpr hintegrity.1, ⟨history, hrecord, rfl⟩,
            next_discardPrevious s scope, rfl⟩

/-- A step does nothing, or creates a draw. -/
theorem drawStep_cases (c : DrawCall) (s : DrawState) :
    drawStep c s = s ∨ ∃ pk scope size entriesFinal, createDrawForGroup c s = .ok (pk, drawStep c s) ∧
      c.Created s pk (drawStep c s) scope size entriesFinal := by
  unfold drawStep
  cases hcall : createDrawForGroup c s with
  | error e => exact Or.inl rfl
  | ok x =>
    obtain ⟨pk, s'⟩ := x
    obtain ⟨scope, size, entriesFinal, hcreated⟩ := createDrawForGroup_ok hcall
    exact Or.inr ⟨pk, scope, size, entriesFinal, rfl, hcreated⟩

theorem DrawCall.Created.get_pk (h : c.Created s pk s' scope size entriesFinal) :
    s'.draws.get pk = some (c.newDraw scope size entriesFinal) := by
  rw [h.draws_eq, h.pk_eq, ← next_discardPrevious s scope]
  exact Table.get_insert_next

theorem firstRoundPairs_newDraw :
    (c.newDraw scope size entriesFinal).firstRoundPairs = realPairs entriesFinal :=
  filterMap_firstRound entriesFinal

/-- The record after the pairs of a draw are written. -/
theorem mem_pairsIn_recordPairs {history history' : PairHistory} {pairs : List PlayerPair}
    {pscope : Option PairScope} (h : recordPairs c pscope history pairs = .ok history')
    (pair : PlayerPair) :
    pair ∈ pairsIn history' pscope ↔ pair ∈ pairsIn history pscope ∨ pair ∈ pairs := by
  unfold recordPairs at h
  split at h
  · obtain rfl := Except.ok.inj h
    simp
  · cases h
  · next scope pairs _ =>
    obtain rfl := Except.ok.inj h
    rw [mem_pairsIn_iff, mem_pairsIn_iff, KeyedRows.mem_keys_putAll, List.map_map]
    simp [Function.comp_def, FirstRoundPairHistory.key, historyRow]

/-- **The recorded pairs after a call that returns**: nothing on 1 Farvardin, and else
those before it and those of the new draw. -/
theorem DrawCall.Created.mem_pairsIn (h : c.Created s pk s' scope size entriesFinal)
    (pair : PlayerPair) :
    pair ∈ pairsIn s'.history scope.pairScope ↔
      c.today ≠ some (1, 1) ∧
        (pair ∈ pairsIn s.history scope.pairScope ∨ pair ∈ realPairs entriesFinal) := by
  obtain ⟨history, hrecord, hclean⟩ := h.recorded
  rw [hclean, cleanupPairHistory]
  split_ifs with hnewYear
  · rw [hnewYear]
    cases scope.pairScope with
    | none => simp [pairsIn]
    | some pscope => simp [mem_pairsIn_iff]
  · rw [mem_pairsIn_recordPairs hrecord]
    simp [hnewYear]

end Created

/-- A call for a group of players who have all paid, with shuffles that keep the order. -/
def groupCall (ageCategoryId : Option ℕ) (players : List ℤ) (today : ℕ × ℕ) : DrawCall :=
  { (default : DrawCall) with
    competitionId := 1, beltGroupId := 1, weightCategoryId := 2, ageCategoryId
    registry := { (default : Registry) with kyorugi := fun _ => some default }
    enrollments := players.foldl (fun table player => table.insert { (default : Enrollment) with
      competition := 1, beltGroup := some 1, weightCategory := some 2, player
      status := .paid }) Table.empty
    hasAgeCategory := fun _ => true
    shuffle := fun _ order => order
    today := some today }

end Tkdchb
