import Mathlib.Algebra.Order.Ring.Nat
import Mathlib.Data.List.Induction
import Tkdchb.Competitions.Records
import Tkdchb.Lib.Table

/-!
# The first round of a draw

The part of `create_draw_for_group` that reads and writes no draw: who takes part, how
large the table is, which slots are BYEs, and which of the shuffled orders goes on the
other slots. Random numbers are an argument: the order of each attempt is given.

## Main definitions

* `DrawCall` — the arguments of a call, and what it reads
* `byeSlots`, `orderCostForSlots`, `bestOrderByPenaltyOnSlots` — the parts of the drawing
* `DrawCall.seeding` — what stands on the slots of the table
* `realPairs` — the pairs that meet in the first round
* `hasOpenMatch`, `DrawCall.opensMatch` — some match of the table has no BYE, whoever is
  drawn

## Main results

* `realPairs_eq_nil_iff` — there are pairs exactly if the table has an open match
-/

namespace Tkdchb

/-- What a call raises. -/
inductive DrawError where
  /-- `KyorugiCompetition.DoesNotExist` -/
  | doesNotExist
  | valueError (message : String)
  | stopIteration
  | integrityError
  deriving DecidableEq, Repr

/-- `_Entry`. The player of an enrollment is never null, and a BYE is no entry. -/
structure Entry where
  enrollmentId : ℕ
  playerId : ℤ
  clubId : Option ℕ
  deriving DecidableEq, Repr, Inhabited

/-- Two players, the smaller number first. -/
structure PlayerPair where
  playerA : ℤ
  playerB : ℤ
  ordered : playerA ≤ playerB
  deriving DecidableEq, Repr

/-- `(a, b) if a < b else (b, a)` -/
def PlayerPair.of (a b : ℤ) : PlayerPair :=
  if h : a < b then ⟨a, b, h.le⟩ else ⟨b, a, not_lt.mp h⟩

/-- A call of `create_draw_for_group`: its arguments, and what it finds. -/
structure DrawCall where
  competitionId : ℕ
  ageCategoryId : Option ℕ
  beltGroupId : ℕ
  weightCategoryId : ℕ
  clubThreshold : ℕ
  seed : String
  shuffleAttempts : ℤ
  sizeOverride : Option ℤ
  /-- competitions and profiles -/
  registry : Registry
  enrollments : Table Enrollment
  hasAgeCategory : ℕ → Bool
  /-- what the `i`-th `shuffle` of the generator makes of a list -/
  shuffle : ℕ → List Entry → List Entry
  now : Time
  /-- month and day of `jdatetime.date.today()`; none if the command fails before it -/
  today : Option (ℕ × ℕ)
  deriving Inhabited

/-! ### Entries and size -/

/-- `ELIGIBLE_STATUSES` -/
def eligible (status : EnrollmentStatus) : Bool :=
  status = .paid || status = .confirmed || status = .accepted || status = .completed

/-- The entries of the group, ordered by enrollment. A club number of zero counts as none. -/
def DrawCall.entries (c : DrawCall) : List Entry :=
  (c.enrollments.select fun e =>
    e.competition == c.competitionId && e.beltGroup == some c.beltGroupId &&
      e.weightCategory == some c.weightCategoryId && eligible e.status).map fun (pk, e) =>
    { enrollmentId := pk
      playerId := e.player
      clubId := (e.club.filter (· ≠ 0)).or ((c.registry.profile e.player).bind UserProfile.club) }

/-- `_is_pow2` -/
def isPow2 (x : ℤ) : Bool := decide (0 < x) && (x.toNat &&& (x.toNat - 1)) == 0

/-- The loop of `_next_pow2`. -/
def nextPow2Loop (bound : ℕ) : ℕ → ℕ → ℕ
  | 0, s => s
  | fuel + 1, s => if s < bound then nextPow2Loop bound fuel (s <<< 1) else s

/-- `_next_pow2` -/
def nextPow2 (n : ℕ) : ℕ := nextPow2Loop (max n 2) (max n 2) 1

/-- The loop ends before its fuel does. -/
theorem le_nextPow2Loop {bound fuel s : ℕ} (hs : 0 < s) (h : bound ≤ s + fuel) :
    bound ≤ nextPow2Loop bound fuel s := by
  induction fuel generalizing s with
  | zero => exact h
  | succ fuel ih =>
    rw [nextPow2Loop]
    split_ifs with hlt
    · have hdouble : s <<< 1 = 2 * s := by rw [Nat.shiftLeft_eq, pow_one, mul_comm]
      apply ih
      · omega
      · omega
    · omega

theorem le_nextPow2 (n : ℕ) : n ≤ nextPow2 n := by
  have h : max n 2 ≤ nextPow2Loop (max n 2) (max n 2) 1 := le_nextPow2Loop one_pos (by omega)
  exact (le_max_left n 2).trans h

/-- The size of the table for `realCount` players. -/
def tableSize (sizeOverride : Option ℤ) (realCount : ℕ) : Except DrawError ℕ :=
  match sizeOverride with
  | some size =>
    if !isPow2 size then
      .error (.valueError "اندازه جدول باید توان ۲ باشد (مثلاً 2، 4، 8، 16، 32، 64).")
    else
      let minNeeded := if 1 ≤ realCount ∧ realCount ≤ 4 then 4 else 2
      .ok (max size.toNat minNeeded)
  | none => .ok (if 1 ≤ realCount ∧ realCount ≤ 4 then 4 else nextPow2 realCount)

/-- The size of the table of a call. -/
def DrawCall.size (c : DrawCall) : Except DrawError ℕ :=
  if c.entries.length < 1 then
    .error (.valueError "برای این گروه حداقل ۱ شرکت‌کننده لازم است.")
  else tableSize c.sizeOverride c.entries.length

/-! ### BYEs -/

/-- `BYE_ORDER_MAP` -/
def byeOrderMap : ℕ → Option (List ℕ)
  | 2 => some [2, 1]
  | 4 => some [4, 1, 3, 2]
  | 8 => some [8, 1, 5, 4, 6, 3, 7, 2]
  | 16 => some [16, 1, 9, 8, 13, 5, 12, 6, 14, 3, 11, 7, 10, 2, 15, 4]
  | 32 => some [32, 1, 17, 16, 25, 8, 24, 9, 29, 4, 20, 13, 28, 5, 21, 12,
      31, 2, 18, 15, 26, 7, 23, 10, 30, 3, 19, 14, 27, 6, 22, 11]
  | 64 => some [64, 1, 33, 32, 49, 16, 48, 17, 57, 8, 40, 25, 56, 9, 41, 24,
      61, 4, 36, 29, 52, 13, 45, 20, 60, 5, 37, 28, 53, 12, 44, 21,
      63, 2, 34, 31, 50, 15, 47, 18, 58, 7, 39, 26, 55, 10, 42, 23,
      62, 3, 35, 30, 51, 14, 46, 19, 59, 6, 38, 27, 54, 11, 43, 22]
  | _ => none

/-- The loop of the fallback: from the end and the beginning in turn. -/
def byeOrderLoop (size : ℕ) : ℕ → ℕ → ℕ → List ℕ → List ℕ
  | 0, _, _, order => order
  | fuel + 1, l, r, order =>
    if l ≤ r then
      let order := order ++ [r]
      if size ≤ order.length then order
      else byeOrderLoop size fuel (l + 1) (r - 1) (order ++ [l])
    else order

/-- `_bye_slots` -/
def byeSlots (size byeCount : ℕ) : List ℕ :=
  ((byeOrderMap size).getD (byeOrderLoop size size 1 size [])).take byeCount

/-- `range(1, size + 1)` -/
def slots (size : ℕ) : List ℕ := (List.range size).map (· + 1)

/-- First and second, third and fourth, and so on. -/
def pairUp {α : Type} : List α → List (α × α)
  | a :: b :: rest => (a, b) :: pairUp rest
  | _ => []

/-! ### Costs -/

/-- `REPEAT_PAIR_PENALTY` -/
def repeatPairPenalty : ℕ := 100

/-- `SAME_CLUB_PENALTY` -/
def sameClubPenalty : ℕ := 1

/-- `_pair_cost` of two players. -/
def pairCost (effectiveCount clubThreshold : ℕ) (historyPairs : List PlayerPair) (a b : Entry) : ℕ :=
  (if PlayerPair.of a.playerId b.playerId ∈ historyPairs then repeatPairPenalty else 0) +
    (if effectiveCount > clubThreshold ∧ (a.clubId.filter (· ≠ 0)).isSome ∧
        (b.clubId.filter (· ≠ 0)).isSome ∧ a.clubId = b.clubId
      then sameClubPenalty else 0)

/-- `_order_cost_for_slots` -/
def orderCostForSlots (nonByeSlots : List ℕ) (size effectiveCount clubThreshold : ℕ)
    (historyPairs : List PlayerPair) (playersOrder : List Entry) : ℕ :=
  let slotToEntry := nonByeSlots.zip playersOrder
  ((pairUp (slots size)).map fun (s, s') =>
    match slotToEntry.lookup s, slotToEntry.lookup s' with
    | some a, some b => pairCost effectiveCount clubThreshold historyPairs a b
    | _, _ => 0).sum

/-- The loop over the attempts: the first order of least cost, and no further once an
order costs nothing. -/
def bestOrderLoop (cost : List Entry → ℕ) (shuffled : ℕ → List Entry) :
    ℕ → ℕ → Option (List Entry × ℕ) → Option (List Entry × ℕ)
  | 0, _, best => best
  | attempts + 1, i, best =>
    let tmp := shuffled i
    let better :=
      match best with
      | none => true
      | some (_, bestCost) => decide (cost tmp < bestCost)
    if better then
      if cost tmp = 0 then some (tmp, 0)
      else bestOrderLoop cost shuffled attempts (i + 1) (some (tmp, cost tmp))
    else bestOrderLoop cost shuffled attempts (i + 1) best

/-- `_best_order_by_penalty_on_slots` -/
def bestOrderByPenaltyOnSlots (cost : List Entry → ℕ) (shuffle : ℕ → List Entry → List Entry)
    (attempts : ℤ) (playersOnly : List Entry) : List Entry :=
  if playersOnly.length ≤ 2 then playersOnly
  else
    match bestOrderLoop cost (fun i => shuffle i playersOnly) (max 1 attempts).toNat 0 none with
    | some (e :: rest, _) => e :: rest
    | _ => playersOnly

/-! ### The table -/

/-- The players go on the slots that are no BYE, in order. -/
def assemble (byeSet : List ℕ) : List ℕ → List Entry → Option (List (Option Entry))
  | [], _ => some []
  | s :: rest, players =>
    if s ∈ byeSet then (assemble byeSet rest players).map (none :: ·)
    else
      match players with
      | [] => none
      | player :: players => (assemble byeSet rest players).map (some player :: ·)

/-- `entries_final`, for a table of the given size. -/
def DrawCall.seeding (c : DrawCall) (historyPairs : List PlayerPair) (size : ℕ) :
    Option (List (Option Entry)) :=
  let realCount := c.entries.length
  let byeSet := byeSlots size (size - realCount)
  let nonByeSlots := (slots size).filter (· ∉ byeSet)
  let cost := orderCostForSlots nonByeSlots size realCount c.clubThreshold historyPairs
  assemble byeSet (slots size)
    (bestOrderByPenaltyOnSlots cost c.shuffle c.shuffleAttempts c.entries)

/-- The pairs of players that meet in the first round. -/
def realPairs (entriesFinal : List (Option Entry)) : List PlayerPair :=
  (pairUp entriesFinal).filterMap fun (a, b) =>
    match a, b with
    | some a, some b => some (PlayerPair.of a.playerId b.playerId)
    | _, _ => none

/-- Some match of the table has no BYE. -/
def hasOpenMatch (size realCount : ℕ) : Bool :=
  (pairUp (slots size)).any fun (s, s') =>
    s ∉ byeSlots size (size - realCount) && s' ∉ byeSlots size (size - realCount)

/-- The table of the call has a match without a BYE. -/
def DrawCall.opensMatch (c : DrawCall) : Bool :=
  match c.size with
  | .ok size => hasOpenMatch size c.entries.length
  | .error _ => false

theorem pairUp_map {α β : Type} (f : α → β) (l : List α) :
    pairUp (l.map f) = (pairUp l).map (Prod.map f f) := by
  induction l using List.twoStepInduction with
  | nil => rfl
  | singleton a => rfl
  | cons_cons a b rest ih _ => simp [pairUp, ih]

/-- A slot is empty exactly if it is a BYE. -/
theorem isNone_assemble {byeSet : List ℕ} {slots : List ℕ} {players : List Entry}
    {l : List (Option Entry)} (h : assemble byeSet slots players = some l) :
    l.map Option.isNone = slots.map fun s => decide (s ∈ byeSet) := by
  induction slots generalizing players l with
  | nil =>
    obtain rfl := Option.some.inj h
    rfl
  | cons s rest ih =>
    unfold assemble at h
    split_ifs at h with hbye
    · obtain ⟨l', hl', rfl⟩ := Option.map_eq_some_iff.mp h
      simp [ih hl', hbye]
    · cases players with
      | nil => cases h
      | cons player players =>
        obtain ⟨l', hl', rfl⟩ := Option.map_eq_some_iff.mp h
        simp [ih hl', hbye]

/-- The matches of a table have BYEs where the slots are BYEs. -/
theorem isNone_pairUp_assemble {byeSet : List ℕ} {slots : List ℕ} {players : List Entry}
    {l : List (Option Entry)} (h : assemble byeSet slots players = some l) :
    (pairUp l).map (Prod.map Option.isNone Option.isNone) =
      (pairUp slots).map
        (Prod.map (fun s => decide (s ∈ byeSet)) fun s => decide (s ∈ byeSet)) := by
  rw [← pairUp_map, ← pairUp_map, isNone_assemble h]

/-- **Pairs meet exactly if the table has an open match**, whoever is drawn. -/
theorem realPairs_eq_nil_iff {c : DrawCall} {historyPairs : List PlayerPair} {size : ℕ}
    {l : List (Option Entry)} (h : c.seeding historyPairs size = some l) :
    realPairs l = [] ↔ hasOpenMatch size c.entries.length = false := by
  have hnil : realPairs l = [] ↔
      ((pairUp l).map (Prod.map Option.isNone Option.isNone)).any (fun p => !p.1 && !p.2) =
        false := by
    rw [realPairs, List.filterMap_eq_nil_iff, List.any_eq_false, List.forall_mem_map]
    apply forall₂_congr
    rintro ⟨a, b⟩ -
    cases a <;> cases b <;> simp
  rw [hnil, isNone_pairUp_assemble h, hasOpenMatch, List.any_map]
  simp [Function.comp_def]

end Tkdchb
