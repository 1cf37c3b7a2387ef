import Tkdchb.Competitions.PublicIds
import Tkdchb.Draws.WebBracket

/-!
# From the draw to the public

Groups are drawn and drawn again, draws are locked, weights are assigned to mats, matches are
numbered and cleared, and competitions are published and hidden, in any order. Nothing ties a
publication to what it was given for: a draw that is made later is shown as well. What the
public sees is nevertheless a draw that stands, with the first round that was drawn for it,
all its later rounds, and a number on each match that is played. The exception are draws whose
first round has BYEs only: these are shown before anything is numbered.

## Main definitions

* `DrawDay`, `DayAction`, `dayStep` — the calls of all services that write draws
* `carryOver` — the matches after draws were replaced
* `Stands` — what holds of a draw and its matches at any time

## Main results

* `stands_run` — every draw stands in every state
* `shown_in_order` — what the public sees
* `own_of_shown` — and under which key
-/

namespace Tkdchb

open Transition NumberingState

/-! ### The services together -/

/-- The draws, and their matches with the competitions they belong to. -/
structure DrawDay where
  drawing : DrawState
  board : NumberingState

inductive DayAction where
  | drawing (a : DrawAction)
  | numbering (a : NumberingAction)
  | publish (competition unpublish : Option String) (now : Time)

/-- The matches of the draws: those of a draw that was there stay, a new draw has its first
round, and the others went with their draws. -/
def carryOver (old : Table Bracket) (draws : Table Draw) : Table Bracket where
  get pk := (draws.get pk).map fun draw => (old.get pk).getD draw.bracket
  next := draws.next
  fresh pk hpk := by rw [draws.fresh pk hpk, Option.map_none]

/-- One call. -/
def dayStep : DayAction → DrawDay → DrawDay
  | .drawing a, s =>
    let drawing := drawActionStep a s.drawing
    ⟨drawing, { s.board with draws := carryOver s.board.draws drawing.draws }⟩
  | .numbering a, s => { s with board := numberingStep a s.board }
  | .publish competition unpublish now, s =>
    { s with board := (numberingPublishView competition unpublish now s.board).2 }

/-- No draws yet. -/
def emptyDay (events : ℕ → Option BracketEvent) (minWeight : ℕ → ℚ) : DrawDay where
  drawing := .empty
  board := ⟨Table.empty, events, minWeight⟩

/-- The matches of the first round, as they were drawn. -/
def Bracket.firstRound (b : Bracket) : List Match :=
  (b.bouts.filter fun m => m.roundNo = 1).map Bout.toMatch

/-- The matches are those of the draw: its first round without any numbers, or all its
rounds. -/
structure Stands (draw : Draw) (b : Bracket) : Prop where
  made : ∃ rounds, draw.Made rounds
  scope : b.scope = draw.scope
  stage : (b.outline = draw.bracket.outline ∧ ∀ m ∈ b.bouts, m.matchNumber = none) ∨
    b.outline = draw.bracket.ensureRoundsExist.outline

/-- Every draw has its matches. -/
structure AllStand (s : DrawDay) : Prop where
  isSome_eq : ∀ pk, (s.board.draws.get pk).isSome = (s.drawing.draws.get pk).isSome
  stands : ∀ pk draw b, s.drawing.draws.get pk = some draw → s.board.draws.get pk = some b →
    Stands draw b

/-! ### Each draw stands -/

namespace Stands

variable {draw : Draw} {b b' : Bracket} {s : NumberingState} {competitionId pk : ℕ}
  {weightIds : List ℕ} {clearPrev : Bool} {w2m : ℕ → Option ℕ}

theorem of_made {rounds : ℕ} (h : draw.Made rounds) : Stands draw draw.bracket where
  made := ⟨rounds, h⟩
  scope := rfl
  stage := by
    refine Or.inl ⟨rfl, fun m hm => ?_⟩
    obtain ⟨m', -, rfl⟩ := List.mem_map.mp hm
    rfl

/-- Whether a draw is locked does not matter to its matches. -/
theorem of_setLocked (h : Stands draw b) (isLocked : Bool) :
    Stands { draw with isLocked } b where
  made := by
    obtain ⟨rounds, hmade⟩ := h.made
    obtain ⟨⟨hne, hround, htwo, hfull⟩, hpos, hsize, hbracket⟩ := hmade
    obtain ⟨hlength, hrounds, hslots, hpartition, hseated, hbye⟩ := hbracket
    exact ⟨rounds, ⟨hne, hround, htwo, hfull⟩, hpos, hsize,
      ⟨hlength, hrounds, hslots, hpartition, hseated, hbye⟩⟩
  scope := h.scope
  stage := h.stage

/-- The outline with all rounds is that of the draw. -/
theorem madeAs (h : Stands draw b) : b.MadeAs draw := by
  obtain ⟨rounds, hmade⟩ := h.made
  refine ⟨hmade.toDrawn, h.scope, ?_⟩
  rw [← Bracket.ensureRoundsExist_outline]
  rcases h.stage with ⟨hfirst, -⟩ | hfull
  · rw [hfirst, Bracket.ensureRoundsExist_outline]
  · rw [hfull, Bracket.ensureRoundsExist_outline,
      Bracket.ensureRoundsExist_idem hmade.toDrawn.bouts_ne_nil]

theorem clearNumbers (h : Stands draw b) : Stands draw b.clearNumbers where
  made := h.made
  scope := h.scope
  stage := by
    rw [Bracket.outline_clearNumbers]
    rcases h.stage with ⟨hfirst, -⟩ | hfull
    · refine Or.inl ⟨hfirst, fun m hm => ?_⟩
      obtain ⟨m', -, rfl⟩ := List.mem_map.mp hm
      rfl
    · exact Or.inr hfull

/-- A numbering fills up the rounds of the draws it selects and leaves the others alone. -/
theorem numbered (h : Stands draw b) (hb : s.draws.get pk = some b)
    (hb' : (s.numbered competitionId weightIds clearPrev w2m).draws.get pk = some b') :
    Stands draw b' := by
  have hmade := madeAs_numbered h.madeAs hb hb'
  refine ⟨h.made, hmade.scope, ?_⟩
  by_cases hsel : Selects competitionId weightIds b
  · right
    rw [outline_of_selects hb hsel hb', h.madeAs.outline]
  · have houtline : b'.outline = b.outline := by
      have heq : ((s.numbered competitionId weightIds clearPrev w2m).draws.get pk).map
          Bracket.outline = _ := outline_numbered w2m hb
      rwa [hb', Option.map_some, Option.some.injEq, if_neg hsel] at heq
    rw [houtline]
    rcases h.stage with ⟨hfirst, hnone⟩ | hfull
    · refine Or.inl ⟨hfirst, fun m hm => ?_⟩
      obtain ⟨i, hrow⟩ := List.getElem?_of_mem hm
      -- no row of a draw that was not selected is written
      have hnot : ∀ matNo, ¬ s.Numbers competitionId weightIds w2m matNo pk i := by
        rintro matNo ⟨b₀, hb₀, hsel₀, -⟩
        obtain rfl := Option.some.inj (hb.symm.trans hb₀)
        exact hsel hsel₀
      have hafter := boutAt_numbered_of_not (x := (pk, i)) clearPrev hnot
      rw [boutAt_of_get hb', boutAt_prepared_of_not hb hsel, hrow] at hafter
      exact hnone m (List.mem_of_getElem? hafter.symm)
    · exact Or.inr hfull

end Stands

section Runs

variable {s : DrawDay} {pk : ℕ} {draw : Draw} {b : Bracket} {events : ℕ → Option BracketEvent}
  {minWeight : ℕ → ℚ} {acts : List DayAction}

theorem get_carryOver {old : Table Bracket} {draws : Table Draw} :
    (carryOver old draws).get pk = (draws.get pk).map fun draw => (old.get pk).getD draw.bracket :=
  rfl

/-- What a call makes of the draws: each was there before, apart from its lock, or is new and
has a key that was never used. -/
theorem drawActionStep_cases (a : DrawAction) (d : DrawState)
    (hget : (drawActionStep a d).draws.get pk = some draw) :
    (∃ draw' isLocked, d.draws.get pk = some draw' ∧ draw = { draw' with isLocked }) ∨
      (d.draws.get pk = none ∧ ∃ rounds, draw.Made rounds) := by
  cases a with
  | setLocked pk' isLocked =>
    rcases Table.get_modify_cases hget with hold | ⟨-, draw', hold, rfl⟩
    · exact Or.inl ⟨draw, draw.isLocked, hold, rfl⟩
    · exact Or.inl ⟨draw', isLocked, hold, rfl⟩
  | draw c =>
    rw [drawActionStep] at hget
    rcases drawStep_cases c d with heq | ⟨pk', scope, size, entriesFinal, -, hcreated⟩
    · rw [heq] at hget
      exact Or.inl ⟨draw, draw.isLocked, hget, rfl⟩
    · rw [hcreated.draws_eq] at hget
      rcases Table.get_insert_cases hget with hold | ⟨hpk, rfl⟩
      · exact Or.inl ⟨draw, draw.isLocked, get_discardPrevious hold, rfl⟩
      · refine Or.inr ⟨?_, hcreated.exists_made⟩
        rw [hpk, next_discardPrevious]
        exact d.draws.fresh _ le_rfl

theorem allStand_drawing (a : DrawAction) (h : AllStand s) : AllStand (dayStep (.drawing a) s) where
  isSome_eq pk := by
    rw [dayStep, get_carryOver, Option.isSome_map]
  stands pk draw b hget hb := by
    simp only [dayStep] at hget hb
    rw [get_carryOver, hget, Option.map_some, Option.some.injEq] at hb
    rcases drawActionStep_cases a s.drawing hget with ⟨draw', isLocked, hold, rfl⟩ | ⟨hnone, hmade⟩
    · -- the matches of a draw that was there stay
      have hsome := h.isSome_eq pk
      rw [hold, Option.isSome_some, Option.isSome_iff_exists] at hsome
      obtain ⟨b', hb'⟩ := hsome
      rw [hb', Option.getD_some] at hb
      exact hb ▸ (h.stands pk draw' b' hold hb').of_setLocked isLocked
    · have hnew := h.isSome_eq pk
      rw [hnone, Option.isSome_none, Option.isSome_eq_false_iff, Option.isNone_iff_eq_none] at hnew
      rw [hnew, Option.getD_none] at hb
      obtain ⟨rounds, hmade⟩ := hmade
      exact hb ▸ Stands.of_made hmade

/-- Clearing and numbering leave a draw of each key. -/
theorem isSome_callStep (competitionId : ℕ) (call : NumberingCall) (t : NumberingState) (pk : ℕ) :
    ((callStep competitionId call t).draws.get pk).isSome = (t.draws.get pk).isSome :=
  (follows_callStep competitionId call t).isSome pk

theorem stands_callStep {t : NumberingState} {competitionId : ℕ} {call : NumberingCall}
    {b' : Bracket} (h : Stands draw b) (hb : t.draws.get pk = some b)
    (hb' : (callStep competitionId call t).draws.get pk = some b') : Stands draw b' := by
  cases call with
  | number weightIds clearPrev =>
    by_cases hsel : ∃ r, t.selection competitionId weightIds = .ok r
    · rw [callStep_number hsel] at hb'
      exact h.numbered hb hb'
    · rw [callStep_number_of_not hsel, hb] at hb'
      exact Option.some.inj hb' ▸ h
  | clear weightIds =>
    rcases callStep_clear t competitionId weightIds with heq | heq
    · rw [heq, hb] at hb'
      exact Option.some.inj hb' ▸ h
    · rw [heq] at hb'
      simp only [NumberingState.updateDraws, Table.get_map, hb, Option.map_some,
        Option.some.injEq] at hb'
      rw [← hb']
      split_ifs
      · exact h.clearNumbers
      · exact h

theorem allStand_call (competitionId : ℕ) (call : NumberingCall) (h : AllStand s) :
    AllStand { s with board := callStep competitionId call s.board } where
  isSome_eq pk := (isSome_callStep competitionId call s.board pk).trans (h.isSome_eq pk)
  stands pk draw b' hget hb' := by
    have hsome := isSome_callStep competitionId call s.board pk
    rw [hb', Option.isSome_some, eq_comm, Option.isSome_iff_exists] at hsome
    obtain ⟨b, hb⟩ := hsome
    exact stands_callStep (h.stands pk draw b hget hb) hb hb'

@[simp] theorem draws_numberingPublishView (competition unpublish : Option String) (now : Time)
    (t : NumberingState) :
    (numberingPublishView competition unpublish now t).2.draws = t.draws := by
  unfold numberingPublishView
  split
  · rfl
  · split
    · rfl
    · split_ifs <;> rfl

/-- **Each call leaves every draw standing.** -/
theorem allStand_step (a : DayAction) (s : DrawDay) (h : AllStand s) : AllStand (dayStep a s) := by
  cases a with
  | drawing a => exact allStand_drawing a h
  | numbering a =>
    cases a with
    | number competitionId weightIds clearPrev =>
      exact allStand_call competitionId (.number weightIds clearPrev) h
    | clear competitionId weightIds => exact allStand_call competitionId (.clear weightIds) h
    | assignMats competitionId assignments => exact ⟨h.isSome_eq, h.stands⟩
  | publish competition unpublish now =>
    refine ⟨fun pk => ?_, fun pk draw b hget hb => ?_⟩
    · rw [dayStep, draws_numberingPublishView]
      exact h.isSome_eq pk
    · rw [dayStep, draws_numberingPublishView] at hb
      exact h.stands pk draw b hget hb

theorem allStand_emptyDay : AllStand (emptyDay events minWeight) :=
  ⟨fun _ => rfl, fun _ _ _ hget => by cases hget⟩

/-- **Every draw stands in every state.** -/
theorem stands_run (acts : List DayAction) : AllStand (run dayStep (emptyDay events minWeight) acts) :=
  run_invariant allStand_step allStand_emptyDay acts

end Runs

/-! ### What the public sees -/

namespace Bracket

variable {b : Bracket}

/-- BYEs of the first round count, so the outline shows the first round as it is. -/
theorem firstRound_outline (h : b.firstRoundNo = some 1) : b.outline.firstRound = b.firstRound := by
  have hround : ∀ m : Bout, (m.outline b.firstRoundNo).roundNo = m.roundNo := fun _ => rfl
  rw [firstRound, firstRound, outline, List.filter_map, List.map_map]
  apply List.map_congr_left
  intro m hm
  have hone : m.roundNo = 1 := by simpa [hround] using (List.mem_filter.mp hm).2
  have hbye : (m.isBye && decide (b.firstRoundNo = some m.roundNo)) = m.isBye := by
    rw [h, hone, decide_eq_true rfl, Bool.and_true]
  simp only [Function.comp_apply, Bout.outline, hbye]

/-- Where all matches are in the first round, it is all there is. -/
theorem firstRound_eq_map (h : ∀ m ∈ b.bouts, m.roundNo = 1) :
    b.firstRound = b.bouts.map Bout.toMatch := by
  rw [firstRound, List.filter_eq_self.mpr fun m hm => decide_eq_true (h m hm)]

end Bracket

theorem Draw.Made.firstRound_eq {draw : Draw} {rounds : ℕ} (h : draw.Made rounds) :
    draw.bracket.firstRound = draw.matchRows := by
  have hround : ∀ m ∈ draw.bracket.bouts, m.roundNo = 1 := by
    intro m hm
    obtain ⟨m', hm', rfl⟩ := List.mem_map.mp hm
    exact h.round m' hm'
  rw [Bracket.firstRound_eq_map hround, Draw.bracket, List.map_map]
  exact List.map_id _

namespace Stands

variable {draw : Draw} {b : Bracket} {rounds : ℕ}

/-- **The first round stays as it was drawn.** -/
theorem firstRound_eq (h : Stands draw b) : b.firstRound = draw.matchRows := by
  obtain ⟨rounds, hmade⟩ := h.made
  rw [← Bracket.firstRound_outline h.madeAs.firstRoundNo]
  rcases h.stage with ⟨hfirst, -⟩ | hfull
  · rw [hfirst, Bracket.firstRound_outline hmade.toDrawn.firstRoundNo, hmade.firstRound_eq]
  · have hone : draw.bracket.ensureRoundsExist.firstRoundNo = some 1 := by
      rw [Bracket.firstRoundNo_ensureRoundsExist hmade.toDrawn.bouts_ne_nil,
        hmade.toDrawn.firstRoundNo]
    rw [hfull, Bracket.firstRound_outline hone, Bracket.firstRound,
      Bracket.bouts_ensureRoundsExist, List.filter_append, hmade.filter_missing_first,
      List.append_nil]
    exact hmade.firstRound_eq

theorem size_eq (h : Stands draw b) : b.size = draw.size := by
  have houtline := congrArg Bracket.size h.madeAs.outline
  rwa [Bracket.size_outline, Bracket.size_outline, Bracket.size_ensureRoundsExist,
    Bracket.size_ensureRoundsExist] at houtline

theorem fullRounds (hmade : draw.Made rounds)
    (hfull : b.outline = draw.bracket.ensureRoundsExist.outline) : FullRounds rounds b.bouts := by
  have hbouts := congrArg (fun b : Bracket => b.bouts.map fun m => (m.roundNo, m.slotA)) hfull
  simp only [Bracket.outline, List.map_map, Function.comp_def, Bout.outline] at hbouts
  exact hmade.fullRounds.congr hbouts

/-- Before a numbering there is only the first round. -/
theorem map_toMatch_of_first (h : Stands draw b) (hfirst : b.outline = draw.bracket.outline) :
    b.bouts.map Bout.toMatch = draw.matchRows := by
  have hrounds := congrArg (fun b : Bracket => b.bouts.map fun m => m.roundNo) hfirst
  simp only [Bracket.outline, List.map_map, Function.comp_def, Bout.outline] at hrounds
  have hone : ∀ m ∈ b.bouts, m.roundNo = 1 := by
    intro m hm
    have hmem : m.roundNo ∈ b.bouts.map fun m => m.roundNo := List.mem_map_of_mem hm
    rw [hrounds] at hmem
    obtain ⟨m', hm', hround⟩ := List.mem_map.mp hmem
    obtain ⟨m'', hm'', rfl⟩ := List.mem_map.mp hm'
    rw [← hround]
    exact h.madeAs.drawn.round m'' hm''
  rw [← Bracket.firstRound_eq_map hone, h.firstRound_eq]

/-- **A safe draw has only BYEs in its first round and nothing else, or all its rounds with a
number on each match that is no BYE.** -/
theorem of_safe (h : Stands draw b) (hmade : draw.Made rounds) (hsafe : b.isUnsafe = false) :
    (b.bouts.map Bout.toMatch = draw.matchRows ∧ ∀ m ∈ draw.matchRows, m.isBye = true) ∨
      FullRounds rounds b.bouts ∧
        ∀ m ∈ b.bouts, m.isBye = false → m.matchNumber.isSome = true := by
  rw [Bracket.isUnsafe, List.any_eq_false] at hsafe
  rcases h.stage with ⟨hfirst, hnone⟩ | hfull
  · have hrows := h.map_toMatch_of_first hfirst
    refine Or.inl ⟨hrows, fun m hm => ?_⟩
    rw [← hrows] at hm
    obtain ⟨m', hm', rfl⟩ := List.mem_map.mp hm
    simpa [hnone m' hm'] using hsafe m' hm'
  · refine Or.inr ⟨fullRounds hmade hfull, fun m hm hbye => ?_⟩
    have hnumber := hsafe m hm
    rw [hbye, Bool.not_false, Bool.true_and] at hnumber
    rwa [← Option.not_isNone, Bool.not_eq_true', ← Bool.not_eq_true]

end Stands

section Shown

variable {events : ℕ → Option BracketEvent} {minWeight : ℕ → ℚ} {acts : List DayAction}
  {reg : Registry} {key : String} {shown : List (ℕ × Bracket)} {pk : ℕ} {b : Bracket}

/-- The draws of the answer are safe draws of the competition. -/
theorem mem_of_kyorugiBracketView {t : NumberingState}
    (h : kyorugiBracketView reg key t = .ok shown) (hmem : (pk, b) ∈ shown) :
    t.draws.get pk = some b ∧ b.isUnsafe = false ∧
      reg.getCompByKey key = some b.scope.competition := by
  unfold kyorugiBracketView at h
  cases hkey : reg.getCompByKey key with
  | none =>
    rw [hkey] at h
    cases h
  | some competitionId =>
    simp only [hkey] at h
    split_ifs at h with hpublished hnone
    obtain rfl := Except.ok.inj h
    obtain ⟨hget, rfl, hsafe⟩ := mem_visibleDraws_iff.mp hmem
    exact ⟨hget, hsafe, rfl⟩

/-- **What the public sees**, after any calls in any order: draws that stand, each with the
first round it was drawn with, and if this is not all BYEs, with all its rounds and a number
on each match that is no BYE. The page has room for all of it up to 32 slots. -/
theorem shown_in_order
    (h : kyorugiBracketView reg key (run dayStep (emptyDay events minWeight) acts).board = .ok shown)
    (hmem : (pk, b) ∈ shown) :
    ∃ draw, (run dayStep (emptyDay events minWeight) acts).drawing.draws.get pk = some draw ∧
      reg.getCompByKey key = some draw.scope.competition ∧ b.scope = draw.scope ∧
      draw.IsBracketOf draw.seated ∧ b.firstRound = draw.matchRows ∧
      ((b.bouts.map Bout.toMatch = draw.matchRows ∧ ∀ m ∈ draw.matchRows, m.isBye = true) ∨
        ∃ rounds, draw.size = 2 ^ rounds ∧ FullRounds rounds b.bouts ∧
          (∀ m ∈ b.bouts, m.isBye = false → m.matchNumber.isSome = true) ∧
          (ShowsEveryMatch b.size b.bouts ↔ draw.size ≤ 32)) := by
  have hall : AllStand (run dayStep (emptyDay events minWeight) acts) := stands_run acts
  obtain ⟨hget, hsafe, hkey⟩ := mem_of_kyorugiBracketView h hmem
  have hsome := hall.isSome_eq pk
  rw [hget, Option.isSome_some, eq_comm, Option.isSome_iff_exists] at hsome
  obtain ⟨draw, hdraw⟩ := hsome
  have hstands := hall.stands pk draw b hdraw hget
  obtain ⟨rounds, hmade⟩ := hstands.made
  refine ⟨draw, hdraw, hstands.scope ▸ hkey, hstands.scope, hmade.isBracket,
    hstands.firstRound_eq, ?_⟩
  rcases hstands.of_safe hmade hsafe with hbyes | ⟨hfull, hnumbered⟩
  · exact Or.inl hbyes
  · refine Or.inr ⟨rounds, hmade.size_eq, hfull, hnumbered, ?_⟩
    rw [hstands.size_eq, hmade.size_eq, showsEveryMatch_iff hmade.rounds_pos hfull]
    exact (Nat.pow_le_pow_iff_right (m := 5) Nat.one_lt_two).symm

open PublicIds in
/-- What the public sees under the public id of a competition is its own, unless the public id
numbers another one. -/
theorem own_of_shown {db : Collation} {site : Site} {p : PublicId} {c : ℕ} {t : NumberingState}
    (hunique : Unique site) (hrow : (site .kyorugi).get c = some p)
    (h : kyorugiBracketView (registryOf db site reg) p.text t = .ok shown)
    (hmem : (pk, b) ∈ shown) :
    b.scope.competition = c ↔ NotNumbered site .kyorugi p c := by
  have hkey := (mem_of_kyorugiBracketView h hmem).2.2
  have hiff : (registryOf db site reg).getCompByKey p.text = some c ↔
      NotNumbered site .kyorugi p c := getCompByKey_registryOf_iff hunique hrow
  rw [← hiff, hkey, Option.some_inj]

end Shown

/-- Competition 1, whose weight 2 is on mat 1. -/
def oneMat : DrawDay :=
  emptyDay (fun competitionId => if competitionId = 1 then some ⟨[⟨1, [2]⟩], none⟩ else none)
    fun _ => 0

/-- A group of three is drawn, numbered and published, drawn again and numbered again. -/
def drawnAgain : List DayAction :=
  [.drawing (.draw (groupCall (some 3) [5, 6, 7] (1, 2))), .numbering (.number 1 [2] true),
    .publish (some "1") none 0, .drawing (.draw (groupCall (some 3) [5, 6, 7] (1, 2))),
    .numbering (.number 1 [2] true)]

theorem shown_in_order_drawnAgain :
    ∃ shown b draw, kyorugiBracketView oneCompetition "1" (run dayStep oneMat drawnAgain).board =
        .ok shown ∧ (2, b) ∈ shown ∧
      (run dayStep oneMat drawnAgain).drawing.draws.get 2 = some draw ∧
      b.firstRound = draw.matchRows := by
  have hkeys : (kyorugiBracketView oneCompetition "1"
      (run dayStep oneMat drawnAgain).board).toOption.map (fun shown => shown.map Prod.fst) =
        some [2] := by
    decide +kernel
  cases hview : kyorugiBracketView oneCompetition "1" (run dayStep oneMat drawnAgain).board with
  | error e =>
    rw [hview] at hkeys
    cases hkeys
  | ok shown =>
    rw [hview] at hkeys
    have hfst : shown.map Prod.fst = [2] := Option.some.inj hkeys
    have hmem : 2 ∈ shown.map Prod.fst := by
      rw [hfst]
      exact List.mem_singleton.mpr rfl
    obtain ⟨⟨pk, b⟩, hb, rfl⟩ := List.mem_map.mp hmem
    obtain ⟨draw, hdraw, -, -, -, hfirst, -⟩ := shown_in_order hview hb
    exact ⟨shown, b, draw, rfl, hb, hdraw, hfirst⟩

end Tkdchb
