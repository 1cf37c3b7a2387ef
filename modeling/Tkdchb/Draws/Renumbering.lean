import Mathlib.Algebra.Order.Ring.Unbundled.Rat
import Tkdchb.Draws.MatNumbers

/-!
# Numbering again

A call reads of a draw only its outline with all rounds, and this is what an earlier call
leaves behind: matches are appended, mats, numbers and BYEs of later rounds change, and none
of that is read. So a call gives the numbers it would have given before any other calls.
What it does not number is another matter, since a number there may have been cleared.

## Main definitions

* `Bracket.plan` — what a call reads of a draw that it numbers
* `Bracket.Grown`, `Follows` — what calls leave as it was

## Main results

* `follows_run` — calls leave the plans of all draws as they were
* `schedule_of_follows` — and so the matches of a later call, and their order
* `renumbering_forgets_calls` — and so its counters and its numbers
-/

namespace Tkdchb

open Transition Ticketing NumberingState

/-! ### What a call reads -/

namespace Bracket

variable {b b' b'' o : Bracket} {i : ℕ}

/-- What a call reads of a draw that it numbers: the outline with all rounds. A draw without
a real match is not numbered. -/
def plan (b : Bracket) : Option Bracket :=
  if b.ensureRoundsExist.hasRealMatch then some b.outline.ensureRoundsExist else none

/-- The plan of a draw that is numbered has a real match. -/
theorem plan_eq_some_iff :
    b.plan = some o ↔
      b.ensureRoundsExist.hasRealMatch = true ∧ o = b.ensureRoundsExist.outline := by
  unfold plan
  rw [ensureRoundsExist_outline]
  split_ifs with hreal
  · simp [hreal, eq_comm]
  · simp [hreal]

/-- Nobody plays in a match that is appended. -/
theorem realPlayersCount_ensureRoundsExist :
    b.ensureRoundsExist.realPlayersCount = b.realPlayersCount := by
  have hnone : b.missing.flatMap (fun m => m.playerA.toList ++ m.playerB.toList) = [] := by
    rw [List.flatMap_eq_nil_iff]
    intro m hm
    obtain ⟨step, idx, -, rfl⟩ := mem_missing hm
    rfl
  rw [realPlayersCount, bouts_ensureRoundsExist, List.flatMap_append, hnone, List.append_nil]
  rfl

theorem hasRealMatch_of_no_bouts (h : b.bouts = []) : b.ensureRoundsExist.hasRealMatch = false := by
  have hnobody : b.ensureRoundsExist.realPlayersCount = 0 := by
    rw [realPlayersCount_ensureRoundsExist, realPlayersCount, h]
    rfl
  unfold hasRealMatch
  rw [hnobody]
  rfl

/-- Filling up the rounds does not change the plan, also where it does not stop to append. -/
theorem plan_ensureRoundsExist : b.ensureRoundsExist.plan = b.plan := by
  by_cases hnil : b.bouts = []
  · have hagain : b.ensureRoundsExist.ensureRoundsExist.hasRealMatch = false := by
      unfold hasRealMatch
      rw [realPlayersCount_ensureRoundsExist, realPlayersCount_ensureRoundsExist, realPlayersCount,
        hnil]
      rfl
    simp [plan, hasRealMatch_of_no_bouts hnil, hagain]
  · rw [plan, plan, ensureRoundsExist_outline, ensureRoundsExist_outline,
      ensureRoundsExist_idem hnil]

theorem plan_congr (h : b'.outline = b.outline) : b'.plan = b.plan := by
  have hreal : ∀ b : Bracket, b.ensureRoundsExist.hasRealMatch =
      b.outline.ensureRoundsExist.hasRealMatch := by
    intro b
    rw [ensureRoundsExist_outline, hasRealMatch_outline]
  rw [plan, plan, hreal, hreal b, h]

theorem plan_prepare {clearPrev : Bool} : (b.prepare clearPrev).plan = b.plan := by
  rw [← plan_ensureRoundsExist (b := b)]
  apply plan_congr
  rw [outline_prepare, ensureRoundsExist_outline]

theorem plan_clearNumbers : b.clearNumbers.plan = b.plan := plan_congr outline_clearNumbers

/-- The match at a position is one of those that a call numbers. -/
def Counted (b : Bracket) (i : ℕ) : Prop :=
  ∃ o m, b.plan = some o ∧ o.bouts[i]? = some m ∧ m.isBye = false

theorem counted_iff :
    b.Counted i ↔ b.ensureRoundsExist.hasRealMatch = true ∧ b.ensureRoundsExist.Counts i := by
  unfold Counted Counts
  simp only [plan_eq_some_iff]
  constructor
  · rintro ⟨_, m, ⟨hreal, rfl⟩, hm, hbye⟩
    exact ⟨hreal, m, hm, hbye⟩
  · rintro ⟨hreal, m, hm, hbye⟩
    exact ⟨_, m, ⟨hreal, rfl⟩, hm, hbye⟩

theorem counted_congr (h : b'.plan = b.plan) : b'.Counted i ↔ b.Counted i := by
  unfold Counted
  rw [h]

end Bracket

theorem NumberingState.numbers_iff {s : NumberingState} {competitionId matNo pk i : ℕ}
    {weightIds : List ℕ} {w2m : ℕ → Option ℕ} :
    s.Numbers competitionId weightIds w2m matNo pk i ↔
      ∃ b, s.draws.get pk = some b ∧ Selects competitionId weightIds b ∧
        w2m b.scope.weightCategory = some matNo ∧ b.Counted i := by
  unfold Numbers
  simp only [Bracket.counted_iff]

/-! ### What calls leave as it was -/

/-- A numbered match with its number, and without its BYE. -/
def Bout.entry (m : Bout) : Option (Match × ℕ) :=
  m.matchNumber.map fun number => ({ m.toMatch with isBye := false }, number)

/-- The numbered match at a place. -/
def entryAt (draws : Table Bracket) (x : ℕ × ℕ) : Option (Match × ℕ) :=
  (boutAt draws x).bind Bout.entry

/-- What calls leave of a draw: its group, its plan, and where they do not number a match,
the number it has, unless they clear it. -/
structure Bracket.Grown (b b' : Bracket) : Prop where
  scope : b'.scope = b.scope
  plan : b'.plan = b.plan
  entry : ∀ i, b.Counted i ∨ b'.bouts[i]?.bind Bout.entry = none ∨
    b'.bouts[i]?.bind Bout.entry = b.bouts[i]?.bind Bout.entry

theorem Bracket.Grown.refl (b : Bracket) : b.Grown b :=
  ⟨rfl, rfl, fun _ => Or.inr (Or.inr rfl)⟩

theorem Bracket.Grown.trans {b b' b'' : Bracket} (h : b.Grown b') (h' : b'.Grown b'') :
    b.Grown b'' := by
  refine ⟨h'.scope.trans h.scope, h'.plan.trans h.plan, fun i => ?_⟩
  rcases h'.entry i with hcounted | hnone | hsame
  · exact Or.inl ((Bracket.counted_congr h.plan).mp hcounted)
  · exact Or.inr (Or.inl hnone)
  · rw [hsame]
    exact h.entry i

/-- What calls leave of a state. -/
structure Follows (s t : NumberingState) : Prop where
  events : t.events = s.events
  minWeight : t.minWeight = s.minWeight
  isSome : ∀ pk, (t.draws.get pk).isSome = (s.draws.get pk).isSome
  grown : ∀ pk b b', s.draws.get pk = some b → t.draws.get pk = some b' → b.Grown b'

theorem Follows.refl (s : NumberingState) : Follows s s := by
  refine ⟨rfl, rfl, fun _ => rfl, fun pk b b' hb hb' => ?_⟩
  obtain rfl := Option.some.inj (hb.symm.trans hb')
  exact Bracket.Grown.refl b

theorem Follows.exists_grown {s t : NumberingState} (h : Follows s t) {pk : ℕ} {b' : Bracket}
    (hb' : t.draws.get pk = some b') : ∃ b, s.draws.get pk = some b ∧ b.Grown b' := by
  have hsome := h.isSome pk
  rw [hb', Option.isSome_some, eq_comm, Option.isSome_iff_exists] at hsome
  obtain ⟨b, hb⟩ := hsome
  exact ⟨b, hb, h.grown pk b b' hb hb'⟩

theorem Follows.exists_grown_of_get {s t : NumberingState} (h : Follows s t) {pk : ℕ} {b : Bracket}
    (hb : s.draws.get pk = some b) : ∃ b', t.draws.get pk = some b' ∧ b.Grown b' := by
  have hsome := h.isSome pk
  rw [hb, Option.isSome_some, Option.isSome_iff_exists] at hsome
  obtain ⟨b', hb'⟩ := hsome
  exact ⟨b', hb', h.grown pk b b' hb hb'⟩

theorem Follows.trans {s t u : NumberingState} (h : Follows s t) (h' : Follows t u) :
    Follows s u := by
  refine ⟨h'.events.trans h.events, h'.minWeight.trans h.minWeight,
    fun pk => (h'.isSome pk).trans (h.isSome pk), fun pk b b'' hb hb'' => ?_⟩
  obtain ⟨b', hb', hgrown⟩ := h.exists_grown_of_get hb
  exact hgrown.trans (h'.grown pk b' b'' hb' hb'')

section Steps

variable {s t : NumberingState} {competitionId : ℕ} {weightIds : List ℕ} {clearPrev : Bool}
  {b : Bracket}

theorem Bracket.grown_clearNumbers (b : Bracket) : b.Grown b.clearNumbers := by
  refine ⟨rfl, plan_clearNumbers, fun i => Or.inr (Or.inl ?_)⟩
  rw [clearNumbers, List.getElem?_map]
  cases b.bouts[i]? <;> rfl

/-- The number of a match in a prepared draw. -/
theorem Bracket.entry_prepare (b : Bracket) (clearPrev : Bool) (i : ℕ) :
    (b.prepare clearPrev).bouts[i]?.bind Bout.entry =
      if clearPrev then none else b.bouts[i]?.bind Bout.entry := by
  cases hm : (b.prepare clearPrev).bouts[i]? with
  | none =>
    have hnone : b.bouts[i]? = none := by
      cases hold : b.bouts[i]? with
      | none => rfl
      | some m => cases (getElem?_prepare hold).symm.trans hm
    simp [hnone]
  | some m =>
    rw [Option.bind_some]
    rcases prepare_cases hm with ⟨m₀, hm₀, rfl⟩ | ⟨hold, -, hnumber⟩
    · rw [hm₀, Option.bind_some]
      cases clearPrev <;> rfl
    · simp [hold, Bout.entry, hnumber]

/-- What a run leaves of the outline of a draw. -/
theorem outline_numbered (w2m : ℕ → Option ℕ) {pk : ℕ} (hb : s.draws.get pk = some b) :
    ((s.numbered competitionId weightIds clearPrev w2m).draws.get pk).map Bracket.outline =
      some (if Selects competitionId weightIds b then b.prepare clearPrev else b).outline := by
  have heq : outlineAt (s.numbered competitionId weightIds clearPrev w2m).draws pk = _ :=
    outlineAt_numbered pk
  rwa [outlineAt, outlineAt, get_prepared, hb, Option.map_some, Option.map_some] at heq

/-- A draw that was selected has the outline with all rounds. -/
theorem outline_of_selects {w2m : ℕ → Option ℕ} {pk : ℕ} {b' : Bracket}
    (hb : s.draws.get pk = some b) (hsel : Selects competitionId weightIds b)
    (hb' : (s.numbered competitionId weightIds clearPrev w2m).draws.get pk = some b') :
    b'.outline = b.ensureRoundsExist.outline := by
  have houtline : ((s.numbered competitionId weightIds clearPrev w2m).draws.get pk).map
      Bracket.outline = _ := outline_numbered w2m hb
  rwa [hb', Option.map_some, Option.some.injEq, if_pos hsel, Bracket.outline_prepare,
    Bracket.ensureRoundsExist_outline] at houtline

/-- A call issues no number to a row that does not count. -/
theorem not_numbers_of_not_counted {w2m : ℕ → Option ℕ} {pk i : ℕ} (hb : s.draws.get pk = some b)
    (hcounted : ¬ b.Counted i) (matNo : ℕ) :
    ¬ s.Numbers competitionId weightIds w2m matNo pk i := by
  intro hnumbers
  obtain ⟨b₀, hb₀, -, -, hcounted₀⟩ := numbers_iff.mp hnumbers
  obtain rfl := Option.some.inj (hb.symm.trans hb₀)
  exact hcounted hcounted₀

/-- A row that does not count gets no number, but may lose the one it has. -/
theorem entry_numbered_of_not {w2m : ℕ → Option ℕ} {pk i : ℕ} {b' : Bracket}
    (hb : s.draws.get pk = some b)
    (hb' : (s.numbered competitionId weightIds clearPrev w2m).draws.get pk = some b')
    (hcounted : ¬ b.Counted i) :
    b'.bouts[i]?.bind Bout.entry = none ∨
      b'.bouts[i]?.bind Bout.entry = b.bouts[i]?.bind Bout.entry := by
  have hnot : ∀ matNo, ¬ s.Numbers competitionId weightIds w2m matNo pk i :=
    not_numbers_of_not_counted hb hcounted
  have hrow := boutAt_numbered_of_not (x := (pk, i)) clearPrev hnot
  simp only [boutAt, hb', get_prepared, hb, Option.map_some, Option.bind_some] at hrow
  rw [hrow]
  split_ifs
  · rw [Bracket.entry_prepare]
    split_ifs
    · exact Or.inl rfl
    · exact Or.inr rfl
  · exact Or.inr rfl

theorem grown_numbered {w2m : ℕ → Option ℕ} {pk : ℕ} {b' : Bracket}
    (hb : s.draws.get pk = some b)
    (hb' : (s.numbered competitionId weightIds clearPrev w2m).draws.get pk = some b') :
    b.Grown b' := by
  have hprepared : ((s.numbered competitionId weightIds clearPrev w2m).draws.get pk).map
      Bracket.outline = _ := outline_numbered w2m hb
  rw [hb', Option.map_some, Option.some.injEq] at hprepared
  refine ⟨?_, ?_, fun i => ?_⟩
  · obtain ⟨b₀, hb₀, hscope⟩ := scope_numbered hb'
    obtain rfl := Option.some.inj (hb.symm.trans hb₀)
    exact hscope.symm
  · rw [Bracket.plan_congr hprepared]
    split_ifs
    · exact Bracket.plan_prepare
    · rfl
  · by_cases hcounted : b.Counted i
    · exact Or.inl hcounted
    · exact Or.inr (entry_numbered_of_not hb hb' hcounted)

theorem follows_numbered (w2m : ℕ → Option ℕ) :
    Follows s (s.numbered competitionId weightIds clearPrev w2m) := by
  refine ⟨events_numbered, minWeight_numbered, fun pk => ?_, fun pk b b' => grown_numbered⟩
  cases hb : s.draws.get pk with
  | some b =>
    obtain ⟨b', hb', -⟩ := Option.map_eq_some_iff.mp (outline_numbered w2m hb)
    rw [hb']
    rfl
  | none =>
    cases hb' : (s.numbered competitionId weightIds clearPrev w2m).draws.get pk with
    | none => rfl
    | some b' =>
      obtain ⟨b, hb₀, -⟩ := scope_numbered hb'
      cases hb.symm.trans hb₀

/-- **A call leaves all plans as they were.** -/
theorem follows_callStep (competitionId : ℕ) (call : NumberingCall) (s : NumberingState) :
    Follows s (callStep competitionId call s) := by
  cases call with
  | number weightIds clearPrev =>
    by_cases hsel : ∃ r, s.selection competitionId weightIds = .ok r
    · rw [callStep_number hsel]
      exact follows_numbered _
    · rw [callStep_number_of_not hsel]
      exact Follows.refl s
  | clear weightIds =>
    rcases callStep_clear s competitionId weightIds with heq | heq
    · rw [heq]
      exact Follows.refl s
    · rw [heq]
      refine ⟨rfl, rfl, fun pk => ?_, fun pk b b' hb hb' => ?_⟩
      · simp [NumberingState.updateDraws, Table.get_map]
      · simp only [NumberingState.updateDraws, Table.get_map, hb, Option.map_some,
          Option.some.injEq] at hb'
        rw [← hb']
        split_ifs
        · exact Bracket.grown_clearNumbers b
        · exact Bracket.Grown.refl b

/-- The state after a call for some competition. -/
def anyCallStep (call : ℕ × NumberingCall) (s : NumberingState) : NumberingState :=
  callStep call.1 call.2 s

/-- **Calls leave all plans as they were.** -/
theorem follows_run (s : NumberingState) (calls : List (ℕ × NumberingCall)) :
    Follows s (run anyCallStep s calls) :=
  run_invariant (I := Follows s) (fun call _ h => h.trans (follows_callStep call.1 call.2 _))
    (Follows.refl s) calls

end Steps

/-! ### The same call later -/

section Later

variable {s t : NumberingState} {competitionId : ℕ} {weightIds : List ℕ} {clearPrev : Bool}
  {w2m : ℕ → Option ℕ} {pk : ℕ} {o : Bracket}

theorem Bracket.outline_outline {b : Bracket} : b.outline.outline = b.outline := by
  have hbouts : b.outline.bouts.map (Bout.outline b.firstRoundNo) = b.outline.bouts := by
    rw [outline, List.map_map]
    apply List.map_congr_left
    intro m _
    by_cases hfirst : b.firstRoundNo = some m.roundNo
    · simp [Bout.outline, hfirst]
    · simp [Bout.outline, hfirst]
  rw [outline.eq_def b.outline, firstRoundNo_outline, hbouts]

/-- A round of a draw, read off its outline. -/
def RoundJob.outline (j : RoundJob) : RoundJob := { j with draw := (j.draw.1, j.draw.2.outline) }

/-- The order of a numbering depends on the outlines only. -/
theorem tickets_outline (w2m : ℕ → Option ℕ) (mats : List ℕ) (draws : List (ℕ × Bracket)) :
    tickets w2m mats (draws.map fun d => (d.1, d.2.outline)) = tickets w2m mats draws := by
  have hrounds : allRounds (draws.map fun d => (d.1, d.2.outline)) = allRounds draws := by
    simp [allRounds, List.flatMap_map]
  have hmat : ∀ matNo, drawsOnMat w2m (draws.map fun d => (d.1, d.2.outline)) matNo =
      (drawsOnMat w2m draws matNo).map fun d => (d.1, d.2.outline) := by
    intro matNo
    rw [drawsOnMat, List.filter_map]
    rfl
  have hearlier : earlierJobs w2m mats (draws.map fun d => (d.1, d.2.outline)) =
      (earlierJobs w2m mats draws).map RoundJob.outline := by
    simp only [earlierJobs, hrounds, hmat, List.filter_map, List.map_flatMap, List.map_map,
      Function.comp_def, Bracket.lastRoundNo_outline, RoundJob.outline]
  have hfinal : finalJobs w2m mats (draws.map fun d => (d.1, d.2.outline)) =
      (finalJobs w2m mats draws).map RoundJob.outline := by
    simp only [finalJobs, hmat, List.filterMap_map, List.map_flatMap, List.map_filterMap,
      Function.comp_def, Bracket.lastRoundNo_outline, Option.map_map, RoundJob.outline]
  have htickets : ∀ j : RoundJob, j.outline.tickets = j.tickets := fun j =>
    roundTickets_congr Bracket.outline_outline
  simp only [tickets, hearlier, hfinal, ← List.map_append, List.flatMap_map, htickets]

/-! What a call is about is the same before and after other calls. -/

theorem Follows.matOf (h : Follows s t) : t.matOf competitionId = s.matOf competitionId := by
  simp only [NumberingState.matOf, h.events]

theorem Bracket.Grown.selects_iff {b b' : Bracket} (h : b.Grown b') :
    Selects competitionId weightIds b' ↔ Selects competitionId weightIds b := by
  unfold Selects
  rw [h.scope]

/-- The draws that are numbered, by their plans. -/
theorem mem_outline_readyDraws_iff :
    (pk, o) ∈ (s.readyDraws competitionId weightIds clearPrev).map (fun d => (d.1, d.2.outline)) ↔
      ∃ b, s.draws.get pk = some b ∧ Selects competitionId weightIds b ∧ b.plan = some o := by
  simp only [List.mem_map, Bracket.plan_eq_some_iff]
  constructor
  · rintro ⟨⟨_, _⟩, hd, heq⟩
    obtain ⟨rfl, rfl⟩ := Prod.mk.inj heq
    obtain ⟨b, hb, hsel, rfl, hmatch⟩ := mem_readyDraws_iff.mp hd
    refine ⟨b, hb, hsel, by rwa [Bracket.hasRealMatch_prepare] at hmatch, ?_⟩
    rw [Bracket.outline_prepare, Bracket.ensureRoundsExist_outline]
  · rintro ⟨b, hb, hsel, hmatch, rfl⟩
    refine ⟨(pk, b.prepare clearPrev), ?_, ?_⟩
    · exact mem_readyDraws_iff.mpr ⟨b, hb, hsel, rfl, by rwa [Bracket.hasRealMatch_prepare]⟩
    · rw [Bracket.outline_prepare, Bracket.ensureRoundsExist_outline]

/-- The order of the draws of a call: by weight, and by id. -/
def drawOrder (minWeight : ℕ → ℚ) (x y : ℕ × Bracket) : Prop :=
  minWeight x.2.scope.weightCategory < minWeight y.2.scope.weightCategory ∨
    minWeight x.2.scope.weightCategory = minWeight y.2.scope.weightCategory ∧ x.1 ≤ y.1

instance {minWeight : ℕ → ℚ} : DecidableRel (drawOrder minWeight) := fun _ _ =>
  inferInstanceAs (Decidable (_ ∨ _ ∧ _))

theorem drawOrder_total (minWeight : ℕ → ℚ) (x y : ℕ × Bracket) :
    drawOrder minWeight x y ∨ drawOrder minWeight y x := by
  unfold drawOrder
  rcases lt_trichotomy (minWeight x.2.scope.weightCategory) (minWeight y.2.scope.weightCategory)
    with hlt | heq | hlt
  · exact Or.inl (Or.inl hlt)
  · rcases le_total x.1 y.1 with hle | hle
    · exact Or.inl (Or.inr ⟨heq, hle⟩)
    · exact Or.inr (Or.inr ⟨heq.symm, hle⟩)
  · exact Or.inr (Or.inl hlt)

theorem drawOrder_trans (minWeight : ℕ → ℚ) (x y z : ℕ × Bracket)
    (hxy : drawOrder minWeight x y) (hyz : drawOrder minWeight y z) : drawOrder minWeight x z := by
  unfold drawOrder at *
  rcases hxy with hlt | ⟨heq, hle⟩
  · rcases hyz with hlt' | ⟨heq', -⟩
    · exact Or.inl (hlt.trans hlt')
    · exact Or.inl (heq' ▸ hlt)
  · rcases hyz with hlt' | ⟨heq', hle'⟩
    · exact Or.inl (heq ▸ hlt')
    · exact Or.inr ⟨heq.trans heq', hle.trans hle'⟩

/-- Draws that are in order both ways are the same. -/
theorem fst_eq_of_drawOrder {minWeight : ℕ → ℚ} {x y : ℕ × Bracket}
    (hxy : drawOrder minWeight x y) (hyx : drawOrder minWeight y x) : x.1 = y.1 := by
  rcases hxy with hlt | ⟨heq, hle⟩
  · rcases hyx with hlt' | ⟨heq', -⟩
    · exact absurd hlt' hlt.not_gt
    · exact absurd heq' hlt.ne'
  · rcases hyx with hlt' | ⟨-, hle'⟩
    · exact absurd heq hlt'.ne'
    · exact le_antisymm hle hle'

theorem pairwise_drawsOf :
    (s.drawsOf competitionId weightIds).Pairwise (drawOrder s.minWeight) := by
  have : Std.Total (drawOrder s.minWeight) := ⟨drawOrder_total s.minWeight⟩
  have : IsTrans (ℕ × Bracket) (drawOrder s.minWeight) := ⟨drawOrder_trans s.minWeight⟩
  exact List.pairwise_insertionSort (drawOrder s.minWeight) _

/-- A later call finds the same draws to number, in the same order. -/
theorem readyDraws_of_follows (h : Follows s t) :
    (t.readyDraws competitionId weightIds clearPrev).map (fun d => (d.1, d.2.outline)) =
      (s.readyDraws competitionId weightIds clearPrev).map fun d => (d.1, d.2.outline) := by
  have hmem : ∀ x, x ∈ (t.readyDraws competitionId weightIds clearPrev).map
        (fun d => (d.1, d.2.outline)) ↔
      x ∈ (s.readyDraws competitionId weightIds clearPrev).map fun d => (d.1, d.2.outline) := by
    rintro ⟨pk, o⟩
    rw [mem_outline_readyDraws_iff, mem_outline_readyDraws_iff]
    constructor
    · rintro ⟨b', hb', hsel, hplan⟩
      obtain ⟨b, hb, hgrown⟩ := h.exists_grown hb'
      exact ⟨b, hb, hgrown.selects_iff.mp hsel, hgrown.plan ▸ hplan⟩
    · rintro ⟨b, hb, hsel, hplan⟩
      obtain ⟨b', hb', hgrown⟩ := h.exists_grown_of_get hb
      exact ⟨b', hb', hgrown.selects_iff.mpr hsel, hgrown.plan.trans hplan⟩
  have hnodup : ∀ u : NumberingState, ((u.readyDraws competitionId weightIds clearPrev).map
      fun d => (d.1, d.2.outline)).Nodup := by
    intro u
    apply List.Nodup.of_map Prod.fst
    rw [List.map_map]
    exact nodup_readyDraws
  have hsorted : ∀ u : NumberingState, ((u.readyDraws competitionId weightIds clearPrev).map
      fun d => (d.1, d.2.outline)).Pairwise (drawOrder u.minWeight) := by
    intro u
    rw [List.pairwise_map]
    exact List.Pairwise.filter _
      (pairwise_drawsOf (s := u.prepared competitionId weightIds clearPrev))
  apply List.Perm.eq_of_pairwise _ (h.minWeight ▸ hsorted t) (hsorted s)
    ((List.perm_ext_iff_of_nodup (hnodup t) (hnodup s)).mpr hmem)
  -- two draws that are in order both ways have the same key, and so the same plan
  rintro ⟨pk, o⟩ ⟨pk', o'⟩ ho ho' hle hle'
  obtain rfl : pk = pk' := fst_eq_of_drawOrder hle hle'
  obtain ⟨b, hb, -, hplan⟩ := mem_outline_readyDraws_iff.mp ((hmem _).mp ho)
  obtain ⟨b', hb', -, hplan'⟩ := mem_outline_readyDraws_iff.mp ho'
  obtain rfl := Option.some.inj (hb.symm.trans hb')
  rw [Option.some.inj (hplan.symm.trans hplan')]

/-- A later call has the same mats. -/
theorem matsOf_of_follows (h : Follows s t) :
    matsOf w2m (t.drawsOf competitionId weightIds) =
      matsOf w2m (s.drawsOf competitionId weightIds) := by
  have hmem : ∀ matNo, matNo ∈ matsOf w2m (t.drawsOf competitionId weightIds) ↔
      matNo ∈ matsOf w2m (s.drawsOf competitionId weightIds) := by
    intro matNo
    simp only [matsOf, List.mem_insertionSort, List.mem_dedup, List.mem_filterMap, Prod.exists,
      mem_drawsOf_iff]
    constructor
    · rintro ⟨pk, b', ⟨hb', hsel⟩, hmat⟩
      obtain ⟨b, hb, hgrown⟩ := h.exists_grown hb'
      exact ⟨pk, b, ⟨hb, hgrown.selects_iff.mp hsel⟩, hgrown.scope ▸ hmat⟩
    · rintro ⟨pk, b, ⟨hb, hsel⟩, hmat⟩
      obtain ⟨b', hb', hgrown⟩ := h.exists_grown_of_get hb
      exact ⟨pk, b', ⟨hb', hgrown.selects_iff.mpr hsel⟩, hgrown.scope ▸ hmat⟩
  have hsorted : ∀ draws, (matsOf w2m draws).Pairwise (· ≤ ·) := fun draws =>
    List.pairwise_insertionSort _ _
  exact List.Perm.eq_of_pairwise' (hsorted _) (hsorted _)
    ((List.perm_ext_iff_of_nodup nodup_matsOf nodup_matsOf).mpr hmem)

/-- **A later call numbers the same matches in the same order.** -/
theorem schedule_of_follows (h : Follows s t) :
    t.schedule competitionId weightIds clearPrev w2m =
      s.schedule competitionId weightIds clearPrev w2m := by
  unfold NumberingState.schedule
  rw [matsOf_of_follows h, ← tickets_outline, readyDraws_of_follows h, tickets_outline]

/-- A later call passes the same checks. -/
theorem selection_of_follows (h : Follows s t) :
    (t.selection competitionId weightIds).map Prod.fst =
      (s.selection competitionId weightIds).map Prod.fst := by
  have hnil : t.drawsOf competitionId weightIds = [] ↔ s.drawsOf competitionId weightIds = [] := by
    simp only [List.eq_nil_iff_forall_not_mem, Prod.forall, mem_drawsOf_iff, not_and]
    constructor
    · intro hnone pk b hb hsel
      obtain ⟨b', hb', hgrown⟩ := h.exists_grown_of_get hb
      exact hnone pk b' hb' (hgrown.selects_iff.mpr hsel)
    · intro hnone pk b' hb' hsel
      obtain ⟨b, hb, hgrown⟩ := h.exists_grown hb'
      exact hnone pk b hb (hgrown.selects_iff.mp hsel)
  unfold NumberingState.selection
  rw [h.events]
  cases s.events competitionId with
  | none => rfl
  | some event =>
    simp only [hnil]
    split_ifs <;> rfl

/-- A later call returns the same counters, or raises the same error. -/
theorem counters_of_follows (h : Follows s t) :
    (numberMatchesForCompetition competitionId weightIds clearPrev t).map Prod.fst =
      (numberMatchesForCompetition competitionId weightIds clearPrev s).map Prod.fst := by
  have hchecks : (t.selection competitionId weightIds).map Prod.fst = _ := selection_of_follows h
  cases hs : s.selection competitionId weightIds with
  | error e =>
    cases ht : t.selection competitionId weightIds with
    | error e' =>
      rw [hs, ht] at hchecks
      rw [numberMatchesForCompetition_eq_error hs, numberMatchesForCompetition_eq_error ht]
      exact congrArg Except.error (Except.error.inj hchecks)
    | ok r =>
      rw [hs, ht] at hchecks
      cases hchecks
  | ok r =>
    cases ht : t.selection competitionId weightIds with
    | error e =>
      rw [hs, ht] at hchecks
      cases hchecks
    | ok r' =>
      obtain ⟨w2m, draws⟩ := r
      obtain ⟨w2m', draws'⟩ := r'
      rw [hs, ht] at hchecks
      obtain rfl : w2m' = w2m := Except.ok.inj hchecks
      obtain ⟨-, -, -, rfl, -⟩ := selection_eq_ok_iff.mp hs
      obtain ⟨-, -, -, rfl, -⟩ := selection_eq_ok_iff.mp ht
      rw [numberMatchesForCompetition_eq hs, numberMatchesForCompetition_eq ht,
        schedule_of_follows h, matsOf_of_follows h]
      simp only [Except.map]

section Entries

variable {b b' : Bracket} {i matNo : ℕ}

/-- The number of a match that a call does not number. -/
theorem entryAt_numbered_of_not (hb : s.draws.get pk = some b)
    (hsel : Selects competitionId weightIds b) (hnot : ¬ b.Counted i) :
    entryAt (s.numbered competitionId weightIds clearPrev w2m).draws (pk, i) =
      if clearPrev then none else entryAt s.draws (pk, i) := by
  have hnumbers : ∀ matNo, ¬ s.Numbers competitionId weightIds w2m matNo pk i := by
    intro matNo hnumbers
    obtain ⟨b₀, hb₀, -, -, hcounted⟩ := numbers_iff.mp hnumbers
    obtain rfl := Option.some.inj (hb.symm.trans hb₀)
    exact hnot hcounted
  rw [entryAt, boutAt_numbered_of_not clearPrev hnumbers, boutAt_prepared hb hsel, Bracket.entry_prepare,
    entryAt, boutAt, hb, Option.bind_some]

/-- The match a call numbers at a place, with its number. -/
theorem entryAt_numbered_of_issued {number : ℕ} (hb : s.draws.get pk = some b)
    (hsel : Selects competitionId weightIds b) (hplan : b.plan = some o)
    (hissued : ((pk, i), matNo, number) ∈ s.issued competitionId weightIds clearPrev w2m) :
    entryAt (s.numbered competitionId weightIds clearPrev w2m).draws (pk, i) =
      o.bouts[i]?.map fun m => ({ m.toMatch with isBye := false }, number) := by
  obtain ⟨-, rfl⟩ := Bracket.plan_eq_some_iff.mp hplan
  rw [entryAt, boutAt_numbered_of_issued hissued, boutAt_prepared hb hsel,
    ← Bracket.ensureRoundsExist_outline, ← Bracket.outline_prepare clearPrev,
    Bracket.outline, List.getElem?_map, Option.map_map, Option.bind_map]
  cases (b.prepare clearPrev).bouts[i]? <;> rfl

/-- **The numbers of a later call** are the same on the matches it numbers. What it does not
number may have been cleared. -/
theorem entryAt_of_follows (h : Follows s t) (hb : s.draws.get pk = some b)
    (hsel : Selects competitionId weightIds b) (hmat : w2m b.scope.weightCategory = some matNo)
    (i : ℕ) :
    entryAt (t.numbered competitionId weightIds clearPrev w2m).draws (pk, i) =
        entryAt (s.numbered competitionId weightIds clearPrev w2m).draws (pk, i) ∨
      clearPrev = false ∧ ¬ b.Counted i ∧ entryAt s.draws (pk, i) ≠ none ∧
        entryAt (t.numbered competitionId weightIds clearPrev w2m).draws (pk, i) = none := by
  obtain ⟨b', hb', hgrown⟩ := h.exists_grown_of_get hb
  have hsel' := hgrown.selects_iff.mpr hsel
  by_cases hcounted : b.Counted i
  · left
    -- the schedule is that of the first call, so the number is the same
    have hnumbers : s.Numbers competitionId weightIds w2m matNo pk i :=
      numbers_iff.mpr ⟨b, hb, hsel, hmat, hcounted⟩
    obtain ⟨number, hissued⟩ := exists_issued (x := (pk, i)) clearPrev hnumbers
    obtain ⟨o, -, hplan, -⟩ := hcounted
    have hissued' := hissued
    unfold NumberingState.issued at hissued'
    rw [← schedule_of_follows h] at hissued'
    rw [entryAt_numbered_of_issued hb hsel hplan hissued,
      entryAt_numbered_of_issued hb' hsel' (hgrown.plan.trans hplan) hissued']
  · have hcounted' : ¬ b'.Counted i := (Bracket.counted_congr hgrown.plan).not.mpr hcounted
    -- the row has no number to get; it keeps the old one unless the call clears
    rw [entryAt_numbered_of_not hb hsel hcounted, entryAt_numbered_of_not hb' hsel' hcounted']
    cases clearPrev with
    | true => exact Or.inl rfl
    | false =>
      have hentry := (hgrown.entry i).resolve_left hcounted
      simp only [Bool.false_eq_true, if_false, true_and, entryAt, boutAt, hb, hb',
        Option.bind_some]
      rcases hentry with hnone | hsame
      · by_cases hold : b.bouts[i]?.bind Bout.entry = none
        · exact Or.inl (hnone.trans hold.symm)
        · exact Or.inr ⟨hcounted, hold, hnone⟩
      · exact Or.inl hsame

end Entries

/-- **A call forgets the calls before it.** After any calls it returns the counters, or
raises the error, that it would have without them, and leaves the same numbers on the
matches of its draws. The one exception: where numbers are not cleared first, a match that
the call does not number may have lost its number to the calls before. -/
theorem renumbering_forgets_calls (s : NumberingState) (calls : List (ℕ × NumberingCall))
    (competitionId : ℕ) (weightIds : List ℕ) (clearPrev : Bool) :
    (numberMatchesForCompetition competitionId weightIds clearPrev
        (run anyCallStep s calls)).map Prod.fst =
      (numberMatchesForCompetition competitionId weightIds clearPrev s).map Prod.fst ∧
    ∀ counters s' counters' t',
      numberMatchesForCompetition competitionId weightIds clearPrev s = .ok (counters, s') →
      numberMatchesForCompetition competitionId weightIds clearPrev (run anyCallStep s calls) =
        .ok (counters', t') →
      ∀ pk b, s.draws.get pk = some b → Selects competitionId weightIds b → ∀ i,
        entryAt t'.draws (pk, i) = entryAt s'.draws (pk, i) ∨
          clearPrev = false ∧ ¬ b.Counted i ∧ entryAt s.draws (pk, i) ≠ none ∧
            entryAt t'.draws (pk, i) = none := by
  have hfollows := follows_run s calls
  refine ⟨counters_of_follows hfollows, fun counters s' counters' t' hs ht pk b hb hsel i => ?_⟩
  obtain ⟨⟨⟨w2m, draws⟩, hchecks⟩, hs⟩ := numberMatchesForCompetition_ok_iff.mp hs
  obtain ⟨-, ht⟩ := numberMatchesForCompetition_ok_iff.mp ht
  rw [(Prod.mk.inj hs).2, (Prod.mk.inj ht).2, hfollows.matOf]
  -- the checks have found a mat for the weight
  obtain ⟨-, rfl, hmats, -⟩ := selection_eq_ok_iff.mp hchecks
  obtain ⟨matNo, hmat⟩ := hmats _ hsel.2
  exact entryAt_of_follows hfollows hb hsel hmat i

end Later

/-- The draw of players 5 and 6 is numbered, and then the profile of player 6 is deleted. -/
def withdrawn : NumberingState :=
  let s := callStep 1 (.number [1] true) twoWeights
  { s with
    draws := s.draws.map fun b =>
      { b with
        bouts := b.bouts.map fun m =>
          { m with playerA := m.playerA.filter (· ≠ 6), playerB := m.playerB.filter (· ≠ 6) } } }

/-- The final keeps its number in a call that does not clear it and has nothing to number,
but a clearing in between takes it away. -/
theorem cleared_final_not_renumbered :
    ((numberMatchesForCompetition 1 [1] false withdrawn).toOption.map fun r =>
        entryAt r.2.draws (1, 2)) = some (some (⟨2, 0, 0, none, none, false⟩, 1)) ∧
      ((numberMatchesForCompetition 1 [1] false
        (run anyCallStep withdrawn [(1, .clear [1])])).toOption.map fun r =>
          entryAt r.2.draws (1, 2)) = some none := by
  decide +kernel

end Tkdchb
