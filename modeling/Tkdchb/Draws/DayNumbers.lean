import Tkdchb.Draws.DrawDay

/-!
# Numbers while draws come and go

A draw that is made or made again has no numbers, and what goes with an old draw is not given
again by itself. So of all the calls that write draws, only the numberings of a competition can
give a number twice, and they do so exactly if they find one below those they give.

## Main definitions

* `KeptApartAlways` — a numbering call finds the numbers that stay above those it gives

## Main results

* `bouts_callStep_of_ne` — calls for other competitions change no match of this one
* `uniqueNumbers_run_iff` — numbers stay unique exactly in the runs that keep them apart
-/

namespace Tkdchb

open Transition NumberingState

/-- The call assigns the mats of the competition. -/
def DayAction.assigns (competitionId : ℕ) : DayAction → Bool
  | .numbering (.assignMats c _) => decide (c = competitionId)
  | _ => false

/-- A numbering call for the competition finds the numbers that stay above those it gives on
their mats. -/
def KeptApartAlways (competitionId : ℕ) : DayAction → DrawDay → Prop
  | .numbering (.number c weightIds clearPrev), s =>
    c = competitionId → KeptApart competitionId (.number weightIds clearPrev) s.board
  | _, _ => True

section Numbers

variable {s : DrawDay} {competitionId c pk : ℕ} {b b' : Bracket} {events : ℕ → Option BracketEvent}
  {minWeight : ℕ → ℚ} {acts : List DayAction}

theorem uniqueNumbers_of_rows {t u : NumberingState} (h : UniqueNumbers competitionId t)
    (hrows : ∀ x m, u.HasBout competitionId x m → m.matchNumber ≠ none →
      t.HasBout competitionId x m) : UniqueNumbers competitionId u := by
  intro x y m m' hm hm' hnumber hmat hsame
  have hnumber' : m'.matchNumber ≠ none := hsame ▸ hnumber
  exact h x y m m' (hrows x m hm hnumber) (hrows y m' hm' hnumber') hnumber hmat hsame

/-- Calls for other competitions leave the matches of this one as they are. -/
theorem bouts_callStep_of_ne {t : NumberingState} {call : NumberingCall}
    (hb' : (callStep c call t).draws.get pk = some b') (hne : b'.scope.competition ≠ c) :
    ∃ b, t.draws.get pk = some b ∧ b.scope = b'.scope ∧ b.bouts = b'.bouts := by
  cases call with
  | clear weightIds =>
    rcases callStep_clear t c weightIds with heq | heq
    · rw [heq] at hb'
      exact ⟨b', hb', rfl, rfl⟩
    · rw [heq] at hb'
      obtain ⟨b, hb, rfl⟩ := Option.map_eq_some_iff.mp hb'
      have hother : ¬ (b.scope.competition = c ∧ b.scope.weightCategory ∈ weightIds) := by
        intro hsel
        rw [if_pos hsel] at hne
        exact hne hsel.1
      rw [if_neg hother]
      exact ⟨b, hb, rfl, rfl⟩
  | number weightIds clearPrev =>
    by_cases hsel : ∃ r, t.selection c weightIds = .ok r
    · rw [callStep_number hsel] at hb'
      obtain ⟨b, hb, hscope⟩ := scope_numbered hb'
      have hother : ¬ Selects c weightIds b := fun h => hne (hscope ▸ h.1)
      refine ⟨b, hb, hscope, List.ext_getElem? fun i => ?_⟩
      have hnot : ∀ matNo, ¬ t.Numbers c weightIds (t.matOf c) matNo pk i := by
        rintro matNo ⟨b₀, hb₀, hsel₀, -⟩
        obtain rfl := Option.some.inj (hb.symm.trans hb₀)
        exact hother hsel₀
      have hafter := boutAt_numbered_of_not (x := (pk, i)) clearPrev hnot
      rw [boutAt_of_get hb', boutAt_prepared_of_not hb hother] at hafter
      exact hafter.symm
    · rw [callStep_number_of_not hsel] at hb'
      exact ⟨b', hb', rfl, rfl⟩

theorem matOf_callStep (call : NumberingCall) (t : NumberingState) :
    (callStep c call t).matOf competitionId = t.matOf competitionId := by
  rw [NumberingState.matOf, (follows_callStep c call t).events, NumberingState.matOf]

theorem matsAssigned_callStep_of_ne (call : NumberingCall) {t : NumberingState}
    (hne : competitionId ≠ c) (h : MatsAssigned competitionId t) :
    MatsAssigned competitionId (callStep c call t) := by
  intro pk b' m hb' hcomp hm
  obtain ⟨b, hb, hscope, hbouts⟩ := bouts_callStep_of_ne hb' (hcomp ▸ hne)
  rw [matOf_callStep, ← hscope]
  exact h pk b m hb (hscope ▸ hcomp) (hbouts ▸ hm)

theorem uniqueNumbers_callStep_of_ne (call : NumberingCall) {t : NumberingState}
    (hne : competitionId ≠ c) (h : UniqueNumbers competitionId t) :
    UniqueNumbers competitionId (callStep c call t) := by
  refine uniqueNumbers_of_rows h fun x m hm _ => ?_
  obtain ⟨b', hb', hcomp, hrow⟩ := hm
  obtain ⟨b, hb, hscope, hbouts⟩ := bouts_callStep_of_ne hb' (hcomp ▸ hne)
  exact ⟨b, hb, hscope ▸ hcomp, hbouts ▸ hrow⟩

/-- The matches after draws were made are those that were there, and new ones without mat and
number. -/
theorem board_drawing_cases {a : DrawAction}
    (hb' : (dayStep (.drawing a) s).board.draws.get pk = some b') :
    s.board.draws.get pk = some b' ∨ ∀ m ∈ b'.bouts, m.matNo = none ∧ m.matchNumber = none := by
  obtain ⟨draw, -, rfl⟩ := Option.map_eq_some_iff.mp hb'
  cases hold : s.board.draws.get pk with
  | some b => exact Or.inl rfl
  | none =>
    refine Or.inr fun m hm => ?_
    obtain ⟨m', -, rfl⟩ := List.mem_map.mp hm
    exact ⟨rfl, rfl⟩

theorem matOf_numberingPublishView (competition unpublish : Option String) (now : Time)
    (t : NumberingState) :
    (numberingPublishView competition unpublish now t).2.matOf competitionId =
      t.matOf competitionId := by
  have hset : ∀ c published, (t.setPublished c published).matOf competitionId =
      t.matOf competitionId := by
    intro c published
    by_cases hc : competitionId = c
    · subst hc
      simp only [NumberingState.matOf, NumberingState.setPublished, Function.update_self]
      cases t.events competitionId <;> rfl
    · simp only [NumberingState.matOf, NumberingState.setPublished, Function.update_of_ne hc]
  unfold numberingPublishView
  split
  · rfl
  · split
    · rfl
    · split_ifs
      · exact hset _ _
      · rfl
      · rfl
      · exact hset _ _

/-- Matches stay on the mats of their weights until mats are assigned. -/
theorem matsAssigned_dayStep (a : DayAction) (s : DrawDay) (ha : a.assigns competitionId = false)
    (h : MatsAssigned competitionId s.board) :
    MatsAssigned competitionId (dayStep a s).board := by
  cases a with
  | drawing a =>
    intro pk b m hb hcomp hm
    rcases board_drawing_cases hb with hold | hnew
    · exact h pk b m hold hcomp hm
    · left
      rw [(hnew m hm).1]
      rfl
  | numbering a =>
    cases a with
    | number c weightIds clearPrev =>
      by_cases hc : competitionId = c
      · subst hc
        exact matsAssigned_callStep (.number weightIds clearPrev) s.board h
      · exact matsAssigned_callStep_of_ne (.number weightIds clearPrev) hc h
    | clear c weightIds =>
      by_cases hc : competitionId = c
      · subst hc
        exact matsAssigned_callStep (.clear weightIds) s.board h
      · exact matsAssigned_callStep_of_ne (.clear weightIds) hc h
    | assignMats c assignments =>
      have hne : competitionId ≠ c := fun hc => by simp [DayAction.assigns, hc] at ha
      intro pk b m hb hcomp hm
      have hsame : (dayStep (.numbering (.assignMats c assignments)) s).board.matOf competitionId =
          s.board.matOf competitionId := by
        simp only [dayStep, numberingStep, NumberingState.matOf, Function.update_of_ne hne]
      rw [hsame]
      exact h pk b m hb hcomp hm
  | publish competition unpublish now =>
    intro pk b m hb hcomp hm
    rw [dayStep, draws_numberingPublishView] at hb
    rw [dayStep, matOf_numberingPublishView]
    exact h pk b m hb hcomp hm

/-- **Each call** but an assignment keeps the numbers unique exactly if it keeps them apart. -/
theorem uniqueNumbers_dayStep_iff (a : DayAction) (s : DrawDay)
    (hmats : MatsAssigned competitionId s.board) (huniq : UniqueNumbers competitionId s.board) :
    UniqueNumbers competitionId (dayStep a s).board ↔ KeptApartAlways competitionId a s := by
  cases a with
  | drawing a =>
    refine iff_of_true (uniqueNumbers_of_rows huniq fun x m hm hnumber => ?_) trivial
    obtain ⟨b, hb, hcomp, hrow⟩ := hm
    rcases board_drawing_cases hb with hold | hnew
    · exact ⟨b, hold, hcomp, hrow⟩
    · exact absurd (hnew m (List.mem_of_getElem? hrow)).2 hnumber
  | numbering a =>
    cases a with
    | number c weightIds clearPrev =>
      by_cases hc : competitionId = c
      · subst hc
        refine (uniqueNumbers_callStep_iff (.number weightIds clearPrev) s.board hmats huniq).trans ?_
        exact ⟨fun h _ => h, fun h => h rfl⟩
      · exact iff_of_true (uniqueNumbers_callStep_of_ne (.number weightIds clearPrev) hc huniq)
          fun heq => absurd heq.symm hc
    | clear c weightIds =>
      refine iff_of_true ?_ trivial
      by_cases hc : competitionId = c
      · subst hc
        exact (uniqueNumbers_callStep_iff (.clear weightIds) s.board hmats huniq).mpr trivial
      · exact uniqueNumbers_callStep_of_ne (.clear weightIds) hc huniq
    | assignMats c assignments => exact iff_of_true huniq trivial
  | publish competition unpublish now =>
    refine iff_of_true (uniqueNumbers_of_rows huniq fun x m hm _ => ?_) trivial
    obtain ⟨b, hb, hcomp, hrow⟩ := hm
    rw [dayStep, draws_numberingPublishView] at hb
    exact ⟨b, hb, hcomp, hrow⟩

/-- **Numbers stay unique** through draws, redraws, locks, numberings, clearings and
publications exactly if each numbering call finds the numbers that stay above those it gives
on their mats. The mats of the competition are assigned before. -/
theorem uniqueNumbers_run_iff (hacts : ∀ a ∈ acts, a.assigns competitionId = false) :
    (∀ t ∈ visited dayStep (emptyDay events minWeight) acts, UniqueNumbers competitionId t.board) ↔
      Along dayStep (KeptApartAlways competitionId) (emptyDay events minWeight) acts := by
  have hfresh : ∀ pk b, (emptyDay events minWeight).board.draws.get pk ≠ some b :=
    fun pk b hb => by cases hb
  have hmats : MatsAssigned competitionId (emptyDay events minWeight).board :=
    fun pk b m hb => absurd hb (hfresh pk b)
  have huniq : UniqueNumbers competitionId (emptyDay events minWeight).board := by
    rintro x y m m' ⟨b, hb, -⟩
    exact absurd hb (hfresh x.1 b)
  exact (along_of_forall hacts).forall_visited_iff
    (I := fun t : DrawDay => UniqueNumbers competitionId t.board)
    (J := fun t : DrawDay => MatsAssigned competitionId t.board)
    matsAssigned_dayStep (fun a s _ => uniqueNumbers_dayStep_iff a s) hmats huniq

/-- A call over all weights that clears the old numbers leaves none that could be given
again. -/
theorem keptApart_of_all_weights {t : NumberingState} {weightIds : List ℕ}
    (h : ∀ x ∈ t.draws.select fun b => b.scope.competition = competitionId,
      x.2.scope.weightCategory ∈ weightIds) :
    KeptApart competitionId (.number weightIds true) t := by
  rintro - x m matNo number ⟨b, hb, hcomp, -⟩ hkeeps - -
  have hweight := h (x.1, b) (Table.mem_select_of_get hb (decide_eq_true hcomp))
  exact absurd ⟨hcomp, hweight⟩ (hkeeps.2 rfl b hb)

end Numbers

theorem uniqueNumbers_run_iff_drawnAgain :
    UniqueNumbers 1 (run dayStep oneMat drawnAgain).board := by
  have hassigns : ∀ a ∈ drawnAgain, a.assigns 1 = false := by
    have hall : (drawnAgain.all fun a => !a.assigns 1) = true := rfl
    intro a ha
    simpa using List.all_eq_true.mp hall a ha
  refine (uniqueNumbers_run_iff hassigns).mpr ⟨trivial, fun _ => ?_, trivial, trivial, fun _ => ?_,
    trivial⟩ _ (run_mem_visited _ _)
  · exact keptApart_of_all_weights (by decide +kernel)
  · exact keptApart_of_all_weights (by decide +kernel)

end Tkdchb
