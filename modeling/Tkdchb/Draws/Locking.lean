import Tkdchb.Draws.CreateDraw
import Tkdchb.Lib.Transition

/-!
# Locked draws

Nothing checks the lock when a draw is made. A locked draw is only not deleted, and then
the second draw of the group runs into the uniqueness constraint. A null age category
escapes the constraint; such a call is stopped only by the history, whose age category
must not be null, and that only if two players meet.

## Main definitions

* `DrawAction`, `drawActionStep` — calls, and locking and unlocking
* `OneDraw` — a group has at most one draw
* `LockHeld` — a call for a group with a locked draw raises and changes nothing
* `NullAgeMeets` — a call for a locked group without an age category is refused for its
  arguments or has a match without a BYE

## Main results

* `createDrawForGroup_of_locked` — a locked draw is protected from such a call
* `oneDraw_and_lockHeld` — and from every run of such calls, on any groups
* `locked_group_drawn_again` — a run that makes a second draw
-/

namespace Tkdchb

open Transition

inductive DrawAction where
  | draw (c : DrawCall)
  | setLocked (pk : ℕ) (isLocked : Bool)

def drawActionStep : DrawAction → DrawState → DrawState
  | .draw c, s => drawStep c s
  | .setLocked pk isLocked, s =>
    { s with draws := s.draws.modify pk fun draw => { draw with isLocked } }

/-- A group has at most one draw. -/
def OneDraw (draws : Table Draw) : Prop :=
  ∀ pk pk' draw draw', draws.get pk = some draw → draws.get pk' = some draw' →
    draw.scope = draw'.scope → pk = pk'

/-- A call for a group whose draw is locked raises, and leaves all draws, their matches and
the history as they are. -/
def LockHeld : DrawAction → DrawState → Prop
  | .draw c, s =>
    ∀ pk draw, s.draws.get pk = some draw → c.scope = some draw.scope → draw.isLocked = true →
      (∃ e, createDrawForGroup c s = .error e) ∧ drawActionStep (.draw c) s = s
  | .setLocked _ _, _ => True

/-- A call for a group without an age category whose draw is locked is refused for its
players or its size, or its table has a match without a BYE. -/
def NullAgeMeets : DrawAction → DrawState → Prop
  | .draw c, s =>
    ∀ pk draw, s.draws.get pk = some draw → c.scope = some draw.scope → draw.isLocked = true →
      c.ageCategoryId = none → (∃ e, c.size = .error e) ∨ c.opensMatch = true
  | .setLocked _ _, _ => True

/-! ### The previous draw -/

section Previous

variable {s : DrawState} {scope : DrawScope} {pk pk' : ℕ} {draw draw' : Draw}

theorem newer_cases (best : Option (ℕ × Draw)) (x : ℕ × Draw) :
    newer best x = x ∨ best = some (newer best x) := by
  unfold newer
  cases best with
  | none => exact Or.inl rfl
  | some b =>
    simp only
    split_ifs
    · exact Or.inl rfl
    · exact Or.inr rfl

/-- A search for the newest finds one of those it looks at. -/
theorem newestDraw_spec (draws : List (ℕ × Draw)) :
    (draws = [] ∧ newestDraw draws = none) ∨ ∃ x ∈ draws, newestDraw draws = some x := by
  -- adding a draw at the end either replaces the newest or keeps it
  induction draws using List.reverseRecOn with
  | nil => exact Or.inl ⟨rfl, rfl⟩
  | append_singleton draws x ih =>
    right
    have hlast : newestDraw (draws ++ [x]) = some (newer (newestDraw draws) x) := by
      rw [newestDraw, List.foldl_append]
      rfl
    refine ⟨_, ?_, hlast⟩
    rcases newer_cases (newestDraw draws) x with hx | hbest
    · rw [hx]
      simp
    · rcases ih with ⟨-, hnone⟩ | ⟨y, hy, hnewest⟩
      · rw [hnone] at hbest
        cases hbest
      · rw [hnewest] at hbest ⊢
        rw [← Option.some.inj hbest]
        exact List.mem_append_left _ hy

theorem previous_spec (h : s.previous scope = some (pk, draw)) :
    s.draws.get pk = some draw ∧ draw.scope = scope := by
  rcases newestDraw_spec (s.draws.select fun d => d.scope = scope) with ⟨-, hnone⟩ | ⟨x, hx, hx'⟩
  · cases hnone.symm.trans h
  · obtain rfl : x = (pk, draw) := Option.some.inj (hx'.symm.trans h)
    obtain ⟨hget, hscope⟩ := Table.mem_select_iff.mp hx
    exact ⟨hget, of_decide_eq_true hscope⟩

/-- A draw that is alone in its group is the previous one. -/
theorem previous_eq_some_of_alone (hget : s.draws.get pk = some draw) (hscope : draw.scope = scope)
    (halone : ∀ pk' draw', s.draws.get pk' = some draw' → draw'.scope = scope → pk = pk') :
    s.previous scope = some (pk, draw) := by
  have hmem : (pk, draw) ∈ s.draws.select fun d => d.scope = scope :=
    Table.mem_select_of_get hget (decide_eq_true hscope)
  rcases newestDraw_spec (s.draws.select fun d => d.scope = scope) with
    ⟨hnil, -⟩ | ⟨⟨pk', draw'⟩, -, hprev⟩
  · rw [hnil] at hmem
    cases hmem
  · obtain ⟨hget', hscope'⟩ := previous_spec hprev
    obtain rfl := halone pk' draw' hget' hscope'
    obtain rfl : draw = draw' := Option.some.inj (hget.symm.trans hget')
    exact hprev

/-- Where a group has one draw, that is the previous one. -/
theorem previous_eq_some (hs : OneDraw s.draws) (hget : s.draws.get pk = some draw)
    (hscope : draw.scope = scope) : s.previous scope = some (pk, draw) :=
  previous_eq_some_of_alone hget hscope fun pk' draw' hget' hscope' =>
    hs pk pk' draw draw' hget hget' (hscope.trans hscope'.symm)

end Previous

/-! ### One call -/

section Calls

variable {s s' : DrawState} {c : DrawCall} {pk : ℕ} {draw : Draw}

/-- **A locked draw is protected**: by the constraint if there is an age category, and else
by the history if two players meet. -/
theorem createDrawForGroup_of_locked (hs : OneDraw s.draws) (hmeets : NullAgeMeets (.draw c) s)
    (hget : s.draws.get pk = some draw) (hscope : c.scope = some draw.scope)
    (hlocked : draw.isLocked = true) : ∃ e, createDrawForGroup c s = .error e := by
  cases hcall : createDrawForGroup c s with
  | error e => exact ⟨e, rfl⟩
  | ok x =>
    exfalso
    have hok : createDrawForGroup c s = .ok (x.1, x.2) := hcall
    obtain ⟨scope, size, entriesFinal, hcreated⟩ := createDrawForGroup_ok hok
    obtain rfl : draw.scope = scope := Option.some.inj (hscope.symm.trans hcreated.scope_eq)
    have hkept : s.discardPrevious draw.scope = s.draws := by
      simp only [DrawState.discardPrevious, previous_eq_some hs hget rfl, hlocked, if_true]
    cases hage : draw.scope.ageCategory with
    | some age =>
      have hunique := hcreated.unique
      have hfound : (s.draws.oldest fun d => d.scope = draw.scope) ≠ none := by
        intro hnone
        have hfalse := Table.oldest_eq_none_iff.mp hnone pk draw hget
        simp at hfalse
      rw [hkept, violatesUnique, hage, Option.isSome_some, Bool.true_and,
        Option.isSome_eq_false_iff, Option.isNone_iff_eq_none] at hunique
      exact hfound hunique
    | none =>
      have hnull : c.ageCategoryId = none := by
        obtain ⟨comp, -, hcomp⟩ := Option.map_eq_some_iff.mp hscope
        rw [← hage, ← hcomp]
      obtain ⟨history, hrecord, -⟩ := hcreated.recorded
      rcases hmeets pk draw hget hscope hlocked hnull with ⟨e, he⟩ | hopen
      · rw [hcreated.size_eq] at he
        cases he
      · -- two players meet, and there is no scope to record them in
        have hpairs : realPairs entriesFinal ≠ [] := by
          rw [Ne, realPairs_eq_nil_iff hcreated.seeding_eq]
          simp only [DrawCall.opensMatch, hcreated.size_eq] at hopen
          simp [hopen]
        obtain ⟨pair, pairs, hcons⟩ := List.exists_cons_of_ne_nil hpairs
        rw [hcons, DrawScope.pairScope, hage] at hrecord
        cases hrecord

/-- Nothing is added before the new draw is. -/
theorem get_discardPrevious {scope : DrawScope}
    (h : (s.discardPrevious scope).get pk = some draw) : s.draws.get pk = some draw := by
  unfold DrawState.discardPrevious at h
  split at h
  · split_ifs at h
    · exact h
    · exact Table.get_of_get_erase h
  · exact h

/-- No draw of the group is left when the new one is inserted. -/
theorem scope_ne_of_mem_discardPrevious (hs : OneDraw s.draws) (hmeets : NullAgeMeets (.draw c) s)
    {scope : DrawScope} {pk' : ℕ} {draw' : Draw} (hcall : createDrawForGroup c s = .ok (pk, s'))
    (hscope : c.scope = some scope) (hget : (s.discardPrevious scope).get pk' = some draw') :
    draw'.scope ≠ scope := by
  intro heq
  have hget' := get_discardPrevious hget
  have hprev := previous_eq_some hs hget' heq
  cases hlocked : draw'.isLocked with
  | true =>
    obtain ⟨e, he⟩ := createDrawForGroup_of_locked hs hmeets hget' (heq ▸ hscope) hlocked
    rw [hcall] at he
    cases he
  | false =>
    simp only [DrawState.discardPrevious, hprev, hlocked, Bool.false_eq_true, if_false,
      Table.get_erase_self] at hget
    cases hget

theorem oneDraw_discardPrevious (hs : OneDraw s.draws) (scope : DrawScope) :
    OneDraw (s.discardPrevious scope) := by
  intro pk pk' draw draw' hget hget'
  exact hs pk pk' draw draw' (get_discardPrevious hget) (get_discardPrevious hget')

/-- A draw of a new group can be inserted. -/
theorem OneDraw.insert {draws : Table Draw} (h : OneDraw draws)
    (hnew : ∀ pk draw', draws.get pk = some draw' → draw'.scope ≠ draw.scope) :
    OneDraw (draws.insert draw) := by
  intro pk pk' d d' hd hd' hscope
  rcases Table.get_insert_cases hd with hold | ⟨rfl, rfl⟩
  · rcases Table.get_insert_cases hd' with hold' | ⟨rfl, rfl⟩
    · exact h pk pk' d d' hold hold' hscope
    · exact absurd hscope (hnew pk d hold)
  · rcases Table.get_insert_cases hd' with hold' | ⟨rfl, rfl⟩
    · exact absurd hscope.symm (hnew pk' d' hold')
    · rfl

/-- A draw keeps its group when it is locked or unlocked. -/
theorem get_setLocked {pk' : ℕ} {isLocked : Bool}
    (h : (drawActionStep (.setLocked pk isLocked) s).draws.get pk' = some draw) :
    ∃ draw', s.draws.get pk' = some draw' ∧ draw'.scope = draw.scope := by
  rcases Table.get_modify_cases h with h | ⟨rfl, draw', hdraw', rfl⟩
  · exact ⟨draw, h, rfl⟩
  · exact ⟨draw', hdraw', rfl⟩

theorem oneDraw_step (a : DrawAction) (s : DrawState) (hmeets : NullAgeMeets a s)
    (hs : OneDraw s.draws) : OneDraw (drawActionStep a s).draws := by
  cases a with
  | draw c =>
    rw [drawActionStep]
    rcases drawStep_cases c s with heq | ⟨pk, scope, size, entriesFinal, hcall, hcreated⟩
    · rwa [heq]
    · rw [hcreated.draws_eq]
      apply (oneDraw_discardPrevious hs scope).insert
      intro pk' draw' hget
      exact scope_ne_of_mem_discardPrevious hs hmeets hcall hcreated.scope_eq hget
  | setLocked pk isLocked =>
    intro pk₁ pk₂ d₁ d₂ h₁ h₂ hscope
    obtain ⟨d₁', hget₁, hscope₁⟩ := get_setLocked h₁
    obtain ⟨d₂', hget₂, hscope₂⟩ := get_setLocked h₂
    exact hs pk₁ pk₂ d₁' d₂' hget₁ hget₂ (hscope₁.trans (hscope.trans hscope₂.symm))

theorem lockHeld_of_meets (a : DrawAction) (s : DrawState) (hmeets : NullAgeMeets a s)
    (hs : OneDraw s.draws) : LockHeld a s := by
  cases a with
  | draw c =>
    intro pk draw hget hscope hlocked
    obtain ⟨e, he⟩ := createDrawForGroup_of_locked hs hmeets hget hscope hlocked
    refine ⟨⟨e, he⟩, ?_⟩
    simp only [drawActionStep, drawStep, he]
  | setLocked pk isLocked => trivial

/-- **One draw for each group, and locked draws do not change.** Start with at most one
draw for each group, and take any calls and any locking and unlocking. If each call for a
locked group without an age category is refused for its arguments or has a match without
a BYE, then in every state of the run each group has at most one draw, and every call for
a locked group raises and changes nothing. -/
theorem oneDraw_and_lockHeld (hs : OneDraw s.draws) {acts : List DrawAction}
    (hmeets : Along drawActionStep NullAgeMeets s acts) :
    (∀ t ∈ visited drawActionStep s acts, OneDraw t.draws) ∧
      Along drawActionStep LockHeld s acts :=
  ⟨hmeets.forall_visited oneDraw_step hs, hmeets.imp_invariant oneDraw_step lockHeld_of_meets hs⟩

end Calls

theorem oneDraw_empty : OneDraw Table.empty := by
  intro pk pk' draw draw' hget
  cases hget

/-- The group of player 5 is drawn, the draw is locked, and the group is drawn again. -/
def drawLockDraw (ageCategoryId : Option ℕ) : List DrawAction :=
  [.draw (groupCall ageCategoryId [5] (1, 2)), .setLocked 1 true,
    .draw (groupCall ageCategoryId [5] (1, 2))]

theorem oneDraw_and_lockHeld_drawLockDraw :
    OneDraw (run drawActionStep .empty (drawLockDraw (some 3))).draws ∧
      LockHeld (.draw (groupCall (some 3) [5] (1, 2)))
        (run drawActionStep .empty ((drawLockDraw (some 3)).take 2)) := by
  have hmeets : Along drawActionStep NullAgeMeets .empty (drawLockDraw (some 3)) := by
    refine ⟨?_, trivial, ?_, trivial⟩
    all_goals
      intro pk draw _ _ _ hnull
      cases hnull
  obtain ⟨hone, hheld⟩ := oneDraw_and_lockHeld oneDraw_empty hmeets
  exact ⟨hone _ (run_mem_visited _ _), hheld.2.2.1⟩

/-- Without an age category the locked draw is joined by a second one. -/
theorem locked_group_drawn_again :
    OneDraw DrawState.empty.draws ∧
      ¬ OneDraw (run drawActionStep .empty (drawLockDraw none)).draws ∧
      ((run drawActionStep .empty ((drawLockDraw none).take 2)).draws.get 1).any
        Draw.isLocked = true ∧
      (createDrawForGroup (groupCall none [5] (1, 2))
        (run drawActionStep .empty ((drawLockDraw none).take 2))).toOption.isSome = true := by
  refine ⟨oneDraw_empty, fun h => ?_, by decide +kernel, by decide +kernel⟩
  have hscopes : ((run drawActionStep .empty (drawLockDraw none)).draws.get 1).map Draw.scope =
        some ⟨1, "", none, 1, 2⟩ ∧
      ((run drawActionStep .empty (drawLockDraw none)).draws.get 2).map Draw.scope =
        some ⟨1, "", none, 1, 2⟩ := by
    decide +kernel
  obtain ⟨draw, hdraw, hscope⟩ := Option.map_eq_some_iff.mp hscopes.1
  obtain ⟨draw', hdraw', hscope'⟩ := Option.map_eq_some_iff.mp hscopes.2
  have hsame := h 1 2 draw draw' hdraw hdraw' (hscope.trans hscope'.symm)
  revert hsame
  decide

end Tkdchb
