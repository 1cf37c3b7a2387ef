import Tkdchb.Draws.MatNumbers

/-!
# The mat that is shown

A weight may be assigned to several mats. The service numbers its matches on the one with
the smallest number. The page of the brackets asks for the assignments itself, in no order
of its own, and shows the mat of the first that has the weight.

## Main definitions

* `shownMat` — the mat on the page, for the assignments in the order of its query
* `FirstIsSmallest` — the first of the assignments that have the weight has the smallest mat

## Main results

* `weightToMatMap_eq_min?` — the service takes the smallest mat, in any order
* `shownMat_eq_iff` — when the page shows the mat the matches are numbered on
-/

namespace Tkdchb

/-- `mat_no` in `numbering_view` -/
def shownMat (assignments : List MatAssignment) (weight : ℕ) : Option ℕ :=
  (assignments.find? fun ma => weight ∈ ma.weights).map MatAssignment.matNumber

/-- No assignment that has the weight has a smaller mat than the first of them. -/
def FirstIsSmallest (assignments : List MatAssignment) (weight : ℕ) : Prop :=
  ∀ first, assignments.find? (fun ma => weight ∈ ma.weights) = some first →
    ∀ ma ∈ assignments, weight ∈ ma.weights → first.matNumber ≤ ma.matNumber

section Mats

variable {assignments queried : List MatAssignment} {weight matNo : ℕ}

/-- The mats of the assignments that have a weight. -/
def matsWith (assignments : List MatAssignment) (weight : ℕ) : List ℕ :=
  (assignments.filter fun ma => weight ∈ ma.weights).map MatAssignment.matNumber

theorem mem_matsWith_iff :
    matNo ∈ matsWith assignments weight ↔
      ∃ ma ∈ assignments, weight ∈ ma.weights ∧ ma.matNumber = matNo := by
  simp only [matsWith, List.mem_map, List.mem_filter, decide_eq_true_eq, and_assoc]

/-! ### The service -/

/-- What one assignment does to the entry of a weight. -/
def lowered (matNo : ℕ) (entry : Option ℕ) : Option ℕ :=
  some (match entry with
    | none => matNo
    | some mat => min mat matNo)

theorem lowered_lowered (matNo : ℕ) (entry : Option ℕ) :
    lowered matNo (lowered matNo entry) = lowered matNo entry := by
  cases entry <;> simp [lowered]

/-- The inner loop of `_weight_to_mat_map` lowers the entries of the weights. -/
theorem foldl_lowered (weights : List ℕ) (mapping : ℕ → Option ℕ) :
    weights.foldl (fun mapping w => Function.update mapping w (lowered matNo (mapping w))) mapping
        weight =
      if weight ∈ weights then lowered matNo (mapping weight) else mapping weight := by
  induction weights generalizing mapping with
  | nil => rfl
  | cons w weights ih =>
    rw [List.foldl_cons, ih]
    by_cases hw : weight = w
    · subst hw
      simp only [Function.update_self, lowered_lowered, ite_self, List.mem_cons_self, if_true]
    · simp only [Function.update_of_ne hw, List.mem_cons, hw, false_or]

theorem min?_append_singleton (l : List ℕ) (n : ℕ) : (l ++ [n]).min? = lowered n l.min? := by
  cases l with
  | nil => rfl
  | cons a l =>
    rw [List.cons_append, List.min?_cons', List.min?_cons', List.foldl_append]
    rfl

/-- **The service takes the smallest mat.** -/
theorem weightToMatMap_eq_min? (assignments : List MatAssignment) (weight : ℕ) :
    weightToMatMap assignments weight = (matsWith assignments weight).min? := by
  induction assignments using List.reverseRecOn with
  | nil => rfl
  | append_singleton assignments ma ih =>
    have hlast : weightToMatMap (assignments ++ [ma]) weight =
        if weight ∈ ma.weights then lowered ma.matNumber (weightToMatMap assignments weight)
        else weightToMatMap assignments weight := by
      rw [weightToMatMap, List.foldl_append]
      exact foldl_lowered ma.weights _
    have hmats : matsWith (assignments ++ [ma]) weight =
        matsWith assignments weight ++ if weight ∈ ma.weights then [ma.matNumber] else [] := by
      by_cases hw : weight ∈ ma.weights <;> simp [matsWith, hw]
    rw [hlast, ih, hmats]
    split_ifs
    · exact (min?_append_singleton _ _).symm
    · rw [List.append_nil]

theorem weightToMatMap_eq_some_iff :
    weightToMatMap assignments weight = some matNo ↔
      (∃ ma ∈ assignments, weight ∈ ma.weights ∧ ma.matNumber = matNo) ∧
        ∀ ma ∈ assignments, weight ∈ ma.weights → matNo ≤ ma.matNumber := by
  rw [weightToMatMap_eq_min?, List.min?_eq_some_iff, mem_matsWith_iff]
  apply and_congr_right
  intro _
  simp only [mem_matsWith_iff]
  constructor
  · exact fun h ma hma hw => h _ ⟨ma, hma, hw, rfl⟩
  · rintro h _ ⟨ma, hma, hw, rfl⟩
    exact h ma hma hw

theorem weightToMatMap_eq_none_iff :
    weightToMatMap assignments weight = none ↔ ∀ ma ∈ assignments, weight ∉ ma.weights := by
  rw [weightToMatMap_eq_min?, List.min?_eq_none_iff, List.eq_nil_iff_forall_not_mem]
  constructor
  · exact fun h ma hma hw => h _ (mem_matsWith_iff.mpr ⟨ma, hma, hw, rfl⟩)
  · intro h matNo hmat
    obtain ⟨ma, hma, hw, -⟩ := mem_matsWith_iff.mp hmat
    exact h ma hma hw

/-- The order of the assignments does not matter to the service. -/
theorem weightToMatMap_perm (h : queried.Perm assignments) :
    weightToMatMap queried = weightToMatMap assignments := by
  funext weight
  apply Option.ext
  intro matNo
  simp only [weightToMatMap_eq_some_iff, h.mem_iff]

/-! ### The page -/

/-- The page shows the mat of the service exactly if the first assignment is the smallest. -/
theorem shownMat_eq_weightToMatMap_iff :
    shownMat queried weight = weightToMatMap queried weight ↔ FirstIsSmallest queried weight := by
  rw [shownMat]
  cases hfirst : queried.find? fun ma => weight ∈ ma.weights with
  | none =>
    have hnone : weightToMatMap queried weight = none := by
      rw [weightToMatMap_eq_none_iff]
      simpa using List.find?_eq_none.mp hfirst
    refine iff_of_true hnone.symm fun first hsome => ?_
    rw [hfirst] at hsome
    cases hsome
  | some first =>
    have hw : weight ∈ first.weights := by simpa using List.find?_some hfirst
    have hmem : first ∈ queried := List.mem_of_find?_eq_some hfirst
    rw [Option.map_some, eq_comm, weightToMatMap_eq_some_iff, FirstIsSmallest, hfirst]
    constructor
    · rintro ⟨-, hle⟩ first' hsome
      obtain rfl := Option.some.inj hsome
      exact hle
    · exact fun h => ⟨⟨first, hmem, hw, rfl⟩, h first rfl⟩

end Mats

open NumberingState

/-- **When the mat shown is the mat used.** For any assignments of a competition, in any
order the page gets them in: the mat it shows for a draw is the one the service numbers the
matches of the draw on, exactly if the first assignment in this order that has the weight
has the smallest mat. -/
theorem shownMat_eq_iff {s : NumberingState} {competitionId pk : ℕ} {event : BracketEvent}
    {queried : List MatAssignment} {b : Bracket} (hevent : s.events competitionId = some event)
    (hqueried : queried.Perm event.matAssignments) (hb : s.draws.get pk = some b) :
    (shownMat queried b.scope.weightCategory =
        s.matOf competitionId b.scope.weightCategory ↔
      FirstIsSmallest queried b.scope.weightCategory) ∧
    ∀ weightIds matNo i, s.Numbers competitionId weightIds (s.matOf competitionId) matNo pk i →
      s.matOf competitionId b.scope.weightCategory = some matNo := by
  constructor
  · have hmatOf : s.matOf competitionId = weightToMatMap queried := by
      rw [matOf, hevent, weightToMatMap_perm hqueried]
    rw [hmatOf]
    exact shownMat_eq_weightToMatMap_iff
  · rintro weightIds matNo i ⟨b', hb', -, hmat, -⟩
    obtain rfl := Option.some.inj (hb.symm.trans hb')
    exact hmat

/-- Weight 1 has mat 1 and mat 2, weight 2 has mat 3. -/
def sharedWeight : List MatAssignment := [⟨2, [1]⟩, ⟨1, [1]⟩, ⟨3, [2]⟩]

/-- A competition with these assignments and a draw of two players of the weight. -/
def shownEvent (weightCategory : ℕ) : NumberingState where
  draws := Table.empty.insert (twoPlayers weightCategory 5 6)
  events competitionId := if competitionId = 1 then some ⟨sharedWeight, none⟩ else none
  minWeight _ := 0

/-- The page shows mat 2 for weight 1, and the final gets its number on mat 1. -/
theorem shown_on_other_mat :
    (shownEvent 1).draws.get 1 ≠ none ∧ shownMat sharedWeight 1 = some 2 ∧
      (shownEvent 1).matOf 1 1 = some 1 ∧
      (numberMatchesForCompetition 1 [1] true (shownEvent 1)).toOption.bind
          (fun r => (boutAt r.2.draws (1, 2)).map fun m => (m.matNo, m.matchNumber)) =
        some (some 1, some 1) :=
  ⟨by decide +kernel, by decide, by decide, by decide +kernel⟩

/-- Weight 2 is on one mat only. -/
theorem shownMat_eq_iff_one_mat :
    shownMat sharedWeight 2 = (shownEvent 2).matOf 1 2 ↔ FirstIsSmallest sharedWeight 2 :=
  (@shownMat_eq_iff (shownEvent 2) 1 1 ⟨sharedWeight, none⟩ sharedWeight _ rfl (List.Perm.refl _)
    rfl).1

end Tkdchb
