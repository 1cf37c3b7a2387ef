import Tkdchb.Draws.Seating

/-!
# The rule for players of one club

The form that starts a draw says of its threshold that the rule for players of one club
applies from that number of participants on. Without an entry it takes eight if there are
at least eight, and a number that is never reached otherwise. The cost of a meeting
compares the other way: it adds the penalty only if the participants are more than the
threshold.

## Main definitions

* `ThresholdFields.finalThreshold` — the threshold the form hands on
* `SameClub`, `DrawCall.clubCharge` — players of one club, and what their club adds to the
  cost of their meeting

## Main results

* `sum_meetings_eq` — the charges are part of the cost of every order
* `clubCharge_eq_penalty_iff` — the penalty is due above the threshold
* `club_rule_iff` — the rule of the form holds unless there are as many players as the
  threshold says
-/

namespace Tkdchb

/-! ### The form -/

/-- The fields of `DrawStartForm` that the threshold depends on, cleaned. -/
structure ThresholdFields where
  manual : Bool
  clubThreshold : Option ℤ
  deriving Repr

/-- The threshold that was entered. A zero counts as no entry. -/
def ThresholdFields.entered (fields : ThresholdFields) : Option ℤ :=
  if fields.manual then fields.clubThreshold.filter (· ≠ 0) else none

/-- `final_th` -/
def ThresholdFields.finalThreshold (fields : ThresholdFields) (count : ℕ) : ℤ :=
  fields.entered.getD (if 8 ≤ count then 8 else 9999)

/-- Without an entry only eight players are as many as the threshold says. -/
theorem count_eq_finalThreshold_iff {fields : ThresholdFields} (h : fields.entered = none)
    {count : ℕ} : (count : ℤ) = fields.finalThreshold count ↔ count = 8 := by
  rw [ThresholdFields.finalThreshold, h, Option.getD_none]
  split_ifs <;> omega

/-! ### The penalty -/

section Charge

variable {c : DrawCall} {historyPairs : List PlayerPair} {a b : Entry}

/-- Two players of the same club. -/
def SameClub (a b : Entry) : Prop := ∃ club ≠ 0, a.clubId = some club ∧ b.clubId = some club

/-- The same player without a club. -/
def Entry.withoutClub (e : Entry) : Entry := { e with clubId := none }

/-- What the clubs of two players add to the cost of their meeting. -/
def DrawCall.clubCharge (c : DrawCall) (historyPairs : List PlayerPair) (a b : Entry) : ℕ :=
  pairCost c.entries.length c.clubThreshold historyPairs a b -
    pairCost c.entries.length c.clubThreshold historyPairs a.withoutClub b.withoutClub

/-- Without their clubs two players pay at most for having met before. -/
theorem pairCost_eq_withoutClub_add (n t : ℕ) :
    pairCost n t historyPairs a b = pairCost n t historyPairs a.withoutClub b.withoutClub +
      if n > t ∧ (a.clubId.filter (· ≠ 0)).isSome ∧ (b.clubId.filter (· ≠ 0)).isSome ∧
        a.clubId = b.clubId then sameClubPenalty else 0 := by
  have hno : ¬(n > t ∧ (a.withoutClub.clubId.filter (· ≠ 0)).isSome ∧
      (b.withoutClub.clubId.filter (· ≠ 0)).isSome ∧
      a.withoutClub.clubId = b.withoutClub.clubId) := by
    rintro ⟨-, hclub, -⟩
    cases hclub
  have hwithout : pairCost n t historyPairs a.withoutClub b.withoutClub =
      if PlayerPair.of a.playerId b.playerId ∈ historyPairs then repeatPairPenalty else 0 :=
    congrArg _ (if_neg hno)
  rw [hwithout]
  rfl

/-- The cost of a meeting is that without the clubs, and the charge. -/
theorem pairCost_eq_add_clubCharge :
    pairCost c.entries.length c.clubThreshold historyPairs a b =
      pairCost c.entries.length c.clubThreshold historyPairs a.withoutClub b.withoutClub +
        c.clubCharge historyPairs a b := by
  rw [DrawCall.clubCharge, Nat.add_sub_cancel']
  exact (Nat.le_add_right _ _).trans_eq (pairCost_eq_withoutClub_add _ _).symm

/-- **Players of one club pay the penalty above the threshold**, and nothing else. -/
theorem clubCharge_of_sameClub (h : SameClub a b) :
    c.clubCharge historyPairs a b =
      if c.clubThreshold < c.entries.length then sameClubPenalty else 0 := by
  obtain ⟨club, hclub, ha, hb⟩ := h
  have hcost := @pairCost_eq_withoutClub_add historyPairs a b c.entries.length c.clubThreshold
  rw [DrawCall.clubCharge, hcost, Nat.add_sub_cancel_left]
  simp [ha, hb, hclub]

theorem clubCharge_eq_penalty_iff (h : SameClub a b) :
    c.clubCharge historyPairs a b = sameClubPenalty ↔ c.clubThreshold < c.entries.length := by
  rw [clubCharge_of_sameClub h]
  split_ifs with habove
  · exact iff_of_true rfl habove
  · exact iff_of_false (by decide) habove

/-- The charges are part of the cost of the order that a table is made from. -/
theorem orderCost_eq_sum_charges {byeSet : List ℕ} {size : ℕ} {order : List Entry}
    {l : List (Option Entry)} (h : assemble byeSet (slots size) order = some l) :
    orderCostForSlots ((slots size).filter (· ∉ byeSet)) size c.entries.length c.clubThreshold
        historyPairs order =
      ((meetings l).map fun (a, b) =>
        pairCost c.entries.length c.clubThreshold historyPairs a.withoutClub b.withoutClub +
          c.clubCharge historyPairs a b).sum := by
  rw [orderCostForSlots_eq h]
  congr 1
  apply List.map_congr_left
  intro p _
  exact pairCost_eq_add_clubCharge

/-- **The rule of the form holds unless there are as many players as the threshold says.**
For any entry of the form, and any call with the threshold that it hands on: the cost of
every order that can be drawn adds up, over its meetings, what the players would pay
without their clubs and the charge for these; and the charge for two players of one club is
the penalty exactly from the threshold on, unless the players are as many as that. Without an entry these are eight players. -/
theorem club_rule_iff (fields : ThresholdFields)
    (hform : (c.clubThreshold : ℤ) = fields.finalThreshold c.entries.length)
    (historyPairs : List PlayerPair) {byeSet : List ℕ} {size : ℕ} {order : List Entry}
    {l : List (Option Entry)} (htable : assemble byeSet (slots size) order = some l) :
    orderCostForSlots ((slots size).filter (· ∉ byeSet)) size c.entries.length c.clubThreshold
        historyPairs order =
      ((meetings l).map fun (a, b) =>
        pairCost c.entries.length c.clubThreshold historyPairs a.withoutClub b.withoutClub +
          c.clubCharge historyPairs a b).sum ∧
    (∀ p ∈ meetings l, SameClub p.1 p.2 →
      ((c.clubCharge historyPairs p.1 p.2 = sameClubPenalty ↔
          fields.finalThreshold c.entries.length ≤ c.entries.length) ↔
        (c.entries.length : ℤ) ≠ fields.finalThreshold c.entries.length)) ∧
    (fields.entered = none →
      ((c.entries.length : ℤ) ≠ fields.finalThreshold c.entries.length ↔
        c.entries.length ≠ 8)) := by
  refine ⟨orderCost_eq_sum_charges htable, ?_, fun h => (count_eq_finalThreshold_iff h).not⟩
  rintro ⟨a, b⟩ _ hclub
  rw [clubCharge_eq_penalty_iff hclub, ← hform]
  omega

end Charge

/-- Players one to eight are members of one club. -/
def clubMatesCall (clubThreshold : ℕ) : DrawCall :=
  let registered := groupCall (some 3) [1, 2, 3, 4, 5, 6, 7, 8] (1, 2)
  { registered with
    clubThreshold
    enrollments := registered.enrollments.map fun e => { e with club := some 4 } }

/-- The form takes a threshold of eight because they are eight, and yet the first two meet
without a penalty. -/
theorem club_rule_fails_at_eight :
    ((clubMatesCall 8).clubThreshold : ℤ) =
      (ThresholdFields.mk false none).finalThreshold (clubMatesCall 8).entries.length ∧
    (clubMatesCall 8).seeding [] 8 = some ((clubMatesCall 8).entries.map some) ∧
    ¬∀ p ∈ meetings ((clubMatesCall 8).entries.map some), SameClub p.1 p.2 →
      ((clubMatesCall 8).clubCharge [] p.1 p.2 = sameClubPenalty ↔
        (clubMatesCall 8).clubThreshold ≤ (clubMatesCall 8).entries.length) := by
  refine ⟨by decide +kernel, by decide +kernel, fun hrule => ?_⟩
  have hpenalty := hrule (⟨1, 1, some 4⟩, ⟨2, 2, some 4⟩) (by decide +kernel)
    ⟨4, by decide, rfl, rfl⟩
  exact absurd (hpenalty.mpr (by decide +kernel)) (by decide +kernel)

/-- With a threshold of five the first two would pay it. -/
theorem club_rule_iff_eight :
    ((clubMatesCall 5).clubCharge [] ⟨1, 1, some 4⟩ ⟨2, 2, some 4⟩ = sameClubPenalty ↔
        (ThresholdFields.mk true (some 5)).finalThreshold (clubMatesCall 5).entries.length ≤
          (clubMatesCall 5).entries.length) ↔
      ((clubMatesCall 5).entries.length : ℤ) ≠
        (ThresholdFields.mk true (some 5)).finalThreshold (clubMatesCall 5).entries.length :=
  (@club_rule_iff (clubMatesCall 5) ⟨true, some 5⟩ (by decide +kernel) [] [] 8
    (clubMatesCall 5).entries ((clubMatesCall 5).entries.map some) (by decide +kernel)).2.1
    (⟨1, 1, some 4⟩, ⟨2, 2, some 4⟩) (by decide +kernel) ⟨4, by decide, rfl, rfl⟩

end Tkdchb
