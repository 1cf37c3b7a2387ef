import Tkdchb.Draws.ByeSlots

/-!
# The order of the BYEs at every size

The loop for sizes without a table moves its two ends towards each other and may stop in the
middle of a round. It is described once more by the rounds it makes, without a bound on their
number: from every start between the ends a run comes to an end, and to one end only. So the
function returns at every size, and what it returns are different slots.

## Main definitions

* `ByeOrderRun` — the `while` loop, by the rounds it makes
* `ByeSlotsRun` — `_bye_slots`, by the table or by a run of the loop

## Main results

* `byeOrderRun_byeOrderLoop`, `ByeOrderRun.eq` — the loop ends, in one way
* `byeSlotsRun_iff` — the function returns, and only `byeSlots`
* `byeSlots_distinct` — as many different slots of the draw as there are BYEs
-/

namespace Tkdchb

variable {size : ℕ}

/-! ### The loop -/

/-- The rounds of `while l <= r` from the ends `l` and `r`, with the order so far and the order
at the end. -/
inductive ByeOrderRun (size : ℕ) : ℕ → ℕ → List ℕ → List ℕ → Prop where
  /-- The ends have met. -/
  | done {l r : ℕ} {order : List ℕ} (h : r < l) : ByeOrderRun size l r order order
  /-- `break` -/
  | full {l r : ℕ} {order : List ℕ} (h : l ≤ r) (hfull : size ≤ (order ++ [r]).length) :
      ByeOrderRun size l r order (order ++ [r])
  | turn {l r : ℕ} {order result : List ℕ} (h : l ≤ r) (hroom : (order ++ [r]).length < size)
      (hrest : ByeOrderRun size (l + 1) (r - 1) (order ++ [r] ++ [l]) result) :
      ByeOrderRun size l r order result

/-- **The loop ends**: with `m` slots between its ends, after half as many rounds. -/
theorem byeOrderRun_byeOrderLoop {fuel l r m : ℕ} {order : List ℕ} (hr : r + 1 = l + m)
    (hfuel : m ≤ 2 * fuel) : ByeOrderRun size l r order (byeOrderLoop size fuel l r order) := by
  induction fuel generalizing l r m order with
  | zero => exact .done (by omega)
  | succ fuel ih =>
    simp only [byeOrderLoop]
    split_ifs with hle hfull
    · exact .full hle hfull
    · refine .turn hle (Nat.lt_of_not_le hfull) ?_
      rcases Nat.lt_or_ge m 2 with hone | htwo
      · -- the ends have passed each other
        have hpassed : r - 1 < l + 1 := by omega
        have hstop : byeOrderLoop size fuel (l + 1) (r - 1) (order ++ [r] ++ [l]) =
            order ++ [r] ++ [l] := by
          cases fuel with
          | zero => rfl
          | succ fuel => exact if_neg (Nat.not_le_of_lt hpassed)
        rw [hstop]
        exact .done hpassed
      · exact ih (m := m - 2) (by omega) (by omega)
    · exact .done (Nat.lt_of_not_le hle)

/-- From both ends of all slots. -/
theorem byeOrderRun_slots (size : ℕ) :
    ByeOrderRun size 1 size [] (byeOrderLoop size size 1 size []) :=
  byeOrderRun_byeOrderLoop (m := size) (by omega) (by omega)

namespace ByeOrderRun

variable {l r : ℕ} {order result result' : List ℕ}

/-- **In one way only.** -/
theorem eq (h : ByeOrderRun size l r order result) (h' : ByeOrderRun size l r order result') :
    result = result' := by
  induction h with
  | done hpassed =>
    cases h' with
    | done _ => rfl
    | full hle _ => exact absurd hle (Nat.not_le_of_lt hpassed)
    | turn hle _ _ => exact absurd hle (Nat.not_le_of_lt hpassed)
  | full hle hfull =>
    cases h' with
    | done hpassed => exact absurd hle (Nat.not_le_of_lt hpassed)
    | full _ _ => rfl
    | turn _ hroom _ => exact absurd hfull (Nat.not_le_of_lt hroom)
  | turn hle hroom _ ih =>
    cases h' with
    | done hpassed => exact absurd hle (Nat.not_le_of_lt hpassed)
    | full _ hfull => exact absurd hfull (Nat.not_le_of_lt hroom)
    | turn _ _ hrest => exact ih hrest

/-- Between its ends the loop lists every slot once, at every size. -/
theorem perm (h : ByeOrderRun size 1 size [] result) : result.Perm (slots size) := by
  rw [h.eq (byeOrderRun_slots size), slots_eq_range']
  exact byeOrderLoop_perm (by omega) (by simp) (by omega)

end ByeOrderRun

/-! ### The function -/

/-- `_bye_slots`: the order of the table, or that of the loop where there is none, cut off. -/
inductive ByeSlotsRun (size byeCount : ℕ) : List ℕ → Prop where
  | tabulated {order : List ℕ} (h : byeOrderMap size = some order) :
      ByeSlotsRun size byeCount (order.take byeCount)
  | looped {order : List ℕ} (h : byeOrderMap size = none)
      (hrun : ByeOrderRun size 1 size [] order) : ByeSlotsRun size byeCount (order.take byeCount)

variable {byeCount : ℕ} {result : List ℕ}

/-- The function returns, and only one list. -/
theorem byeSlotsRun_iff : ByeSlotsRun size byeCount result ↔ result = byeSlots size byeCount := by
  constructor
  · intro h
    cases h with
    | tabulated horder => rw [byeSlots, horder, Option.getD_some]
    | looped hnone hrun => rw [byeSlots, hnone, Option.getD_none, hrun.eq (byeOrderRun_slots size)]
  · rintro rfl
    unfold byeSlots
    cases horder : byeOrderMap size with
    | some order => exact .tabulated horder
    | none => exact .looped horder (byeOrderRun_slots size)

/-- Whichever way the slots were found, they are the beginning of an order of all slots. -/
theorem ByeSlotsRun.exists_perm (h : ByeSlotsRun size byeCount result) :
    ∃ order : List ℕ, order.Perm (slots size) ∧ result = order.take byeCount := by
  cases h with
  | tabulated horder => exact ⟨_, perm_of_byeOrderMap horder, rfl⟩
  | looped _ hrun => exact ⟨_, hrun.perm, rfl⟩

/-- **As many different slots of the draw as there are BYEs**, at every size: the function
returns, and whatever it returns has this many slots, none twice and all between one and the
size. -/
theorem byeSlots_distinct (h : byeCount ≤ size) :
    (∃ result, ByeSlotsRun size byeCount result) ∧
      ∀ result, ByeSlotsRun size byeCount result →
        result.length = byeCount ∧ result.Nodup ∧ ∀ s ∈ result, 1 ≤ s ∧ s ≤ size := by
  refine ⟨⟨_, byeSlotsRun_iff.mpr rfl⟩, fun result hrun => ?_⟩
  obtain ⟨order, hperm, rfl⟩ := hrun.exists_perm
  refine ⟨?_, ?_, fun s hs => ?_⟩
  · rw [List.length_take, hperm.length_eq, length_slots]
    exact min_eq_left h
  · exact (hperm.nodup_iff.mpr (nodup_slots size)).sublist (List.take_sublist _ _)
  · have hmem := hperm.subset (List.mem_of_mem_take hs)
    rw [slots_eq_range', List.mem_range'_1] at hmem
    omega

/-- Seven BYEs on 16 slots, by the table, and on 128, by the loop. -/
theorem byeSlots_distinct_seven :
    ((byeSlots 16 7).length = 7 ∧ (byeSlots 16 7).Nodup ∧ ∀ s ∈ byeSlots 16 7, 1 ≤ s ∧ s ≤ 16) ∧
      (byeSlots 128 7).length = 7 ∧ (byeSlots 128 7).Nodup ∧
        ∀ s ∈ byeSlots 128 7, 1 ≤ s ∧ s ≤ 128 :=
  ⟨(byeSlots_distinct (by decide : 7 ≤ 16)).2 _ (byeSlotsRun_iff.mpr rfl),
    (byeSlots_distinct (by decide : 7 ≤ 128)).2 _ (byeSlotsRun_iff.mpr rfl)⟩

end Tkdchb
