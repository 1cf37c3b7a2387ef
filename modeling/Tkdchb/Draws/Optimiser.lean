import Mathlib.Order.Nat
import Tkdchb.Draws.ByeSlots
import Tkdchb.Lib.LeastCost

/-!
# The choice of an order

`_best_order_by_penalty_on_slots` shuffles the players a number of times and keeps the
first order of least cost, and stops early at an order that costs nothing. The cost is
computed from the slots of an order, before the players are put on the table; the matches
are made from the table.

## Main definitions

* `meetings` — the players that meet in the first round

## Main results

* `bestOrderLoop_eq_search` — the loop is a search for the cheapest order
* `bestOrder_perm`, `bestOrder_least` — the order that is chosen
* `orderCostForSlots_eq` — its cost is that of the matches
* `optimiser_sound` — all of it
-/

namespace Tkdchb

/-! ### The order that is chosen -/

section Chosen

variable {cost : List Entry → ℕ} {shuffle : ℕ → List Entry → List Entry} {attempts : ℤ}
  {players : List Entry}

/-- The loop over the attempts is a search for the cheapest of the shuffled orders. -/
theorem bestOrderLoop_eq_search (cost : List Entry → ℕ) (shuffled : ℕ → List Entry)
    (attempts i : ℕ) (best : Option (List Entry × ℕ)) :
    bestOrderLoop cost shuffled attempts i best =
      LeastCost.search cost shuffled attempts i best := by
  induction attempts generalizing i best with
  | zero => rfl
  | succ attempts ih =>
    simp only [bestOrderLoop, LeastCost.search, ih]
    cases best with
    | none => rfl
    | some b => rfl

/-- More than two players get an order of least cost among those that were tried. -/
theorem bestOrder_least (hshuffle : ∀ i, (shuffle i players).Perm players)
    (hmany : 2 < players.length) :
    (∃ i < (max 1 attempts).toNat,
      bestOrderByPenaltyOnSlots cost shuffle attempts players = shuffle i players) ∧
    ∀ i < (max 1 attempts).toNat,
      cost (bestOrderByPenaltyOnSlots cost shuffle attempts players) ≤
        cost (shuffle i players) := by
  -- there is at least one attempt
  have hattempts : 0 < (max 1 attempts).toNat := by omega
  obtain ⟨i, hi, hfound, hleast⟩ :=
    LeastCost.search_spec hattempts cost fun i => shuffle i players
  have hchosen : bestOrderByPenaltyOnSlots cost shuffle attempts players = shuffle i players := by
    have hlength := (hshuffle i).length_eq
    obtain ⟨e, rest, horder⟩ :=
      List.exists_cons_of_length_pos (by omega : 0 < (shuffle i players).length)
    rw [horder] at hfound
    rw [bestOrderByPenaltyOnSlots, if_neg (not_le.mpr hmany), bestOrderLoop_eq_search, hfound,
      horder]
  rw [hchosen]
  exact ⟨⟨i, hi, rfl⟩, hleast⟩

/-- The order that is chosen is one of the players. -/
theorem bestOrder_perm (hshuffle : ∀ i, (shuffle i players).Perm players) :
    (bestOrderByPenaltyOnSlots cost shuffle attempts players).Perm players := by
  rcases Nat.lt_or_ge 2 players.length with hmany | hfew
  · have hleast := @bestOrder_least cost shuffle attempts players hshuffle hmany
    obtain ⟨⟨i, -, hchosen⟩, -⟩ := hleast
    rw [hchosen]
    exact hshuffle i
  · rw [bestOrderByPenaltyOnSlots, if_pos hfew]

end Chosen

/-! ### The cost of the matches -/

/-- The players that meet in the first round. -/
def meetings (entriesFinal : List (Option Entry)) : List (Entry × Entry) :=
  (pairUp entriesFinal).filterMap fun (a, b) =>
    match a, b with
    | some a, some b => some (a, b)
    | _, _ => none

/-- The players of a match, unless it is a BYE. -/
def Match.players (m : Match) : Option (Option ℤ × Option ℤ) :=
  if m.isBye then none else some (m.playerA, m.playerB)

/-- They are the players of the matches that are no BYE. -/
theorem filterMap_players_firstRound (l : List (Option Entry)) :
    (firstRound l).filterMap Match.players =
      (meetings l).map fun (a, b) => (some a.playerId, some b.playerId) := by
  rw [meetings, List.map_filterMap]
  apply filterMap_mapIdx
  rintro i ⟨a, b⟩
  cases a <;> cases b <;> rfl

/-- The table holds the player whom the slot was given for its cost. -/
theorem assemble_eq_map_lookup {byeSet ss : List ℕ} {players : List Entry}
    {l : List (Option Entry)} (hnodup : ss.Nodup) (h : assemble byeSet ss players = some l) :
    l = ss.map fun s => ((ss.filter (· ∉ byeSet)).zip players).lookup s := by
  induction ss generalizing players l with
  | nil =>
    obtain rfl := Option.some.inj h
    rfl
  | cons s rest ih =>
    obtain ⟨hs, hrest⟩ := List.nodup_cons.mp hnodup
    by_cases hbye : s ∈ byeSet
    · simp only [assemble, if_pos hbye] at h
      obtain ⟨l', hl', rfl⟩ := Option.map_eq_some_iff.mp h
      have hfilter : (s :: rest).filter (· ∉ byeSet) = rest.filter (· ∉ byeSet) := by
        simp [hbye]
      have hnone : ((rest.filter (· ∉ byeSet)).zip players).lookup s = none := by
        rw [List.lookup_eq_none_iff]
        intro p hp
        have hfree := (List.mem_filter.mp (List.of_mem_zip hp).1).2
        rw [bne_iff_ne]
        rintro rfl
        exact of_decide_eq_true hfree hbye
      rw [hfilter, List.map_cons, hnone, ← ih hrest hl']
    · cases players with
      | nil => simp [assemble, hbye] at h
      | cons player players =>
        simp only [assemble, if_neg hbye] at h
        obtain ⟨l', hl', rfl⟩ := Option.map_eq_some_iff.mp h
        have hfilter : (s :: rest).filter (· ∉ byeSet) = s :: rest.filter (· ∉ byeSet) := by
          simp [hbye]
        rw [hfilter, List.zip_cons_cons, List.map_cons, List.lookup_cons_self, ih hrest hl']
        congr 1
        apply List.map_congr_left
        intro s' hs'
        -- the later slots are others, so the first entry of the list is passed over
        have hne : (s' == s) = false := beq_eq_false_iff_ne.mpr fun heq => hs (heq ▸ hs')
        rw [List.lookup_cons, hne]

/-- Adding up over all pairs of slots, with nothing for a BYE, adds up over the meetings. -/
theorem sum_map_slots (cost : Entry → Entry → ℕ) (onSlot : ℕ → Option Entry)
    (pairs : List (ℕ × ℕ)) :
    (pairs.map fun (s, s') =>
      match onSlot s, onSlot s' with
      | some a, some b => cost a b
      | _, _ => 0).sum =
    (((pairs.map (Prod.map onSlot onSlot)).filterMap fun (a, b) =>
      match a, b with
      | some a, some b => some (a, b)
      | _, _ => none).map fun (a, b) => cost a b).sum := by
  induction pairs with
  | nil => rfl
  | cons p pairs ih =>
    cases ha : onSlot p.1 <;> cases hb : onSlot p.2 <;> simp [ha, hb, ih]

/-- **The cost of an order is that of the matches made from it**, whatever the BYEs. -/
theorem orderCostForSlots_eq {byeSet : List ℕ} {size : ℕ} {order : List Entry}
    {l : List (Option Entry)} (h : assemble byeSet (slots size) order = some l)
    (effectiveCount clubThreshold : ℕ) (historyPairs : List PlayerPair) :
    orderCostForSlots ((slots size).filter (· ∉ byeSet)) size effectiveCount clubThreshold
        historyPairs order =
      ((meetings l).map fun (a, b) =>
        pairCost effectiveCount clubThreshold historyPairs a b).sum := by
  rw [assemble_eq_map_lookup (nodup_slots size) h, meetings, pairUp_map]
  exact sum_map_slots (pairCost effectiveCount clubThreshold historyPairs)
    (fun s => (((slots size).filter (· ∉ byeSet)).zip order).lookup s) (pairUp (slots size))

/-- **The optimiser is sound.** Whatever the shuffles, the order it returns is one of the
players; if there are more than two, it is one of the orders that were tried, and none of
those is cheaper; and its cost is that of the matches with two players on the table that is
made from it. -/
theorem optimiser_sound {shuffle : ℕ → List Entry → List Entry} {players : List Entry}
    (hshuffle : ∀ i, (shuffle i players).Perm players) (attempts : ℤ) {nonByeSlots : List ℕ}
    (hslots : nonByeSlots.length = players.length) (size effectiveCount clubThreshold : ℕ)
    (historyPairs : List PlayerPair) :
    let cost := orderCostForSlots nonByeSlots size effectiveCount clubThreshold historyPairs
    let best := bestOrderByPenaltyOnSlots cost shuffle attempts players
    best.Perm players ∧
      (2 < players.length →
        (∃ i : ℕ, i < max 1 attempts ∧ best = shuffle i players) ∧
        ∀ i : ℕ, i < max 1 attempts → cost best ≤ cost (shuffle i players)) ∧
      ∀ byeSet, nonByeSlots = (slots size).filter (· ∉ byeSet) →
        ∃ entriesFinal, assemble byeSet (slots size) best = some entriesFinal ∧
          (firstRound entriesFinal).filterMap Match.players =
            ((meetings entriesFinal).map fun (a, b) => (some a.playerId, some b.playerId)) ∧
          cost best = ((meetings entriesFinal).map fun (a, b) =>
            pairCost effectiveCount clubThreshold historyPairs a b).sum := by
  intro cost best
  have hperm : best.Perm players := bestOrder_perm hshuffle
  refine ⟨hperm, ?_, ?_⟩
  · intro hmany
    obtain ⟨⟨i, hi, hchosen⟩, hleast⟩ := bestOrder_least hshuffle hmany
    exact ⟨⟨i, by omega, hchosen⟩, fun j hj => hleast j (by omega)⟩
  · rintro byeSet rfl
    have hplaces : ((slots size).filter (· ∉ byeSet)).length ≤ best.length := by
      rw [hslots, hperm.length_eq]
    obtain ⟨l, hl, -⟩ := exists_assemble hplaces
    exact ⟨l, hl, filterMap_players_firstRound l, orderCostForSlots_eq hl _ _ _⟩

/-- Three players, reversed in every attempt, on the last three of four slots. -/
theorem optimiser_sound_three :
    (bestOrderByPenaltyOnSlots (orderCostForSlots [2, 3, 4] 4 3 8 []) (fun _ => List.reverse) 200
      [⟨1, 5, none⟩, ⟨2, 6, some 1⟩, ⟨3, 7, some 1⟩]).Perm
      [⟨1, 5, none⟩, ⟨2, 6, some 1⟩, ⟨3, 7, some 1⟩] :=
  (optimiser_sound (fun _ => List.reverse_perm _) 200 rfl 4 3 8 []).1

end Tkdchb
