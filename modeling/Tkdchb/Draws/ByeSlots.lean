import Mathlib.Data.List.ReduceOption
import Mathlib.Data.Nat.Init
import Tkdchb.Draws.CreateDraw

/-!
# The BYEs of a table

Which slots are BYEs is read off an order of all slots: a table of orders up to 64 slots,
and a loop for larger tables. Both list every slot once, so as many slots stay free as
there are players. They differ in how the BYEs are spread: the orders of the table put
the first half of them on different matches, the loop does not.

## Main definitions

* `byeOrder` — the order in which slots become BYEs
* `noDoubleBye` — no match has a BYE on both sides

## Main results

* `byeOrder_perm` — the order lists every slot once
* `length_freeSlots` — what is left for the players
* `exists_assemble` — they all find a place, in order
* `byes_spread_iff` — when every match has a player
-/

namespace Tkdchb

/-! ### Pairs of neighbours -/

section Pairs

variable {α : Type}

theorem length_pairUp (l : List α) : (pairUp l).length = l.length / 2 := by
  induction l using List.twoStepInduction with
  | nil => simp [pairUp]
  | singleton a => simp [pairUp]
  | cons_cons a b rest ih _ =>
    simp only [pairUp, List.length_cons, ih]
    omega

/-- Nothing is lost if the pairs come out even. -/
theorem flatMap_pairUp {l : List α} (h : l.length % 2 = 0) :
    ((pairUp l).flatMap fun p => [p.1, p.2]) = l := by
  induction l using List.twoStepInduction with
  | nil => rfl
  | singleton a => cases h
  | cons_cons a b rest ih _ =>
    rw [List.length_cons, List.length_cons] at h
    simp [pairUp, ih (by omega)]

theorem pairUp_range' (a n : ℕ) :
    pairUp (List.range' a n) = (List.range (n / 2)).map fun i => (a + 2 * i, a + 2 * i + 1) := by
  induction n using Nat.twoStepInduction generalizing a with
  | zero => rfl
  | one => rfl
  | more n ih _ =>
    have hhalf : (n + 2) / 2 = n / 2 + 1 := by omega
    rw [List.range'_succ, List.range'_succ, pairUp, ih, hhalf, List.range_succ_eq_map,
      List.map_cons, List.map_map]
    congr 1
    apply List.map_congr_left
    intro i _
    simp only [Function.comp_apply, Nat.succ_eq_add_one, Prod.mk.injEq]
    omega

/-- Numbering a list does not matter to a property that does not read the numbers. -/
theorem forall_mem_mapIdx {β : Type} {f : ℕ → α → β} {P : β → Prop} {Q : α → Prop}
    (h : ∀ i x, P (f i x) ↔ Q x) (l : List α) : (∀ y ∈ l.mapIdx f, P y) ↔ ∀ x ∈ l, Q x := by
  induction l generalizing f with
  | nil => simp
  | cons x l ih =>
    rw [List.mapIdx_cons, List.forall_mem_cons, List.forall_mem_cons, h,
      ih fun i x => h (i + 1) x]

/-- What is no part of the beginning of a list without repetitions is its end. -/
theorem filter_notMem_take [DecidableEq α] {l : List α} (h : l.Nodup) (k : ℕ) :
    l.filter (· ∉ l.take k) = l.drop k := by
  have htake : (l.take k).filter (· ∉ l.take k) = [] := by
    rw [List.filter_eq_nil_iff]
    intro x hx
    simp [hx]
  have hdrop : (l.drop k).filter (· ∉ l.take k) = l.drop k := by
    rw [List.filter_eq_self]
    intro x hx
    exact decide_eq_true fun hx' => List.disjoint_take_drop h (le_refl k) hx' hx
  calc l.filter (· ∉ l.take k)
      = (l.take k ++ l.drop k).filter (· ∉ l.take k) := by rw [List.take_append_drop]
    _ = l.drop k := by rw [List.filter_append, htake, hdrop, List.nil_append]

end Pairs

/-! ### Slots -/

section Slots

variable {size : ℕ}

theorem slots_eq_range' (size : ℕ) : slots size = List.range' 1 size := by
  rw [List.range'_eq_map_range, slots]
  apply List.map_congr_left
  intro s _
  exact Nat.add_comm s 1

@[simp] theorem length_slots (size : ℕ) : (slots size).length = size := by
  rw [slots_eq_range', List.length_range']

theorem nodup_slots (size : ℕ) : (slots size).Nodup := by
  rw [slots_eq_range']
  exact List.nodup_range'

/-- Slots one and two meet, three and four, and so on. -/
theorem pairUp_slots (size : ℕ) :
    pairUp (slots size) = (List.range (size / 2)).map fun i => (2 * i + 1, 2 * i + 2) := by
  rw [slots_eq_range', pairUp_range']
  apply List.map_congr_left
  intro i _
  rw [Prod.mk.injEq]
  omega

theorem mem_pairUp_slots {p : ℕ × ℕ} :
    p ∈ pairUp (slots size) ↔ ∃ i < size / 2, (2 * i + 1, 2 * i + 2) = p := by
  rw [pairUp_slots]
  simp only [List.mem_map, List.mem_range]

end Slots

/-! ### The order of the BYEs -/

/-- The slots in the order in which they become BYEs. -/
def byeOrder (size : ℕ) : List ℕ :=
  (byeOrderMap size).getD (byeOrderLoop size size 1 size [])

theorem byeSlots_eq_take (size byeCount : ℕ) :
    byeSlots size byeCount = (byeOrder size).take byeCount := rfl

/-- A table that is full has no BYEs. -/
theorem byeSlots_of_le {size realCount : ℕ} (h : size ≤ realCount) :
    byeSlots size (size - realCount) = [] := by
  rw [Nat.sub_eq_zero_of_le h, byeSlots_eq_take, List.take_zero]

/-- Every order of the table lists the slots. -/
theorem perm_of_byeOrderMap {size : ℕ} {order : List ℕ} (h : byeOrderMap size = some order) :
    order.Perm (slots size) := by
  unfold byeOrderMap at h
  split at h
  case h_7 => cases h
  all_goals
    obtain rfl := Option.some.inj h
    decide +kernel

/-- The loop adds what lies between its two ends. -/
theorem byeOrderLoop_perm {size fuel l r m : ℕ} {order : List ℕ} (hr : r + 1 = l + m)
    (hsize : order.length + m = size) (hfuel : m ≤ 2 * fuel) :
    (byeOrderLoop size fuel l r order).Perm (order ++ List.range' l m) := by
  -- m slots lie between the ends, and each round takes two of them
  induction fuel generalizing l r m order with
  | zero =>
    obtain rfl : m = 0 := by omega
    rw [byeOrderLoop, List.range'_zero, List.append_nil]
  | succ fuel ih =>
    simp only [byeOrderLoop]
    split_ifs with hle hfull
    · -- only one slot is left
      rw [List.length_append, List.length_singleton] at hfull
      obtain rfl : m = 1 := by omega
      obtain rfl : r = l := by omega
      rfl
    · rw [List.length_append, List.length_singleton, not_le] at hfull
      obtain ⟨k, rfl⟩ : ∃ k, m = k + 2 := ⟨m - 2, by omega⟩
      have hlast : l + 1 + k = r := by omega
      have hends : (List.range' l (k + 2)).Perm ([r, l] ++ List.range' (l + 1) k) := by
        rw [List.range'_succ, List.range'_1_concat, hlast]
        exact (List.perm_append_singleton r (l :: List.range' (l + 1) k))
      have hinner := @ih (l + 1) (r - 1) k (order ++ [r] ++ [l]) (by omega)
        (by simp only [List.length_append, List.length_singleton]; omega) (by omega)
      refine hinner.trans ?_
      rw [List.append_assoc, List.append_assoc]
      exact hends.symm.append_left order
    · obtain rfl : m = 0 := by omega
      rw [List.range'_zero, List.append_nil]

/-- **The order lists every slot once**, for tables of every size. -/
theorem byeOrder_perm (size : ℕ) : (byeOrder size).Perm (slots size) := by
  unfold byeOrder
  cases horder : byeOrderMap size with
  | some order => exact perm_of_byeOrderMap horder
  | none =>
    rw [slots_eq_range', Option.getD_none]
    exact byeOrderLoop_perm (by omega) (by simp) (by omega)

/-! ### The free slots -/

section Free

variable {size byeCount : ℕ}

theorem nodup_byeOrder (size : ℕ) : (byeOrder size).Nodup :=
  (byeOrder_perm size).nodup_iff.mpr (nodup_slots size)

@[simp] theorem length_byeOrder (size : ℕ) : (byeOrder size).length = size :=
  (byeOrder_perm size).length_eq.trans (length_slots size)

/-- What is left for the players. -/
theorem length_freeSlots (size byeCount : ℕ) :
    ((slots size).filter (· ∉ byeSlots size byeCount)).length = size - byeCount := by
  rw [← ((byeOrder_perm size).filter _).length_eq, byeSlots_eq_take,
    filter_notMem_take (nodup_byeOrder size), List.length_drop, length_byeOrder]

end Free

/-! ### The players on the free slots -/

/-- Enough players fill the free slots, in their order. -/
theorem exists_assemble {byeSet slots : List ℕ} {players : List Entry}
    (h : (slots.filter (· ∉ byeSet)).length ≤ players.length) :
    ∃ l, assemble byeSet slots players = some l ∧
      l.reduceOption = players.take (slots.filter (· ∉ byeSet)).length := by
  -- the induction follows the slots; a BYE leaves the players as they are
  induction slots generalizing players with
  | nil => exact ⟨[], rfl, rfl⟩
  | cons s rest ih =>
    by_cases hbye : s ∈ byeSet
    · have hfilter : (s :: rest).filter (· ∉ byeSet) = rest.filter (· ∉ byeSet) := by
        simp [hbye]
      rw [hfilter] at h ⊢
      obtain ⟨l, hl, hplayers⟩ := ih h
      refine ⟨none :: l, ?_, ?_⟩
      · simp only [assemble, if_pos hbye, hl, Option.map_some]
      · rw [List.reduceOption_cons_of_none, hplayers]
    · have hfilter : (s :: rest).filter (· ∉ byeSet) = s :: rest.filter (· ∉ byeSet) := by
        simp [hbye]
      rw [hfilter, List.length_cons] at h ⊢
      cases players with
      | nil => cases h
      | cons player players =>
        obtain ⟨l, hl, hplayers⟩ := ih (Nat.le_of_succ_le_succ h)
        refine ⟨some player :: l, ?_, ?_⟩
        · simp only [assemble, if_neg hbye, hl, Option.map_some]
        · rw [List.reduceOption_cons_of_some, hplayers, List.take_succ_cons]

theorem length_assemble {byeSet slots : List ℕ} {players : List Entry} {l : List (Option Entry)}
    (h : assemble byeSet slots players = some l) : l.length = slots.length := by
  simpa using congrArg List.length (isNone_assemble h)

/-! ### How the BYEs are spread -/

/-- No match has a BYE on both sides. -/
def noDoubleBye (size byeCount : ℕ) : Bool :=
  (pairUp (slots size)).all fun (s, s') =>
    s ∉ byeSlots size byeCount || s' ∉ byeSlots size byeCount

section Spread

variable {size byeCount : ℕ}

theorem noDoubleBye_iff : noDoubleBye size byeCount = true ↔
    ∀ i < size / 2, 2 * i + 1 ∈ byeSlots size byeCount → 2 * i + 2 ∉ byeSlots size byeCount := by
  rw [noDoubleBye, List.all_eq_true, pairUp_slots, List.forall_mem_map]
  simp only [List.mem_range, Bool.or_eq_true, decide_eq_true_eq, imp_iff_not_or]

/-- Fewer BYEs are spread no worse. -/
theorem noDoubleBye_of_le {more : ℕ} (h : byeCount ≤ more) (hmore : noDoubleBye size more = true) :
    noDoubleBye size byeCount = true := by
  have hsub : byeSlots size byeCount ⊆ byeSlots size more := by
    rw [byeSlots_eq_take, byeSlots_eq_take]
    exact (List.take_prefix_take_left h).subset
  rw [noDoubleBye_iff] at hmore ⊢
  intro i hi hfirst hsecond
  exact hmore i hi (hsub hfirst) (hsub hsecond)

theorem even_of_isPowerOfTwo (h : size.isPowerOfTwo) (htwo : 2 ≤ size) : size % 2 = 0 := by
  obtain ⟨k, rfl⟩ := h
  cases k with
  | zero => omega
  | succ k => rw [pow_succ, Nat.mul_mod_left]

/-- In the orders of the table, the first slots are on different matches until each match
but one has a BYE. -/
theorem noDoubleBye_of_le_64 (hpow : size.isPowerOfTwo) (hfour : 4 ≤ size) (h : size ≤ 64) :
    noDoubleBye size (size / 2 - 1) = true := by
  obtain ⟨k, rfl⟩ := hpow
  have hlow : 1 < k := (Nat.pow_lt_pow_iff_right (by decide : 1 < 2)).mp (by omega)
  have hhigh : k < 7 := (Nat.pow_lt_pow_iff_right (by decide : 1 < 2)).mp (by omega)
  obtain rfl | rfl | rfl | rfl | rfl : k = 2 ∨ k = 3 ∨ k = 4 ∨ k = 5 ∨ k = 6 := by omega
  all_goals decide +kernel

/-! Larger tables take their slots from the end and the beginning in turn, so the third
BYE joins the first one. -/

theorem prefix_byeOrderLoop (size fuel l r : ℕ) (order : List ℕ) :
    order <+: byeOrderLoop size fuel l r order := by
  induction fuel generalizing l r order with
  | zero => exact List.prefix_rfl
  | succ fuel ih =>
    simp only [byeOrderLoop]
    split_ifs with hle hfull
    · exact List.prefix_append order [r]
    · have hends : order <+: order ++ [r] ++ [l] :=
        (List.prefix_append order [r]).trans (List.prefix_append _ [l])
      exact hends.trans (ih (l + 1) (r - 1) _)
    · exact List.prefix_rfl

theorem byeOrderMap_of_64_lt (h : 64 < size) : byeOrderMap size = none := by
  unfold byeOrderMap
  split
  case h_7 => rfl
  all_goals omega

theorem byeOrder_of_64_lt (h : 64 < size) : [size, 1, size - 1, 2] <+: byeOrder size := by
  obtain ⟨fuel, rfl⟩ : ∃ fuel, size = fuel + 2 := ⟨size - 2, by omega⟩
  rw [byeOrder, byeOrderMap_of_64_lt h, Option.getD_none]
  -- two rounds of the loop
  rw [byeOrderLoop]
  simp only [List.nil_append, List.length_singleton]
  rw [if_pos (by omega), if_neg (by omega), byeOrderLoop]
  simp only [List.cons_append, List.nil_append, List.length_cons, List.length_nil]
  rw [if_pos (by omega), if_neg (by omega)]
  exact prefix_byeOrderLoop _ _ _ _ _

/-- **How a large table spreads its BYEs**: two are on different matches, three are not. -/
theorem noDoubleBye_of_64_lt (h : 64 < size) (heven : size % 2 = 0) :
    noDoubleBye size byeCount = true ↔ byeCount ≤ 2 := by
  obtain ⟨rest, hrest⟩ := byeOrder_of_64_lt h
  rw [noDoubleBye_iff, byeSlots_eq_take, ← hrest]
  constructor
  · intro hall
    by_contra! hthree
    obtain ⟨k, rfl⟩ : ∃ k, byeCount = k + 3 := ⟨byeCount - 3, by omega⟩
    -- the last two slots are the first and the third BYE
    have hlast : 2 * (size / 2 - 1) + 1 = size - 1 ∧ 2 * (size / 2 - 1) + 2 = size := by omega
    have hmatch := hall (size / 2 - 1) (by omega)
    rw [hlast.1, hlast.2] at hmatch
    exact hmatch (by simp) (by simp)
  · intro htwo i hi hfirst hsecond
    have hsub : ∀ s ∈ ([size, 1, size - 1, 2] ++ rest).take byeCount, s = size ∨ s = 1 := by
      intro s hs
      have hs' := (List.take_prefix_take_left htwo).subset hs
      simpa using hs'
    -- the first slot of a match is odd, and both slots would have to be the first or the last
    have hodd := hsub _ hfirst
    have heven' := hsub _ hsecond
    omega

/-- **When the BYEs are spread one per match.** Every table of at most 64 slots does it,
and a larger one exactly if it has at most two BYEs. -/
theorem noDoubleBye_iff_of_isPowerOfTwo {realCount : ℕ} (hpow : size.isPowerOfTwo)
    (hfour : 4 ≤ size) (hlow : size / 2 < realCount) :
    noDoubleBye size (size - realCount) = true ↔ size ≤ 64 ∨ size - realCount ≤ 2 := by
  have heven := even_of_isPowerOfTwo hpow (by omega)
  rcases Nat.lt_or_ge 64 size with hlarge | hsmall
  · rw [noDoubleBye_of_64_lt hlarge heven]
    omega
  · -- fewer than half of the slots are BYEs
    have hhalf := noDoubleBye_of_le_64 hpow hfour hsmall
    exact iff_of_true (noDoubleBye_of_le (by omega) hhalf) (Or.inl hsmall)

/-- A match has no player exactly if two BYEs meet. -/
theorem hasPlayer_firstRound_iff {players : List Entry} {l : List (Option Entry)}
    (h : assemble (byeSlots size byeCount) (slots size) players = some l) :
    (∀ m ∈ firstRound l, m.playerA ≠ none ∨ m.playerB ≠ none) ↔
      noDoubleBye size byeCount = true := by
  have hmatches : (∀ m ∈ firstRound l, m.playerA ≠ none ∨ m.playerB ≠ none) ↔
      ∀ p ∈ pairUp l, p.1.isNone = false ∨ p.2.isNone = false := by
    apply forall_mem_mapIdx
    intro i p
    simp only [ne_eq, Option.map_eq_none_iff, Option.isNone_eq_false_iff, Option.isSome_iff_ne_none]
  have hall : (∀ p ∈ pairUp l, p.1.isNone = false ∨ p.2.isNone = false) ↔
      ((pairUp l).map (Prod.map Option.isNone Option.isNone)).all (fun p => !p.1 || !p.2) =
        true := by
    rw [List.all_eq_true, List.forall_mem_map]
    simp only [Prod.map_fst, Prod.map_snd, Bool.or_eq_true, Bool.not_eq_true']
  rw [hmatches, hall, isNone_pairUp_assemble h, List.all_map, noDoubleBye]
  simp only [Function.comp_def, Prod.map_fst, Prod.map_snd, decide_not]

end Spread

/-- **BYEs are spread one per match in tables of at most 64 slots, and in larger ones with
at most two BYEs.** Whoever stands on the other slots, no match has a BYE on both sides,
and each has a player for the second round, exactly then. -/
theorem byes_spread_iff {size realCount : ℕ} (hpow : size.isPowerOfTwo) (hfour : 4 ≤ size)
    (hlow : size / 2 < realCount) (hhigh : realCount ≤ size) (players : List Entry)
    (hplayers : players.length = realCount) :
    (noDoubleBye size (size - realCount) = true ↔ size ≤ 64 ∨ size - realCount ≤ 2) ∧
      ∃ entriesFinal,
        assemble (byeSlots size (size - realCount)) (slots size) players = some entriesFinal ∧
        ((∀ m ∈ firstRound entriesFinal, m.playerA ≠ none ∨ m.playerB ≠ none) ↔
          size ≤ 64 ∨ size - realCount ≤ 2) := by
  have hspread := noDoubleBye_iff_of_isPowerOfTwo hpow hfour hlow
  have hplaces : ((slots size).filter (· ∉ byeSlots size (size - realCount))).length ≤
      players.length := by
    rw [length_freeSlots]
    omega
  obtain ⟨l, hl, -⟩ := exists_assemble hplaces
  exact ⟨hspread, l, hl, (hasPlayer_firstRound_iff hl).trans hspread⟩

/-- Nine players on 16 slots. -/
theorem byes_spread_iff_nine :
    (noDoubleBye 16 (16 - 9) = true ↔ 16 ≤ 64 ∨ 16 - 9 ≤ 2) ∧
      ∃ entriesFinal,
        assemble (byeSlots 16 (16 - 9)) (slots 16) (List.replicate 9 default) =
          some entriesFinal ∧
        ((∀ m ∈ firstRound entriesFinal, m.playerA ≠ none ∨ m.playerB ≠ none) ↔
          16 ≤ 64 ∨ 16 - 9 ≤ 2) :=
  byes_spread_iff ⟨4, rfl⟩ (by decide) (by decide) (by decide) (List.replicate 9 default) rfl

/-- With 125 players on 128 slots the last match has no player. -/
theorem last_match_without_players :
    (128 : ℕ).isPowerOfTwo ∧ 128 / 2 < 125 ∧ 125 ≤ 128 ∧ noDoubleBye 128 (128 - 125) = false ∧
      ((assemble (byeSlots 128 (128 - 125)) (slots 128) (List.replicate 125 default)).map
        fun l => (firstRound l).map fun m => (m.slotA, m.playerA, m.slotB, m.playerB)).any
          ((127, none, 128, none) ∈ ·) = true :=
  ⟨⟨7, rfl⟩, by decide, by decide, by decide +kernel, by decide +kernel⟩

end Tkdchb
