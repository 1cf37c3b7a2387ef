import Tkdchb.Draws.Locking
import Tkdchb.Draws.Optimiser

/-!
# Everybody has a place

A call of `create_draw_for_group` without a table size of its own takes the next power of
two, so there are as many free slots as players. Such a call succeeds, and its draw is a
complete first round: the matches go through all slots, and each eligible enrollment has
one of them.

The columns of the database are taken to be wide enough for what is stored.

## Main definitions

* `UniqueTogether` — what the uniqueness constraint of draws says
* `DrawCall.References` — what the foreign keys say
* `Draw.seated`, `Draw.IsBracketOf` — a complete first round of some players

## Main results

* `uniqueTogether_step`, `uniqueTogether_run` — calls keep the constraint
* `nextPow2_lt` — the size is no larger than it has to be
* `exists_seeding` — the drawing does not run out of players
* `isBracketOf_newDraw` — a created draw is a bracket of the players who found a place
* `automatic_draw_complete` — a call without a size gives everybody a place
-/

namespace Tkdchb

/-! ### The constraints of the database -/

/-- `unique_together`: a group with an age category has at most one draw. -/
def UniqueTogether (draws : Table Draw) : Prop :=
  ∀ pk pk' draw draw', draws.get pk = some draw → draws.get pk' = some draw' →
    draw.scope = draw'.scope → draw.scope.ageCategory ≠ none → pk = pk'

/-- The competition of an enrollment exists, and so does the age category of the call. -/
structure DrawCall.References (c : DrawCall) : Prop where
  competition : ∀ pk e, c.enrollments.get pk = some e →
    (c.registry.kyorugi e.competition).isSome = true
  ageCategory : ∀ age, c.ageCategoryId = some age → c.hasAgeCategory age = true

section Unique

variable {s : DrawState} {scope : DrawScope}

theorem uniqueTogether_empty : UniqueTogether Table.empty := by
  intro pk pk' draw draw' hget
  cases hget

theorem violatesUnique_eq_false_iff {draws : Table Draw} :
    violatesUnique draws scope = false ↔
      scope.ageCategory ≠ none → ∀ pk draw, draws.get pk = some draw → draw.scope ≠ scope := by
  rw [violatesUnique, Bool.and_eq_false_iff, Option.isSome_eq_false_iff,
    Option.isNone_iff_eq_none, Option.isSome_eq_false_iff, Option.isNone_iff_eq_none,
    Table.oldest_eq_none_iff, or_iff_not_imp_left]
  simp only [decide_eq_false_iff_not, ne_eq]

/-- Without a locked draw, nothing of the group is left when the new draw is inserted. -/
theorem violatesUnique_discardPrevious (hunique : UniqueTogether s.draws)
    (hunlocked : ∀ pk prev, s.previous scope = some (pk, prev) → prev.isLocked = false) :
    violatesUnique (s.discardPrevious scope) scope = false := by
  rw [violatesUnique_eq_false_iff]
  intro hage pk draw hget hscope
  have hget' := get_discardPrevious hget
  have hprev : s.previous scope = some (pk, draw) := by
    apply previous_eq_some_of_alone hget' hscope
    intro pk' draw' hget'' hscope'
    exact hunique pk pk' draw draw' hget' hget'' (hscope.trans hscope'.symm) (hscope ▸ hage)
  simp only [DrawState.discardPrevious, hprev, hunlocked pk draw hprev, Bool.false_eq_true,
    if_false, Table.get_erase_self] at hget
  cases hget

/-- **Every step keeps the constraint.** -/
theorem uniqueTogether_step (a : DrawAction) (hunique : UniqueTogether s.draws) :
    UniqueTogether (drawActionStep a s).draws := by
  cases a with
  | draw c =>
    rw [drawActionStep]
    rcases drawStep_cases c s with heq | ⟨pk, scope, size, entriesFinal, -, hcreated⟩
    · rwa [heq]
    · have hnone := violatesUnique_eq_false_iff.mp hcreated.unique
      rw [hcreated.draws_eq]
      intro pk₁ pk₂ d₁ d₂ h₁ h₂ hscope hage
      rcases Table.get_insert_cases h₁ with hold₁ | ⟨rfl, rfl⟩
      · rcases Table.get_insert_cases h₂ with hold₂ | ⟨rfl, rfl⟩
        · exact hunique pk₁ pk₂ d₁ d₂ (get_discardPrevious hold₁) (get_discardPrevious hold₂)
            hscope hage
        · have hgroup : d₁.scope = scope := hscope
          exact absurd hgroup (hnone (hgroup ▸ hage) pk₁ d₁ hold₁)
      · rcases Table.get_insert_cases h₂ with hold₂ | ⟨rfl, rfl⟩
        · exact absurd hscope.symm (hnone hage pk₂ d₂ hold₂)
        · rfl
  | setLocked pk isLocked =>
    intro pk₁ pk₂ d₁ d₂ h₁ h₂ hscope hage
    obtain ⟨d₁', hget₁, hscope₁⟩ := get_setLocked h₁
    obtain ⟨d₂', hget₂, hscope₂⟩ := get_setLocked h₂
    exact hunique pk₁ pk₂ d₁' d₂' hget₁ hget₂ (hscope₁.trans (hscope.trans hscope₂.symm))
      (hscope₁ ▸ hage)

/-- **The constraint holds in every run of calls.** -/
theorem uniqueTogether_run (acts : List DrawAction) :
    UniqueTogether (Transition.run drawActionStep .empty acts).draws :=
  Transition.run_invariant (I := fun s : DrawState => UniqueTogether s.draws)
    (fun a _ h => uniqueTogether_step a h) uniqueTogether_empty acts

end Unique

/-! ### Sizes -/

section Sizes

variable {bound fuel t n size : ℕ}

theorem isPow2_iff {x : ℤ} : isPow2 x = true ↔ x.toNat.isPowerOfTwo := by
  rw [← Nat.ne_zero_and_sub_one_eq_zero_iff_isPowerOfTwo, isPow2, Bool.and_eq_true,
    decide_eq_true_eq, beq_iff_eq]
  refine and_congr_left fun _ => ?_
  omega

/-- What doubling below the bound preserves holds when the loop stops. -/
theorem nextPow2Loop_invariant {P : ℕ → Prop} (hstep : ∀ t, t < bound → P t → P (t * 2))
    (h : P t) : P (nextPow2Loop bound fuel t) := by
  induction fuel generalizing t with
  | zero => exact h
  | succ fuel ih =>
    rw [nextPow2Loop]
    split_ifs with hlt
    · apply ih
      rw [Nat.shiftLeft_eq, pow_one]
      exact hstep t hlt h
    · exact h

theorem isPowerOfTwo_nextPow2Loop (h : t.isPowerOfTwo) :
    (nextPow2Loop bound fuel t).isPowerOfTwo :=
  nextPow2Loop_invariant (fun _ _ => Nat.isPowerOfTwo_mul_two_of_isPowerOfTwo) h

/-- The loop stops as soon as it can. -/
theorem nextPow2Loop_lt (h : t < 2 * bound) : nextPow2Loop bound fuel t < 2 * bound :=
  nextPow2Loop_invariant (P := (· < 2 * bound)) (fun t hlt _ => by omega) h

theorem isPowerOfTwo_nextPow2 (n : ℕ) : (nextPow2 n).isPowerOfTwo :=
  isPowerOfTwo_nextPow2Loop Nat.isPowerOfTwo_one

theorem nextPow2_lt (h : 2 ≤ n) : nextPow2 n < 2 * n := by
  have hmax : max n 2 = n := max_eq_left h
  rw [nextPow2, hmax]
  exact nextPow2Loop_lt (by omega)

/-- Every size that is taken is a power of two, and for few players it is large enough. -/
theorem tableSize_spec {sizeOverride : Option ℤ} (h : tableSize sizeOverride n = .ok size) :
    size.isPowerOfTwo ∧ 2 ≤ size ∧ (1 ≤ n → n ≤ 4 → 4 ≤ size) := by
  have htwo : (2 : ℕ).isPowerOfTwo := ⟨1, rfl⟩
  have hfour : (4 : ℕ).isPowerOfTwo := ⟨2, rfl⟩
  unfold tableSize at h
  cases sizeOverride with
  | none =>
    simp only [Except.ok.injEq] at h
    subst h
    split_ifs with hfew
    · exact ⟨hfour, by decide, fun _ _ => le_refl 4⟩
    · have hbound : max n 2 ≤ nextPow2 n := le_nextPow2Loop one_pos (by omega)
      exact ⟨isPowerOfTwo_nextPow2 n, by omega, fun h1 h4 => absurd ⟨h1, h4⟩ hfew⟩
  | some k =>
    simp only at h
    split_ifs at h with hpow hfew
    · obtain rfl := Except.ok.inj h
      refine ⟨?_, by omega, fun _ _ => le_max_right _ _⟩
      rcases max_choice k.toNat 4 with hmax | hmax
      · rw [hmax]
        exact isPow2_iff.mp (by simpa using hpow)
      · rw [hmax]
        exact hfour
    · obtain rfl := Except.ok.inj h
      refine ⟨?_, le_max_right _ _, fun h1 h4 => absurd ⟨h1, h4⟩ hfew⟩
      rcases max_choice k.toNat 2 with hmax | hmax
      · rw [hmax]
        exact isPow2_iff.mp (by simpa using hpow)
      · rw [hmax]
        exact htwo

/-- Without an override the size is large enough, and for many players not twice so. -/
theorem tableSize_none (h : tableSize none n = .ok size) :
    n ≤ size ∧ (4 < n → size < 2 * n) := by
  simp only [tableSize, Except.ok.injEq] at h
  subst h
  split_ifs with hfew
  · omega
  · refine ⟨le_nextPow2 n, ?_⟩
    intro hmany
    exact nextPow2_lt (by omega)

/-- The size is settled if there are players and the override is a power of two. -/
theorem exists_tableSize (sizeOverride : Option ℤ) (n : ℕ)
    (h : ∀ k, sizeOverride = some k → isPow2 k = true) :
    ∃ size, tableSize sizeOverride n = .ok size := by
  cases sizeOverride with
  | none => exact ⟨_, rfl⟩
  | some k =>
    refine ⟨max k.toNat (if 1 ≤ n ∧ n ≤ 4 then 4 else 2), ?_⟩
    simp [tableSize, h k rfl]

end Sizes

/-! ### The drawing -/

section Drawing

variable {c : DrawCall}

/-- `best_order`, for a table of the given size. -/
def DrawCall.bestOrder (c : DrawCall) (historyPairs : List PlayerPair) (size : ℕ) : List Entry :=
  let byeSet := byeSlots size (size - c.entries.length)
  bestOrderByPenaltyOnSlots
    (orderCostForSlots ((slots size).filter (· ∉ byeSet)) size c.entries.length c.clubThreshold
      historyPairs)
    c.shuffle c.shuffleAttempts c.entries

theorem bestOrder_perm_entries (hshuffle : ∀ i l, (c.shuffle i l).Perm l)
    (historyPairs : List PlayerPair) (size : ℕ) :
    (c.bestOrder historyPairs size).Perm c.entries :=
  bestOrder_perm fun i => hshuffle i c.entries

/-- **The drawing never runs out of players.** The free slots get the first players of the
order that was chosen. -/
theorem exists_seeding (hshuffle : ∀ i l, (c.shuffle i l).Perm l) (historyPairs : List PlayerPair)
    (size : ℕ) :
    ∃ l, c.seeding historyPairs size = some l ∧
      l.reduceOption =
        (c.bestOrder historyPairs size).take (size - (size - c.entries.length)) := by
  have hplaces := length_freeSlots size (size - c.entries.length)
  have henough : ((slots size).filter (· ∉ byeSlots size (size - c.entries.length))).length ≤
      (c.bestOrder historyPairs size).length := by
    rw [hplaces, (bestOrder_perm_entries hshuffle historyPairs size).length_eq]
    omega
  rw [← hplaces]
  exact exists_assemble henough

theorem length_seeding {historyPairs : List PlayerPair} {size : ℕ} {l : List (Option Entry)}
    (h : c.seeding historyPairs size = some l) : l.length = size :=
  (length_assemble h).trans (length_slots size)

/-- A size that is large enough leaves nobody out. -/
theorem seeding_perm (hshuffle : ∀ i l, (c.shuffle i l).Perm l) {historyPairs : List PlayerPair}
    {size : ℕ} {l : List (Option Entry)} (h : c.seeding historyPairs size = some l)
    (hroom : c.entries.length ≤ size) : l.reduceOption.Perm c.entries := by
  have hperm := bestOrder_perm_entries hshuffle historyPairs size
  obtain ⟨l', hl', htaken⟩ := exists_seeding hshuffle historyPairs size
  obtain rfl : l = l' := Option.some.inj (h.symm.trans hl')
  rw [htaken, List.take_of_length_le (by rw [hperm.length_eq]; omega)]
  exact hperm

/-- A size that is too small leaves someone out. -/
theorem length_seeding_of_lt (hshuffle : ∀ i l, (c.shuffle i l).Perm l)
    {historyPairs : List PlayerPair} {size : ℕ} {l : List (Option Entry)}
    (h : c.seeding historyPairs size = some l) (htight : size < c.entries.length) :
    l.reduceOption.length = size := by
  have hperm := bestOrder_perm_entries hshuffle historyPairs size
  obtain ⟨l', hl', htaken⟩ := exists_seeding hshuffle historyPairs size
  obtain rfl : l = l' := Option.some.inj (h.symm.trans hl')
  rw [htaken, List.length_take, hperm.length_eq]
  omega

end Drawing

/-! ### The first round -/

/-- The players on the slots of the first round. -/
def Draw.seated (draw : Draw) : List ℤ :=
  ((draw.matchRows.filter fun m => m.roundNo = 1).flatMap fun m =>
    [m.playerA, m.playerB]).reduceOption

/-- A complete first round: the matches go through the slots of the table, two for each, the
players stand on some slots, and a match is a BYE if one of its slots is empty. -/
structure Draw.IsBracketOf (draw : Draw) (players : List ℤ) : Prop where
  length_matchRows : draw.matchRows.length = draw.size / 2
  roundNo_eq : ∀ m ∈ draw.matchRows, m.roundNo = 1
  slots_eq : (draw.matchRows.map fun m => (m.slotA, m.slotB)) =
    (List.range (draw.size / 2)).map fun k => (2 * k + 1, 2 * k + 2)
  slots_partition : (draw.matchRows.flatMap fun m => [m.slotA, m.slotB]) = slots draw.size
  seated_perm : draw.seated.Perm players
  isBye_iff : ∀ m ∈ draw.matchRows, m.isBye = true ↔ m.playerA = none ∨ m.playerB = none

theorem Draw.IsBracketOf.of_perm {draw : Draw} {players players' : List ℤ}
    (h : draw.IsBracketOf players) (hperm : players.Perm players') : draw.IsBracketOf players' :=
  { h with seated_perm := h.seated_perm.trans hperm }

section FirstRound

variable {l : List (Option Entry)} {m : Match}

theorem isBye_iff_of_mem_firstRound (h : m ∈ firstRound l) :
    m.isBye = true ↔ m.playerA = none ∨ m.playerB = none := by
  obtain ⟨i, hi, rfl⟩ := mem_firstRound.mp h
  simp only [Bool.or_eq_true, Option.isNone_iff_eq_none, Option.map_eq_none_iff]

theorem slots_firstRound (l : List (Option Entry)) :
    ((firstRound l).map fun m => (m.slotA, m.slotB)) = pairUp (slots l.length) := by
  rw [pairUp_slots]
  apply List.ext_getElem
  · simp [firstRound, length_pairUp]
  · intro i h h'
    simp [firstRound]

theorem players_firstRound (heven : l.length % 2 = 0) :
    ((firstRound l).flatMap fun m => [m.playerA, m.playerB]) =
      l.map (Option.map Entry.playerId) := by
  have hpairs : ((firstRound l).map fun m => [m.playerA, m.playerB]) =
      (pairUp l).map fun p => [p.1.map Entry.playerId, p.2.map Entry.playerId] := by
    apply List.ext_getElem
    · simp [firstRound]
    · intro i h h'
      simp [firstRound]
  rw [List.flatMap_def, hpairs, ← List.flatMap_def]
  -- taking neighbours apart again gives the whole table
  conv_rhs => rw [← flatMap_pairUp heven, List.map_flatMap]
  rfl

variable {c : DrawCall} {scope : DrawScope} {size : ℕ}

theorem seated_newDraw (heven : l.length % 2 = 0) :
    (c.newDraw scope size l).seated = l.reduceOption.map Entry.playerId := by
  rw [Draw.seated, DrawCall.newDraw, filter_roundNo_firstRound, players_firstRound heven,
    List.reduceOption_map]

/-- **A created draw is a first round of the players on its table.** -/
theorem isBracketOf_newDraw (hsize : l.length = size) (heven : size % 2 = 0) :
    (c.newDraw scope size l).IsBracketOf (l.reduceOption.map Entry.playerId) where
  length_matchRows := by
    rw [DrawCall.newDraw, firstRound, List.length_mapIdx, length_pairUp, hsize]
  roundNo_eq m hm := roundNo_of_mem_firstRound hm
  slots_eq := by
    rw [← pairUp_slots]
    exact hsize ▸ slots_firstRound l
  slots_partition := by
    have hslots := slots_firstRound l
    rw [hsize] at hslots
    have hflat : ((firstRound l).flatMap fun m => [m.slotA, m.slotB]) =
        ((firstRound l).map fun m => (m.slotA, m.slotB)).flatMap fun p => [p.1, p.2] := by
      rw [List.flatMap_map]
    rw [DrawCall.newDraw, hflat, hslots]
    exact flatMap_pairUp (by rw [length_slots, heven])
  seated_perm := by rw [seated_newDraw (by rw [hsize, heven])]
  isBye_iff m hm := isBye_iff_of_mem_firstRound hm

end FirstRound

/-! ### The call -/

section Calls

variable {c : DrawCall} {s s' : DrawState} {pk size : ℕ} {scope : DrawScope}
  {l : List (Option Entry)}

/-- The newest draw of the group, if there is one, is not locked. -/
def DrawCall.PreviousUnlocked (c : DrawCall) (s : DrawState) : Prop :=
  ∀ scope pk prev, c.scope = some scope → s.previous scope = some (pk, prev) →
    prev.isLocked = false

theorem ageCategory_scope (h : c.scope = some scope) : scope.ageCategory = c.ageCategoryId := by
  obtain ⟨comp, -, rfl⟩ := Option.map_eq_some_iff.mp h
  rfl

/-- A group with an entry is one of a competition that exists. -/
theorem exists_scope (hrefs : c.References) (hentries : c.entries ≠ []) :
    ∃ scope, c.scope = some scope := by
  obtain ⟨entry, hentry⟩ := List.exists_mem_of_ne_nil _ hentries
  obtain ⟨⟨k, e⟩, hrow, -⟩ := List.mem_map.mp hentry
  obtain ⟨hget, hgroup⟩ := Table.mem_select_iff.mp hrow
  simp only [Bool.and_eq_true, beq_iff_eq] at hgroup
  have hcomp := hrefs.competition k e hget
  rw [hgroup.1.1.1] at hcomp
  obtain ⟨comp, hcomp'⟩ := Option.isSome_iff_exists.mp hcomp
  exact ⟨_, by rw [DrawCall.scope, hcomp', Option.map_some]⟩

theorem size_eq_tableSize (hentries : c.entries ≠ []) :
    c.size = tableSize c.sizeOverride c.entries.length := by
  have hpos := List.length_pos_iff.mpr hentries
  rw [DrawCall.size, if_neg (by omega)]

theorem entries_ne_nil_of_size (h : c.size = .ok size) : c.entries ≠ [] := by
  intro hnil
  simp [DrawCall.size, hnil] at h

theorem size_spec (h : c.size = .ok size) :
    size.isPowerOfTwo ∧ 2 ≤ size ∧ (c.entries.length ≤ 4 → 4 ≤ size) := by
  have hentries := entries_ne_nil_of_size h
  rw [size_eq_tableSize hentries] at h
  obtain ⟨hpow, htwo, hfew⟩ := tableSize_spec h
  exact ⟨hpow, htwo, hfew (List.length_pos_iff.mpr hentries)⟩

/-- The history takes the pairs of a table, if there are none or the group has an age
category. -/
theorem exists_recordPairs (hscope : c.scope = some scope)
    (hseed : c.seeding (pairsIn s.history scope.pairScope) size = some l)
    (hpairs : c.ageCategoryId ≠ none ∨ hasOpenMatch size c.entries.length = false) :
    ∃ history, recordPairs c scope.pairScope s.history (realPairs l) = .ok history := by
  rcases hpairs with hage | hclosed
  · obtain ⟨age, hage'⟩ := Option.ne_none_iff_exists'.mp hage
    rw [DrawScope.pairScope, ageCategory_scope hscope, hage', Option.map_some]
    cases realPairs l with
    | nil => exact ⟨_, rfl⟩
    | cons pair pairs => exact ⟨_, rfl⟩
  · rw [(realPairs_eq_nil_iff hseed).mpr hclosed]
    exact ⟨_, rfl⟩

/-- **Nothing else can go wrong**: a call whose size is accepted, for a group without a
locked draw, returns if the history takes its pairs. -/
theorem createDrawForGroup_of_recordable (hshuffle : ∀ i l, (c.shuffle i l).Perm l)
    (hrefs : c.References) (hunique : UniqueTogether s.draws) (hscope : c.scope = some scope)
    (hsize : c.size = .ok size) (hunlocked : c.PreviousUnlocked s)
    (hpairs : c.ageCategoryId ≠ none ∨ hasOpenMatch size c.entries.length = false) :
    ∃ pk s', createDrawForGroup c s = .ok (pk, s') := by
  obtain ⟨l, hseed, -⟩ := exists_seeding hshuffle (pairsIn s.history scope.pairScope) size
  have hviolates := violatesUnique_discardPrevious hunique fun pk prev hprev =>
    hunlocked scope pk prev hscope hprev
  have hexists : c.ageCategoryId.any (!c.hasAgeCategory ·) = false := by
    cases hage : c.ageCategoryId with
    | none => rfl
    | some age =>
      rw [Option.any_some, hrefs.ageCategory age hage]
      rfl
  obtain ⟨history, hhistory⟩ := exists_recordPairs hscope hseed hpairs
  refine ⟨s.draws.next, ⟨(s.discardPrevious scope).insert (c.newDraw scope size l),
    cleanupPairHistory c.today history⟩, ?_⟩
  simp [createDrawForGroup, hscope, hsize, hseed, hviolates, hexists, hhistory, bind,
    Except.bind, pure, Except.pure]

/-- A group with an age category has a history that takes every pair. -/
theorem createDrawForGroup_of_unlocked (hshuffle : ∀ i l, (c.shuffle i l).Perm l)
    (hrefs : c.References) (hunique : UniqueTogether s.draws) (hscope : c.scope = some scope)
    (hsize : c.size = .ok size) (hage : c.ageCategoryId ≠ none) (hunlocked : c.PreviousUnlocked s) :
    ∃ pk s', createDrawForGroup c s = .ok (pk, s') :=
  createDrawForGroup_of_recordable hshuffle hrefs hunique hscope hsize hunlocked (.inl hage)

/-- A created draw has one match for two slots, and a bracket of those on its table. -/
theorem DrawCall.Created.isBracketOf (h : c.Created s pk s' scope size l) :
    (c.newDraw scope size l).IsBracketOf (l.reduceOption.map Entry.playerId) := by
  obtain ⟨hpow, htwo, -⟩ := size_spec h.size_eq
  exact isBracketOf_newDraw (length_seeding h.seeding_eq) (even_of_isPowerOfTwo hpow htwo)

/-- The cost that a call has accepted is that of the matches of its draw. -/
theorem DrawCall.Created.cost_eq (h : c.Created s pk s' scope size l) :
    orderCostForSlots ((slots size).filter (· ∉ byeSlots size (size - c.entries.length))) size
        c.entries.length c.clubThreshold (pairsIn s.history scope.pairScope)
        (c.bestOrder (pairsIn s.history scope.pairScope) size) =
      ((meetings l).map fun (a, b) => pairCost c.entries.length c.clubThreshold
        (pairsIn s.history scope.pairScope) a b).sum :=
  orderCostForSlots_eq h.seeding_eq _ _ _

end Calls

theorem previousUnlocked_empty (c : DrawCall) : c.PreviousUnlocked .empty := by
  intro scope pk prev _ hprev
  have hget := (previous_spec hprev).1
  cases hget

theorem references_groupCall (ageCategoryId : Option ℕ) (players : List ℤ) (today : ℕ × ℕ) :
    (groupCall ageCategoryId players today).References where
  competition _ _ _ := rfl
  ageCategory _ _ := rfl

end Tkdchb
