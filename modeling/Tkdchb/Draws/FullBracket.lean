import Mathlib.Tactic.Ring
import Tkdchb.Draws.Publishing

/-!
# A draw with all its rounds

The table of a created draw has a power of two of slots, and its matches are the first
round. Filling up its rounds appends half as many matches from round to round, down to the
final: of a table of `2 ^ k` slots, round `r` has `2 ^ (k - r)` matches, and all but the
first of its `k` rounds are empty.

## Main definitions

* `Draw.Made` — what holds of a draw that was created, with the number of its rounds
* `Bracket.MadeAs` — a draw that was created, maybe numbered or filled up since

## Main results

* `Draw.Made.missing_eq` — the matches of the later rounds
* `Draw.Made.countInRound_eq` — half as many matches from round to round
* `madeAs_numbered` — a numbering leaves created draws as they were made
-/

namespace Tkdchb

open Transition NumberingState

/-! ### The rounds of a power of two -/

/-- Doubling from `2 ^ j` reaches `2 ^ k` after `k - j` times. -/
theorem roundsCountLoop_two_pow {k j fuel : ℕ} (hle : j ≤ k) (hfuel : k ≤ j + fuel) :
    Bracket.roundsCountLoop (2 ^ k) fuel (2 ^ j) = k - j := by
  induction fuel generalizing j with
  | zero => rw [Bracket.roundsCountLoop]; omega
  | succ fuel ih =>
    rw [Bracket.roundsCountLoop]
    split_ifs with hlt
    · have hjk : j < k := (Nat.pow_lt_pow_iff_right Nat.one_lt_two).mp hlt
      have hdouble : 2 ^ j <<< 1 = 2 ^ (j + 1) := by rw [Nat.shiftLeft_eq, pow_one, pow_succ]
      rw [hdouble, ih hjk (by omega)]
      omega
    · have hkj : k ≤ j := by
        by_contra! hlt'
        exact hlt (Nat.pow_lt_pow_right Nat.one_lt_two hlt')
      omega

theorem roundsCount_two_pow (k : ℕ) : Bracket.roundsCount (2 ^ k) = k := by
  have hfuel : k ≤ 0 + 2 ^ k := by
    rw [zero_add]
    exact Nat.lt_two_pow_self.le
  exact roundsCountLoop_two_pow (Nat.zero_le k) hfuel

/-- Half as many matches are expected from round to round. -/
theorem expectedIn_two_pow {k step : ℕ} (h : step + 1 ≤ k) :
    Bracket.expectedIn (2 ^ k) step = 2 ^ (k - 1 - step) := by
  rw [Bracket.expectedIn, Nat.pow_div h Nat.two_pos, Nat.sub_add_eq, Nat.sub_right_comm]
  exact max_eq_right (Nat.two_pow_pos _)

/-- The rounds after the first have one match less than the first. -/
theorem sum_later_rounds (k : ℕ) :
    ((List.range' 1 k).map fun step => 2 ^ (k - step)).sum = 2 ^ k - 1 := by
  induction k with
  | zero => rfl
  | succ k ih =>
    have hrange : List.range' 2 k = (List.range' 1 k).map (1 + ·) := by
      rw [List.map_add_range']
    have hshift : (List.range' 2 k).map (fun step => 2 ^ (k + 1 - step)) =
        (List.range' 1 k).map fun step => 2 ^ (k - step) := by
      rw [hrange, List.map_map]
      apply List.map_congr_left
      intro step _
      rw [Function.comp_apply, Nat.add_comm k 1, Nat.add_sub_add_left]
    have hpos : 0 < 2 ^ k := Nat.two_pow_pos k
    rw [List.range'_succ, List.map_cons, List.sum_cons, hshift, ih, pow_succ]
    simp only [Nat.add_sub_cancel]
    omega

/-! ### Created draws -/

/-- What holds of a created draw whose table has `rounds` rounds. -/
structure Draw.Made (draw : Draw) (rounds : ℕ) : Prop extends draw.Drawn where
  rounds_pos : 0 < rounds
  size_eq : draw.size = 2 ^ rounds
  isBracket : draw.IsBracketOf draw.seated

theorem DrawCall.Created.exists_made {c : DrawCall} {d d' : DrawState} {pk size : ℕ}
    {scope : DrawScope} {l : List (Option Entry)} (h : c.Created d pk d' scope size l) :
    ∃ rounds, (c.newDraw scope size l).Made rounds := by
  obtain ⟨⟨rounds, hrounds⟩, htwo, -⟩ := size_spec h.size_eq
  have hpos : 0 < rounds := by
    rcases Nat.eq_zero_or_pos rounds with rfl | hpos
    · omega
    · exact hpos
  exact ⟨rounds, drawn_newDraw h.size_eq h.seeding_eq, hpos, hrounds,
    h.isBracketOf.of_perm h.isBracketOf.seated_perm.symm⟩

namespace Draw.Made

variable {draw : Draw} {rounds : ℕ}

theorem baseRound (h : draw.Made rounds) : draw.bracket.baseRound = 1 := by
  simp [Bracket.baseRound, h.toDrawn.firstRoundNo]

theorem totalSize (h : draw.Made rounds) : draw.bracket.totalSize = 2 ^ rounds := by
  have hsize : draw.bracket.size = 2 ^ rounds := h.size_eq
  rw [Bracket.totalSize, if_neg (by rw [hsize]; exact (Nat.two_pow_pos _).ne'), hsize]

/-- A created draw has no match after the first round. -/
theorem countInRound_later (h : draw.Made rounds) {r : ℕ} (hr : r ≠ 1) :
    draw.bracket.countInRound r = 0 := by
  rw [Bracket.countInRound, List.countP_eq_zero]
  intro m' hm'
  obtain ⟨m, hm, rfl⟩ := List.mem_map.mp hm'
  simp [Match.bout, h.round m hm, hr.symm]

theorem countInRound_first (h : draw.Made rounds) :
    draw.bracket.countInRound 1 = 2 ^ (rounds - 1) := by
  have hall : ∀ m ∈ draw.bracket.bouts, decide (m.roundNo = 1) = true := by
    intro m' hm'
    obtain ⟨m, hm, rfl⟩ := List.mem_map.mp hm'
    exact decide_eq_true (h.round m hm)
  rw [Bracket.countInRound, List.countP_eq_length.mpr hall, Draw.bracket, List.length_map,
    h.isBracket.length_matchRows, h.size_eq]
  exact Nat.pow_div h.rounds_pos Nat.two_pos

/-- **The matches of the later rounds**, half as many from round to round. -/
theorem missing_eq (h : draw.Made rounds) :
    draw.bracket.missing = (List.range' 1 (rounds - 1)).flatMap fun step =>
      (List.range (2 ^ (rounds - 1 - step))).map (Bracket.emptyBout (1 + step)) := by
  rw [Bracket.missing, h.baseRound, h.totalSize, roundsCount_two_pow]
  apply List.flatMap_congr
  intro step hstep
  rw [List.mem_range'_1] at hstep
  rw [Bracket.missingIn, h.countInRound_later (by omega), expectedIn_two_pow (by omega),
    List.range_eq_range', Nat.sub_zero]

theorem length_missing (h : draw.Made rounds) :
    draw.bracket.missing.length = 2 ^ (rounds - 1) - 1 := by
  rw [h.missing_eq, List.length_flatMap]
  simp only [List.length_map, List.length_range]
  exact sum_later_rounds (rounds - 1)

/-- A match of a later round. -/
theorem mem_missing_iff (h : draw.Made rounds) {m : Bout} :
    m ∈ draw.bracket.missing ↔ ∃ r idx, 2 ≤ r ∧ r ≤ rounds ∧ idx < 2 ^ (rounds - r) ∧
      m = Bracket.emptyBout r idx := by
  rw [h.missing_eq]
  simp only [List.mem_flatMap, List.mem_range'_1, List.mem_map, List.mem_range]
  constructor
  · rintro ⟨step, hstep, idx, hidx, rfl⟩
    refine ⟨1 + step, idx, by omega, by omega, ?_, rfl⟩
    rwa [Nat.sub_add_eq]
  · rintro ⟨r, idx, hlow, hhigh, hidx, rfl⟩
    refine ⟨r - 1, by omega, idx, ?_, by rw [Nat.add_sub_cancel' (by omega)]⟩
    rwa [Nat.sub_sub, Nat.add_sub_cancel' (by omega)]

/-- The matches of one of the later rounds. -/
theorem filter_missing (h : draw.Made rounds) {r : ℕ} (hlow : 2 ≤ r) (hhigh : r ≤ rounds) :
    draw.bracket.missing.filter (fun m => m.roundNo = r) =
      (List.range (2 ^ (rounds - r))).map (Bracket.emptyBout r) := by
  have hstep : r - 1 ∈ List.range' 1 (Bracket.roundsCount draw.bracket.totalSize - 1) := by
    rw [h.totalSize, roundsCount_two_pow, List.mem_range'_1]
    omega
  have hr : 1 + (r - 1) = r := by omega
  have hfilter := Bracket.filter_missing hstep
  rw [h.baseRound, hr, h.totalSize, expectedIn_two_pow (by omega), Nat.sub_sub, hr] at hfilter
  rw [hfilter, Bracket.missingIn, h.countInRound_later (by omega), List.range_eq_range',
    Nat.sub_zero]

/-- The first round is never appended. -/
theorem filter_missing_first (h : draw.Made rounds) :
    draw.bracket.missing.filter (fun m => m.roundNo = 1) = [] := by
  rw [List.filter_eq_nil_iff]
  intro m hm
  obtain ⟨r, idx, hr, -, -, rfl⟩ := h.mem_missing_iff.mp hm
  have hne : r ≠ 1 := by omega
  exact fun hround => hne (of_decide_eq_true hround)

/-- **Half as many matches from round to round.** -/
theorem countInRound_eq (h : draw.Made rounds) {r : ℕ} (hlow : 1 ≤ r) (hhigh : r ≤ rounds) :
    draw.bracket.ensureRoundsExist.countInRound r = 2 ^ (rounds - r) := by
  rw [Bracket.countInRound_ensureRoundsExist, List.countP_eq_length_filter]
  rcases Nat.eq_or_lt_of_le hlow with rfl | hlater
  · rw [h.countInRound_first, h.filter_missing_first, List.length_nil, Nat.add_zero]
  · rw [h.countInRound_later (by omega), h.filter_missing hlater hhigh, List.length_map,
      List.length_range, Nat.zero_add]

/-- The matches of the filled draw that get a number, if it has two players. -/
theorem numberedCount_eq (h : draw.Made rounds) :
    draw.bracket.ensureRoundsExist.numberedCount =
      (draw.matchRows.countP fun m => !m.isBye) + (2 ^ (rounds - 1) - 1) := by
  have hfirst : draw.bracket.ensureRoundsExist.firstRoundNo = some 1 := by
    rw [Bracket.firstRoundNo_ensureRoundsExist h.toDrawn.bouts_ne_nil, h.toDrawn.firstRoundNo]
  have hopen : draw.bracket.missing.countP
      (fun m => !(m.isBye && decide (some 1 = some m.roundNo))) = 2 ^ (rounds - 1) - 1 := by
    rw [← h.length_missing, List.countP_eq_length]
    intro m hm
    obtain ⟨r, idx, -, -, -, rfl⟩ := h.mem_missing_iff.mp hm
    rfl
  have hround : draw.bracket.bouts.countP (fun m => !(m.isBye && decide (some 1 = some m.roundNo))) =
      draw.matchRows.countP fun m => !m.isBye := by
    rw [Draw.bracket, List.countP_map]
    apply List.countP_congr
    intro m hm
    simp [Match.bout, h.round m hm]
  rw [Bracket.numberedCount, hfirst, Bracket.bouts_ensureRoundsExist, List.countP_append, hround,
    hopen]

end Draw.Made

/-! ### Created draws later on -/

namespace Bracket

variable {b b' : Bracket} {draw : Draw}

/-- A draw that was created as `draw`. Since then rounds may have been filled up and matches
numbered. -/
structure MadeAs (b : Bracket) (draw : Draw) : Prop where
  drawn : draw.Drawn
  scope : b.scope = draw.scope
  outline : b.ensureRoundsExist.outline = draw.bracket.ensureRoundsExist.outline

theorem madeAs_bracket (h : draw.Drawn) : draw.bracket.MadeAs draw := ⟨h, rfl, rfl⟩

namespace MadeAs

theorem firstRoundNo_full (h : b.MadeAs draw) : b.ensureRoundsExist.firstRoundNo = some 1 := by
  rw [← firstRoundNo_outline, h.outline, firstRoundNo_outline,
    firstRoundNo_ensureRoundsExist h.drawn.bouts_ne_nil, h.drawn.firstRoundNo]

/-- The first round is not one that was filled up. -/
theorem bouts_ne_nil (h : b.MadeAs draw) : b.bouts ≠ [] := by
  obtain ⟨⟨m, hm, hround⟩, -⟩ := firstRoundNo_eq_some_iff.mp h.firstRoundNo_full
  rw [bouts_ensureRoundsExist] at hm
  rcases List.mem_append.mp hm with hold | hnew
  · exact List.ne_nil_of_mem hold
  · obtain ⟨step, idx, hstep, rfl⟩ := mem_missing hnew
    have hbase : 0 < b.baseRound := by
      unfold baseRound
      split
      · exact one_pos
      · split_ifs with hzero
        · exact one_pos
        · exact Nat.pos_of_ne_zero hzero
    simp only [emptyBout] at hround
    omega

theorem firstRoundNo (h : b.MadeAs draw) : b.firstRoundNo = some 1 := by
  rw [← firstRoundNo_ensureRoundsExist h.bouts_ne_nil, h.firstRoundNo_full]

theorem realPlayersCount (h : b.MadeAs draw) :
    b.realPlayersCount = draw.bracket.realPlayersCount := by
  rw [← realPlayersCount_ensureRoundsExist, ← realPlayersCount_outline, h.outline,
    realPlayersCount_outline, realPlayersCount_ensureRoundsExist]

theorem hasRealMatch_iff (h : b.MadeAs draw) :
    b.ensureRoundsExist.hasRealMatch = true ↔ 2 ≤ b.realPlayersCount := by
  rw [← hasRealMatch_outline, h.outline, hasRealMatch_outline, h.drawn.hasRealMatch_iff,
    h.realPlayersCount]

/-- What is read of the draw stays as it was made. -/
theorem of_outline (h : b.MadeAs draw) (hscope : b'.scope = b.scope)
    (houtline : b'.outline = b.outline ∨ b'.outline = b.outline.ensureRoundsExist) :
    b'.MadeAs draw := by
  refine ⟨h.drawn, hscope.trans h.scope, ?_⟩
  rw [← h.outline, ← ensureRoundsExist_outline, ← ensureRoundsExist_outline]
  rcases houtline with heq | heq
  · rw [heq]
  · have hne : b.outline.bouts ≠ [] := by
      rw [Bracket.outline, ne_eq, List.map_eq_nil_iff]
      exact h.bouts_ne_nil
    rw [heq, ensureRoundsExist_idem hne]

end MadeAs

/-- The matches that get a number are counted on the outline. -/
theorem numberedCount_congr (h : b'.outline = b.outline) : b'.numberedCount = b.numberedCount := by
  rw [← length_numberedPositions, ← length_numberedPositions, numberedPositions, numberedPositions,
    h]

end Bracket

section Called

variable {s : NumberingState} {competitionId : ℕ} {weightIds : List ℕ} {clearPrev : Bool}
  {w2m : ℕ → Option ℕ} {pk i matNo : ℕ} {b b' : Bracket} {draw : Draw} {m : Bout}

/-- **A numbering leaves created draws as they were made.** -/
theorem madeAs_numbered (h : b.MadeAs draw) (hb : s.draws.get pk = some b)
    (hb' : (s.numbered competitionId weightIds clearPrev w2m).draws.get pk = some b') :
    b'.MadeAs draw := by
  have houtline : ((s.numbered competitionId weightIds clearPrev w2m).draws.get pk).map
      Bracket.outline = _ := outline_numbered w2m hb
  rw [hb', Option.map_some, Option.some.injEq] at houtline
  have hscope : b'.scope = b.scope := by
    obtain ⟨b₀, hb₀, hscope⟩ := scope_numbered hb'
    obtain rfl := Option.some.inj (hb.symm.trans hb₀)
    exact hscope.symm
  apply h.of_outline hscope
  split_ifs at houtline
  · exact .inr (houtline.trans (Bracket.outline_prepare clearPrev))
  · exact .inl houtline

/-- The number a match has after a call that found it without one. -/
theorem matchNumber_numbered_iff (hb : s.draws.get pk = some b)
    (hsel : Selects competitionId weightIds b) (hmat : w2m b.scope.weightCategory = some matNo)
    (hold : clearPrev = true ∨ ∀ m ∈ b.bouts, m.matchNumber = none)
    (hm : boutAt (s.numbered competitionId weightIds clearPrev w2m).draws (pk, i) = some m)
    {number : ℕ} :
    m.matchNumber = some number ↔
      ((pk, i), matNo, number) ∈ s.issued competitionId weightIds clearPrev w2m := by
  by_cases hcounted : b.Counted i
  · have hnumbers : s.Numbers competitionId weightIds w2m matNo pk i :=
      numbers_iff.mpr ⟨b, hb, hsel, hmat, hcounted⟩
    obtain ⟨number', hissued⟩ := exists_issued (x := (pk, i)) clearPrev hnumbers
    have hafter := boutAt_numbered_of_issued hissued
    rw [hm, eq_comm, Option.map_eq_some_iff] at hafter
    obtain ⟨m₀, hm₀, rfl⟩ := hafter
    constructor
    · intro hnumber
      obtain rfl : number' = number := Option.some.inj hnumber
      exact hissued
    · intro hissued'
      have hafter' := boutAt_numbered_of_issued hissued'
      rw [hm, hm₀, Option.map_some, Option.some.injEq] at hafter'
      exact congrArg Bout.matchNumber hafter'
  · have hnot : ∀ matNo, ¬s.Numbers competitionId weightIds w2m matNo pk i :=
      not_numbers_of_not_counted hb hcounted
    refine iff_of_false ?_ fun hissued => hnot matNo (numbers_of_issued hissued)
    rw [boutAt_numbered_of_not clearPrev hnot, boutAt_prepared hb hsel] at hm
    have hnone : m.matchNumber = none := by
      rcases Bracket.prepare_cases hm with ⟨m₀, hm₀, rfl⟩ | ⟨-, -, hnone⟩
      · rcases hold with rfl | hold
        · rfl
        · have hm₀' := hold m₀ (List.mem_of_getElem? hm₀)
          cases clearPrev <;> simp [Bout.cleared, hm₀']
      · exact hnone
    simp [hnone]

/-- **Which matches have a number after a call that found them without one.** -/
theorem isSome_matchNumber_numbered_iff (hb : s.draws.get pk = some b)
    (hsel : Selects competitionId weightIds b) (hmat : w2m b.scope.weightCategory = some matNo)
    (hold : clearPrev = true ∨ ∀ m ∈ b.bouts, m.matchNumber = none)
    (hm : boutAt (s.numbered competitionId weightIds clearPrev w2m).draws (pk, i) = some m) :
    m.matchNumber.isSome = true ↔ b.Counted i := by
  rw [Option.isSome_iff_exists]
  simp only [matchNumber_numbered_iff hb hsel hmat hold hm]
  constructor
  · rintro ⟨number, hissued⟩
    obtain ⟨b₀, hb₀, -, -, hcounted⟩ := numbers_iff.mp (numbers_of_issued hissued)
    obtain rfl := Option.some.inj (hb.symm.trans hb₀)
    exact hcounted
  · intro hcounted
    exact exists_issued (x := (pk, i)) clearPrev (numbers_iff.mpr ⟨b, hb, hsel, hmat, hcounted⟩)

end Called

/-- The draw of the given players, and its place in the competition. -/
theorem exists_drawnGroup {players : List ℤ}
    (h : (createDrawForGroup (groupCall (some 3) players (1, 2)) .empty).toOption.map Prod.fst =
      some 1) :
    ∃ d' draw, createDrawForGroup (groupCall (some 3) players (1, 2)) .empty = .ok (1, d') ∧
      d'.draws.get 1 = some draw ∧ (drawnGroup players).draws.get 1 = some draw.bracket ∧
      draw.scope.competition = 1 ∧ draw.scope.weightCategory = 2 := by
  obtain ⟨d', hcreate⟩ := exists_of_toOption h
  obtain ⟨scope, size, l, hcreated⟩ := createDrawForGroup_ok hcreate
  obtain ⟨comp, -, hscope⟩ := Option.map_eq_some_iff.mp hcreated.scope_eq
  have hget : (drawnGroup players).draws.get 1 = (d'.draws.get 1).map Draw.bracket := by
    have hd' : run drawActionStep .empty [.draw (groupCall (some 3) players (1, 2))] = d' := by
      simp only [run_cons, run_nil, drawActionStep, drawStep, hcreate]
    rw [← hd']
    rfl
  refine ⟨d', _, hcreate, hcreated.get_pk, ?_, ?_, ?_⟩
  · rw [hget, hcreated.get_pk, Option.map_some]
  · exact congrArg DrawScope.competition hscope.symm
  · exact congrArg DrawScope.weightCategory hscope.symm

end Tkdchb
