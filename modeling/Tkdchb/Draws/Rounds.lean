import Tkdchb.Draws.Schedule

/-!
# Filling up the rounds of a draw

`_ensure_rounds_exist` only appends matches, and which ones depends on the size of the draw
and on the rounds its matches are in. Once a draw has a match, filling up its rounds a
second time adds nothing.

## Main results

* `Bracket.ensureRoundsExist_eq` — the matches that are appended
* `Bracket.ensureRoundsExist_outline` — numbers, mats and BYEs do not matter to them
* `Bracket.ensureRoundsExist_idem` — the second time nothing is appended
-/

namespace Tkdchb

/-- A match before it is numbered: without its number if that is to be cleared. -/
def Bout.cleared (clearPrev : Bool) (m : Bout) : Bout :=
  if clearPrev then { m with matchNumber := none } else m

@[simp] theorem Bout.matNo_cleared {clearPrev : Bool} {m : Bout} :
    (m.cleared clearPrev).matNo = m.matNo := by
  cases clearPrev <;> rfl

/-- Only one entry of a list contributes. -/
theorem flatMap_ite_eq {α β : Type} [DecidableEq α] {l : List α} (hnodup : l.Nodup) {a : α}
    (ha : a ∈ l) (ys : List β) : (l.flatMap fun x => if x = a then ys else []) = ys := by
  induction l with
  | nil => cases ha
  | cons x l ih =>
    obtain ⟨hx, hl⟩ := List.nodup_cons.mp hnodup
    rw [List.flatMap_cons]
    rcases List.mem_cons.mp ha with rfl | htail
    · have hrest : (l.flatMap fun x => if x = a then ys else []) = [] := by
        rw [List.flatMap_eq_nil_iff]
        intro x' hx'
        exact if_neg fun (heq : x' = a) => hx (heq ▸ hx')
      rw [if_pos rfl, hrest, List.append_nil]
    · rw [if_neg fun (heq : x = a) => hx (heq ▸ htail), List.nil_append, ih hl htail]

namespace Bracket

variable {b b' : Bracket} {fr total rnd : ℕ}

/-- The matches a round is expected to have, `step` rounds after the first. -/
def expectedIn (total step : ℕ) : ℕ := max 1 (total / 2 ^ (step + 1))

/-- The matches that are missing in a round. -/
def missingIn (b : Bracket) (rnd expected : ℕ) : List Bout :=
  (List.range' (b.countInRound rnd) (expected - b.countInRound rnd)).map (emptyBout rnd)

/-- The matches that are missing. -/
def missing (b : Bracket) : List Bout :=
  (List.range' 1 (roundsCount b.totalSize - 1)).flatMap fun step =>
    b.missingIn (b.baseRound + step) (expectedIn b.totalSize step)

theorem mem_missingIn {m : Bout} {expected : ℕ} (h : m ∈ b.missingIn rnd expected) :
    ∃ idx, m = emptyBout rnd idx := by
  obtain ⟨idx, -, rfl⟩ := List.mem_map.mp h
  exact ⟨idx, rfl⟩

theorem countP_missingIn {expected : ℕ} :
    (b.missingIn rnd expected).countP (fun m => m.roundNo = rnd) =
      expected - b.countInRound rnd := by
  rw [missingIn, List.countP_map]
  have hall : ∀ idx, ((fun m : Bout => decide (m.roundNo = rnd)) ∘ emptyBout rnd) idx = true := by
    intro idx
    simp [emptyBout]
  rw [List.countP_eq_length.mpr fun idx _ => hall idx, List.length_range']

theorem countP_missingIn_of_ne {rnd' expected : ℕ} (h : rnd' ≠ rnd) :
    (b.missingIn rnd expected).countP (fun m => m.roundNo = rnd') = 0 := by
  rw [List.countP_eq_zero]
  intro m hm
  obtain ⟨idx, rfl⟩ := mem_missingIn hm
  simp [emptyBout, h.symm]

/-- What a fill appends to a round does not depend on the fills of other rounds. -/
theorem foldl_fillRound {steps : List ℕ} (hnodup : steps.Nodup) (b : Bracket) :
    steps.foldl (fun b step => b.fillRound (fr + step) (expectedIn total step)) b =
      { b with bouts := b.bouts ++
          steps.flatMap fun step => b.missingIn (fr + step) (expectedIn total step) } := by
  induction steps generalizing b with
  | nil => simp
  | cons step steps ih =>
    rw [List.nodup_cons] at hnodup
    have hcount : ∀ step' ∈ steps,
        (b.fillRound (fr + step) (expectedIn total step)).missingIn (fr + step')
            (expectedIn total step') =
          b.missingIn (fr + step') (expectedIn total step') := by
      intro step' hstep'
      have hne : fr + step' ≠ fr + step := by
        intro heq
        exact hnodup.1 (Nat.add_left_cancel heq ▸ hstep')
      have hsame : (b.fillRound (fr + step) (expectedIn total step)).countInRound (fr + step') =
          b.countInRound (fr + step') := by
        rw [countInRound, fillRound, List.countP_append]
        exact Nat.add_eq_left.mpr (countP_missingIn_of_ne (b := b) hne)
      simp only [missingIn, hsame]
    rw [List.foldl_cons, ih hnodup.2, List.flatMap_cons, List.flatMap_congr hcount]
    simp only [fillRound, missingIn, List.append_assoc]

/-- **Only matches are appended.** -/
theorem ensureRoundsExist_eq (b : Bracket) :
    b.ensureRoundsExist = { b with bouts := b.bouts ++ b.missing } :=
  foldl_fillRound List.nodup_range' b

@[simp] theorem scope_ensureRoundsExist : b.ensureRoundsExist.scope = b.scope := by
  rw [ensureRoundsExist_eq]

@[simp] theorem size_ensureRoundsExist : b.ensureRoundsExist.size = b.size := by
  rw [ensureRoundsExist_eq]

theorem bouts_ensureRoundsExist : b.ensureRoundsExist.bouts = b.bouts ++ b.missing := by
  rw [ensureRoundsExist_eq]

/-- A match that is appended is empty and in a later round. -/
theorem mem_missing {m : Bout} (h : m ∈ b.missing) :
    ∃ step idx, 0 < step ∧ m = emptyBout (b.baseRound + step) idx := by
  obtain ⟨step, hstep, hm⟩ := List.mem_flatMap.mp h
  obtain ⟨idx, rfl⟩ := mem_missingIn hm
  exact ⟨step, idx, (List.mem_range'_1.mp hstep).1, rfl⟩

/-- The missing matches of one round. -/
theorem filter_missing {step : ℕ} (h : step ∈ List.range' 1 (roundsCount b.totalSize - 1)) :
    b.missing.filter (fun m => m.roundNo = b.baseRound + step) =
      b.missingIn (b.baseRound + step) (expectedIn b.totalSize step) := by
  have hone : ∀ step', (b.missingIn (b.baseRound + step') (expectedIn b.totalSize step')).filter
      (fun m => m.roundNo = b.baseRound + step) =
        if step' = step then b.missingIn (b.baseRound + step) (expectedIn b.totalSize step)
        else [] := by
    intro step'
    split_ifs with hsame
    · subst hsame
      rw [List.filter_eq_self]
      intro m hm
      obtain ⟨idx, rfl⟩ := mem_missingIn hm
      exact decide_eq_true rfl
    · rw [List.filter_eq_nil_iff]
      intro m hm
      obtain ⟨idx, rfl⟩ := mem_missingIn hm
      exact fun hround => hsame (Nat.add_left_cancel (of_decide_eq_true hround))
  rw [missing, List.filter_flatMap]
  simp only [hone]
  exact flatMap_ite_eq List.nodup_range' h _

/-- Which matches are missing depends on the size and the rounds of a draw. -/
theorem missing_congr (hsize : b'.size = b.size)
    (hrounds : b'.bouts.map (·.roundNo) = b.bouts.map (·.roundNo)) : b'.missing = b.missing := by
  have hcount : b'.countInRound = b.countInRound := by
    funext rnd
    have hmap : ∀ b : Bracket, b.countInRound rnd =
        (b.bouts.map (·.roundNo)).countP fun r => r = rnd := by
      intro b
      rw [List.countP_map]
      rfl
    rw [hmap, hmap, hrounds]
  have hbase : b'.baseRound = b.baseRound := by
    simp only [baseRound, firstRoundNo, roundsOf, hrounds]
  simp only [missing, missingIn, totalSize, hcount, hbase, hsize]

theorem missing_outline : b.outline.missing = b.missing := by
  apply missing_congr size_outline
  simp [outline, Function.comp_def, Bout.outline]

theorem missing_clearNumbers : b.clearNumbers.missing = b.missing := by
  have hsize : b.clearNumbers.size = b.size := rfl
  apply missing_congr hsize
  simp [clearNumbers, Function.comp_def]

/-! ### The first round -/

/-- The rounds that are appended come after the first. -/
theorem firstRoundNo_ensureRoundsExist (h : b.bouts ≠ []) :
    b.ensureRoundsExist.firstRoundNo = b.firstRoundNo := by
  obtain ⟨m, hm⟩ := List.exists_mem_of_ne_nil _ h
  obtain ⟨fr, hfr⟩ := exists_firstRoundNo hm
  obtain ⟨⟨m', hm', hround⟩, hle⟩ := firstRoundNo_eq_some_iff.mp hfr
  rw [hfr, firstRoundNo_eq_some_iff, bouts_ensureRoundsExist]
  refine ⟨⟨m', List.mem_append_left _ hm', hround⟩, fun m hm => ?_⟩
  rcases List.mem_append.mp hm with hm | hm
  · exact hle m hm
  · obtain ⟨step, idx, -, rfl⟩ := mem_missing hm
    have hbase : fr ≤ b.baseRound := by
      rw [baseRound, hfr]
      simp only
      split_ifs with hzero
      · omega
      · exact le_rfl
    exact hbase.trans (Nat.le_add_right _ _)

theorem baseRound_ensureRoundsExist (h : b.bouts ≠ []) :
    b.ensureRoundsExist.baseRound = b.baseRound := by
  rw [baseRound, baseRound, firstRoundNo_ensureRoundsExist h]

/-- The matches of a round after the rounds are filled up. -/
theorem countInRound_ensureRoundsExist :
    b.ensureRoundsExist.countInRound rnd =
      b.countInRound rnd + b.missing.countP fun m => m.roundNo = rnd := by
  rw [countInRound, bouts_ensureRoundsExist, List.countP_append]
  rfl

theorem totalSize_ensureRoundsExist (h : b.bouts ≠ []) :
    b.ensureRoundsExist.totalSize = b.totalSize := by
  have hnone : b.missing.countP (fun m => m.roundNo = b.baseRound) = 0 := by
    rw [List.countP_eq_zero]
    intro m hm
    obtain ⟨step, idx, hstep, rfl⟩ := mem_missing hm
    have hne : b.baseRound + step ≠ b.baseRound := by omega
    simpa [emptyBout] using hne
  rw [totalSize, totalSize, size_ensureRoundsExist, baseRound_ensureRoundsExist h,
    countInRound_ensureRoundsExist, hnone, Nat.add_zero]

/-- A later round has as many matches as expected, or more. -/
theorem expectedIn_le {step : ℕ} (hstep : step ∈ List.range' 1 (roundsCount b.totalSize - 1)) :
    expectedIn b.totalSize step ≤ b.ensureRoundsExist.countInRound (b.baseRound + step) := by
  have hsub : (b.missingIn (b.baseRound + step) (expectedIn b.totalSize step)).Sublist b.missing :=
    List.sublist_flatten_of_mem (List.mem_map_of_mem hstep)
  have hle := hsub.countP_le (p := fun m => m.roundNo = b.baseRound + step)
  rw [countP_missingIn] at hle
  rw [countInRound_ensureRoundsExist]
  omega

/-- **The second time nothing is missing.** -/
theorem missing_ensureRoundsExist (h : b.bouts ≠ []) : b.ensureRoundsExist.missing = [] := by
  unfold missing
  rw [List.flatMap_eq_nil_iff, totalSize_ensureRoundsExist h, baseRound_ensureRoundsExist h]
  intro step hstep
  have hle := expectedIn_le hstep
  rw [missingIn, Nat.sub_eq_zero_of_le hle]
  rfl

theorem ensureRoundsExist_idem (h : b.bouts ≠ []) :
    b.ensureRoundsExist.ensureRoundsExist = b.ensureRoundsExist := by
  rw [ensureRoundsExist_eq b.ensureRoundsExist, missing_ensureRoundsExist h, List.append_nil]

/-! ### What a numbering reads -/

/-- An appended match is its own outline. -/
theorem map_outline_missing {first : Option ℕ} :
    b.missing.map (Bout.outline first) = b.missing := by
  apply (List.map_congr_left _).trans (List.map_id _)
  intro m hm
  obtain ⟨step, idx, -, rfl⟩ := mem_missing hm
  rfl

/-- **Filling up the rounds does not depend on mats, numbers and BYEs.** -/
theorem ensureRoundsExist_outline : b.outline.ensureRoundsExist = b.ensureRoundsExist.outline := by
  have hbouts : b.bouts.map (Bout.outline b.ensureRoundsExist.firstRoundNo) =
      b.bouts.map (Bout.outline b.firstRoundNo) := by
    by_cases hnil : b.bouts = []
    · rw [hnil]
      rfl
    · rw [firstRoundNo_ensureRoundsExist hnil]
  rw [ensureRoundsExist_eq b.outline, missing_outline]
  unfold outline
  rw [bouts_ensureRoundsExist, List.map_append, map_outline_missing, hbouts,
    scope_ensureRoundsExist, size_ensureRoundsExist]

theorem outline_clearNumbers : b.clearNumbers.outline = b.outline := by
  have hfirst : b.clearNumbers.firstRoundNo = b.firstRoundNo := by
    have hrounds : b.clearNumbers.bouts.map (·.roundNo) = b.bouts.map (·.roundNo) := by
      simp [clearNumbers, Function.comp_def]
    simp only [firstRoundNo, roundsOf, hrounds]
  unfold outline
  rw [hfirst, clearNumbers, List.map_map]
  rfl

/-- The outline of a prepared draw. -/
theorem outline_prepare (clearPrev : Bool) :
    (b.prepare clearPrev).outline = b.outline.ensureRoundsExist := by
  cases clearPrev with
  | false => exact ensureRoundsExist_outline.symm
  | true =>
    rw [← outline_clearNumbers (b := b), ensureRoundsExist_outline]
    rfl

/-- The matches of a prepared draw: the old ones, with their numbers or without, and those
that were missing. -/
theorem bouts_prepare {clearPrev : Bool} :
    (b.prepare clearPrev).bouts = b.bouts.map (Bout.cleared clearPrev) ++ b.missing := by
  cases clearPrev with
  | false =>
    have hid : Bout.cleared false = id := rfl
    simp [prepare, bouts_ensureRoundsExist, hid]
  | true =>
    simp only [prepare, bouts_ensureRoundsExist, if_true, missing_clearNumbers]
    rfl

/-- A match of a prepared draw is an old one or has neither mat nor number. -/
theorem prepare_cases {clearPrev : Bool} {i : ℕ} {m : Bout}
    (h : (b.prepare clearPrev).bouts[i]? = some m) :
    (∃ m₀, b.bouts[i]? = some m₀ ∧ m = m₀.cleared clearPrev) ∨
      b.bouts[i]? = none ∧ m.matNo = none ∧ m.matchNumber = none := by
  rw [bouts_prepare, List.getElem?_append, List.length_map] at h
  split_ifs at h with hi
  · rw [List.getElem?_map] at h
    obtain ⟨m₀, hm₀, rfl⟩ := Option.map_eq_some_iff.mp h
    exact Or.inl ⟨m₀, hm₀, rfl⟩
  · obtain ⟨step, idx, -, rfl⟩ := mem_missing (List.mem_of_getElem? h)
    exact Or.inr ⟨List.getElem?_eq_none (Nat.le_of_not_lt hi), rfl, rfl⟩

/-- An old match of a prepared draw. -/
theorem getElem?_prepare {clearPrev : Bool} {i : ℕ} {m : Bout} (h : b.bouts[i]? = some m) :
    (b.prepare clearPrev).bouts[i]? = some (m.cleared clearPrev) := by
  rw [bouts_prepare, List.getElem?_append_left, List.getElem?_map, h, Option.map_some]
  rw [List.length_map]
  exact (List.getElem?_eq_some_iff.mp h).1

theorem hasRealMatch_prepare (clearPrev : Bool) :
    (b.prepare clearPrev).hasRealMatch = b.ensureRoundsExist.hasRealMatch := by
  rw [← hasRealMatch_outline, outline_prepare, ensureRoundsExist_outline, hasRealMatch_outline]

theorem counts_prepare (clearPrev : Bool) {i : ℕ} :
    (b.prepare clearPrev).Counts i ↔ b.ensureRoundsExist.Counts i := by
  rw [Counts, Counts, outline_prepare, ensureRoundsExist_outline]

@[simp] theorem scope_prepare {clearPrev : Bool} : (b.prepare clearPrev).scope = b.scope := by
  cases clearPrev <;> simp [prepare, clearNumbers]

end Bracket

end Tkdchb
