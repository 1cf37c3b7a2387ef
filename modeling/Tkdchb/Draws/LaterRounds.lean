import Mathlib.Algebra.BigOperators.Group.List.Lemmas
import Tkdchb.Draws.FullBracket

/-!
# The later rounds of a draw

Filling up the rounds of a draw of `2 ^ k` slots makes it complete: round `r` has
`2 ^ k / 2 ^ r` matches on the slots from zero on, and there are no other matches. It does so
from the first round alone, and also from a draw whose later rounds lack matches at their end.
What was there is kept, and a complete draw stays as it is.

## Main definitions

* `Bracket.HasSlots` — a round with its slots from zero on
* `Bracket.FirstRoundOnly` — a draw with the matches of its first round and no others
* `Bracket.Begun`, `Bracket.Complete` — some of the later matches, and all of them

## Main results

* `Bracket.Begun.hasSlots_ensureRoundsExist` — a round is filled up to its last slot
* `Bracket.Begun.complete` — the rounds are complete after one call
* `later_rounds_created` — created completely, restored, and never twice
-/

namespace Tkdchb

/-- A list is as long as its classes together. -/
theorem length_eq_sum_countP {α : Type} {l : List α} {f : α → ℕ} {classes : List ℕ}
    (hnodup : classes.Nodup) (hmem : ∀ c, c ∈ classes ↔ ∃ x ∈ l, f x = c) :
    l.length = (classes.map fun c => l.countP fun x => f x = c).sum := by
  have hperm : (l.map f).dedup.Perm classes := by
    rw [List.perm_ext_iff_of_nodup (List.nodup_dedup _) hnodup]
    intro c
    rw [List.mem_dedup, List.mem_map, hmem]
  have hcount : ∀ c, l.countP (fun x => f x = c) = (l.map f).count c := by
    intro c
    rw [List.count_eq_countP, List.countP_map]
    rfl
  simp only [hcount]
  rw [← (hperm.map _).sum_eq, List.sum_map_count_dedup_eq_length, List.length_map]

namespace Bracket

variable {b : Bracket} {k r count : ℕ}

/-! ### Rounds and their slots -/

/-- The slots of the matches of a round. -/
def slotsInRound (b : Bracket) (roundNo : ℕ) : List (ℕ × ℕ) :=
  (b.bouts.filter fun m => m.roundNo = roundNo).map fun m => (m.slotA, m.slotB)

/-- A later round has one match on each slot from zero on. -/
def HasSlots (b : Bracket) (roundNo count : ℕ) : Prop :=
  (b.slotsInRound roundNo).Perm ((List.range count).map fun idx => (idx, idx))

/-- A draw of `2 ^ k` slots with the matches of its first round and no others. -/
structure FirstRoundOnly (b : Bracket) (k : ℕ) : Prop where
  size_eq : b.size = 2 ^ k
  first : b.bouts.length = 2 ^ k / 2
  round : ∀ m ∈ b.bouts, m.roundNo = 1

/-- A draw of `2 ^ k` slots with its first round, where later rounds may lack matches at their
end. -/
structure Begun (b : Bracket) (k : ℕ) : Prop where
  size_eq : b.size = 2 ^ k
  first : b.countInRound 1 = 2 ^ k / 2
  later : ∀ r, 2 ≤ r → r ≤ k → ∃ count ≤ 2 ^ k / 2 ^ r, b.HasSlots r count
  round : ∀ m ∈ b.bouts, 1 ≤ m.roundNo ∧ m.roundNo ≤ k

/-- All rounds of a draw of `2 ^ k` slots. -/
structure Complete (b : Bracket) (k : ℕ) : Prop where
  first : b.countInRound 1 = 2 ^ k / 2
  count : ∀ r, 2 ≤ r → r ≤ k → b.countInRound r = 2 ^ k / 2 ^ r
  slots : ∀ r, 2 ≤ r → r ≤ k → b.HasSlots r (2 ^ k / 2 ^ r)
  round : ∀ m ∈ b.bouts, 1 ≤ m.roundNo ∧ m.roundNo ≤ k
  total : b.bouts.length = 2 ^ k - 1

theorem length_slotsInRound : (b.slotsInRound r).length = b.countInRound r := by
  rw [slotsInRound, List.length_map, countInRound, List.countP_eq_length_filter]

theorem HasSlots.countInRound (h : b.HasSlots r count) : b.countInRound r = count := by
  rw [← length_slotsInRound, List.Perm.length_eq h, List.length_map, List.length_range]

/-- The first round alone lacks all later matches. -/
theorem FirstRoundOnly.begun (h : b.FirstRoundOnly k) (hk : 2 ≤ k) : b.Begun k where
  size_eq := h.size_eq
  first := by
    rw [← h.first, Bracket.countInRound, List.countP_eq_length]
    exact fun m hm => decide_eq_true (h.round m hm)
  later r hlow _ := by
    refine ⟨0, Nat.zero_le _, ?_⟩
    have hnone : b.bouts.filter (fun m => m.roundNo = r) = [] := by
      rw [List.filter_eq_nil_iff]
      intro m hm
      have hne : (1 : ℕ) ≠ r := by omega
      rw [h.round m hm]
      exact fun hround => hne (of_decide_eq_true hround)
    rw [HasSlots, slotsInRound, hnone]
    rfl
  round m hm := by
    rw [h.round m hm]
    omega

/-! ### Filling up -/

namespace Begun

/-- There is a match in the first round. -/
theorem exists_first (h : b.Begun k) (hk : 2 ≤ k) : ∃ m ∈ b.bouts, m.roundNo = 1 := by
  have hpos : 0 < b.countInRound 1 := by
    rw [h.first]
    exact Nat.div_pos (Nat.le_self_pow (by omega) 2) Nat.two_pos
  obtain ⟨m, hm, hround⟩ := List.countP_pos_iff.mp hpos
  exact ⟨m, hm, of_decide_eq_true hround⟩

theorem bouts_ne_nil (h : b.Begun k) (hk : 2 ≤ k) : b.bouts ≠ [] := by
  obtain ⟨m, hm, -⟩ := h.exists_first hk
  exact List.ne_nil_of_mem hm

theorem baseRound (h : b.Begun k) (hk : 2 ≤ k) : b.baseRound = 1 := by
  have hfirst : b.firstRoundNo = some 1 :=
    firstRoundNo_eq_some_iff.mpr ⟨h.exists_first hk, fun m hm => (h.round m hm).1⟩
  simp [Bracket.baseRound, hfirst]

theorem totalSize (h : b.Begun k) : b.totalSize = 2 ^ k := by
  rw [Bracket.totalSize, h.size_eq, if_neg (Nat.two_pow_pos k).ne']

/-- The rounds that the doubling loop finds, after the first. -/
theorem steps (h : b.Begun k) :
    List.range' 1 (roundsCount b.totalSize - 1) = List.range' 1 (k - 1) := by
  rw [h.totalSize, roundsCount_two_pow]

/-- A match that is appended is in a later round of the draw. -/
theorem round_of_mem_missing (h : b.Begun k) (hk : 2 ≤ k) {m : Bout} (hm : m ∈ b.missing) :
    2 ≤ m.roundNo ∧ m.roundNo ≤ k := by
  obtain ⟨step, hstep, hin⟩ := List.mem_flatMap.mp hm
  obtain ⟨idx, rfl⟩ := mem_missingIn hin
  rw [h.steps, List.mem_range'_1] at hstep
  simp only [emptyBout, h.baseRound hk]
  omega

/-- The matches that one of the later rounds lacks. -/
theorem filter_missing (h : b.Begun k) (hk : 2 ≤ k) (hlow : 2 ≤ r) (hhigh : r ≤ k) :
    b.missing.filter (fun m => m.roundNo = r) = b.missingIn r (2 ^ k / 2 ^ r) := by
  have hstep : r - 1 ∈ List.range' 1 (roundsCount b.totalSize - 1) := by
    rw [h.steps, List.mem_range'_1]
    omega
  have hr : 1 + (r - 1) = r := by omega
  have hexpected : expectedIn (2 ^ k) (r - 1) = 2 ^ k / 2 ^ r := by
    rw [expectedIn_two_pow (by omega), Nat.pow_div hhigh Nat.two_pos, Nat.sub_sub, hr]
  have hfilter := Bracket.filter_missing hstep
  rwa [h.baseRound hk, hr, h.totalSize, hexpected] at hfilter

/-- **A round is filled up to its last slot**, and each slot is there once. -/
theorem hasSlots_ensureRoundsExist (h : b.Begun k) (hk : 2 ≤ k) (hlow : 2 ≤ r) (hhigh : r ≤ k) :
    b.ensureRoundsExist.HasSlots r (2 ^ k / 2 ^ r) := by
  obtain ⟨count, hle, hslots⟩ := h.later r hlow hhigh
  have hadded : (b.missingIn r (2 ^ k / 2 ^ r)).map (fun m => (m.slotA, m.slotB)) =
      (List.range' count (2 ^ k / 2 ^ r - count)).map fun idx => (idx, idx) := by
    rw [missingIn, hslots.countInRound, List.map_map]
    rfl
  -- the slots that are there and those that are appended follow on each other
  have hglue : (List.range count).map (fun idx => (idx, idx)) ++
      (List.range' count (2 ^ k / 2 ^ r - count)).map (fun idx => (idx, idx)) =
        (List.range (2 ^ k / 2 ^ r)).map fun idx => (idx, idx) := by
    have happend := List.range'_append_1 (s := 0) (m := count) (n := 2 ^ k / 2 ^ r - count)
    rw [Nat.zero_add, Nat.add_sub_cancel' hle] at happend
    rw [← List.map_append, List.range_eq_range', List.range_eq_range', happend]
  rw [HasSlots, slotsInRound, bouts_ensureRoundsExist, List.filter_append,
    h.filter_missing hk hlow hhigh, List.map_append, hadded, ← hglue]
  exact List.Perm.append_right _ hslots

/-- The first round stays. -/
theorem countInRound_first (h : b.Begun k) (hk : 2 ≤ k) :
    b.ensureRoundsExist.countInRound 1 = 2 ^ k / 2 := by
  have hnone : b.missing.countP (fun m => m.roundNo = 1) = 0 := by
    rw [List.countP_eq_zero]
    intro m hm hround
    have hlater := (h.round_of_mem_missing hk hm).1
    rw [of_decide_eq_true hround] at hlater
    omega
  rw [countInRound_ensureRoundsExist, hnone, h.first, Nat.add_zero]

theorem round_ensureRoundsExist (h : b.Begun k) (hk : 2 ≤ k) :
    ∀ m ∈ b.ensureRoundsExist.bouts, 1 ≤ m.roundNo ∧ m.roundNo ≤ k := by
  intro m hm
  rw [bouts_ensureRoundsExist] at hm
  rcases List.mem_append.mp hm with hold | hnew
  · exact h.round m hold
  · have hlater := h.round_of_mem_missing hk hnew
    omega

/-- All rounds together have one match less than the draw has slots. -/
theorem length_ensureRoundsExist (h : b.Begun k) (hk : 2 ≤ k) :
    b.ensureRoundsExist.bouts.length = 2 ^ k - 1 := by
  have hcount : ∀ r ∈ List.range' 1 k, b.ensureRoundsExist.countInRound r = 2 ^ (k - r) := by
    intro r hr
    rw [List.mem_range'_1] at hr
    rcases Nat.eq_or_lt_of_le hr.1 with rfl | hlater
    · rw [h.countInRound_first hk]
      exact Nat.pow_div (by omega : 1 ≤ k) Nat.two_pos
    · rw [(h.hasSlots_ensureRoundsExist hk hlater (by omega)).countInRound,
        Nat.pow_div (by omega) Nat.two_pos]
  have hclasses : ∀ r, r ∈ List.range' 1 k ↔ ∃ m ∈ b.ensureRoundsExist.bouts, m.roundNo = r := by
    intro r
    constructor
    · intro hr
      have hpos : 0 < b.ensureRoundsExist.countInRound r := by
        rw [hcount r hr]
        exact Nat.two_pow_pos _
      obtain ⟨m, hm, hround⟩ := List.countP_pos_iff.mp hpos
      exact ⟨m, hm, of_decide_eq_true hround⟩
    · rintro ⟨m, hm, rfl⟩
      have hround := h.round_ensureRoundsExist hk m hm
      exact List.mem_range'_1.mpr (by omega)
  calc b.ensureRoundsExist.bouts.length
      = ((List.range' 1 k).map fun r => b.ensureRoundsExist.countInRound r).sum :=
        length_eq_sum_countP List.nodup_range' hclasses
    _ = ((List.range' 1 k).map fun r => 2 ^ (k - r)).sum := by
        rw [List.map_congr_left hcount]
    _ = 2 ^ k - 1 := sum_later_rounds k

/-- **One call completes the rounds.** -/
theorem complete (h : b.Begun k) (hk : 2 ≤ k) : b.ensureRoundsExist.Complete k where
  first := h.countInRound_first hk
  count _ hlow hhigh := (h.hasSlots_ensureRoundsExist hk hlow hhigh).countInRound
  slots _ hlow hhigh := h.hasSlots_ensureRoundsExist hk hlow hhigh
  round := h.round_ensureRoundsExist hk
  total := h.length_ensureRoundsExist hk

end Begun

end Bracket

/-- **The later rounds are created completely and once**: from the first round alone, or from a
draw whose later rounds lack matches at their end. Matches that were there are kept, and the
second call adds nothing. -/
theorem later_rounds_created {b : Bracket} {k : ℕ} (hk : 2 ≤ k) :
    (b.FirstRoundOnly k → b.ensureRoundsExist.Complete k) ∧
      (b.Begun k → b.ensureRoundsExist.Complete k) ∧
      (b.FirstRoundOnly k ∨ b.Begun k →
        b.bouts <+: b.ensureRoundsExist.bouts ∧
          b.ensureRoundsExist.ensureRoundsExist = b.ensureRoundsExist) := by
  have hbegun : b.FirstRoundOnly k ∨ b.Begun k → b.Begun k := by
    rintro (hfirst | hbegun)
    · exact hfirst.begun hk
    · exact hbegun
  refine ⟨fun h => (h.begun hk).complete hk, fun h => h.complete hk, fun h => ⟨?_, ?_⟩⟩
  · rw [Bracket.bouts_ensureRoundsExist]
    exact List.prefix_append _ _
  · exact Bracket.ensureRoundsExist_idem ((hbegun h).bouts_ne_nil hk)

/-- A draw of eight slots that lacks its second semifinal and its final. -/
def oneSemifinal : Bracket where
  scope := ⟨1, "", some 3, 1, 1⟩
  size := 8
  bouts := (List.range 4).map (Bracket.emptyBout 1) ++ [Bracket.emptyBout 2 0]

theorem begun_oneSemifinal : oneSemifinal.Begun 3 where
  size_eq := rfl
  first := by decide
  later r hlow hhigh := by
    obtain rfl | rfl : r = 2 ∨ r = 3 := by omega
    · exact ⟨1, by decide, List.Perm.refl _⟩
    · exact ⟨0, by decide, List.Perm.refl _⟩
  round := by decide

theorem later_rounds_created_one_semifinal :
    (twoPlayers 1 5 6).ensureRoundsExist.Complete 2 ∧ oneSemifinal.ensureRoundsExist.Complete 3 ∧
      oneSemifinal.ensureRoundsExist.ensureRoundsExist = oneSemifinal.ensureRoundsExist :=
  ⟨(later_rounds_created (le_refl 2)).1 ⟨rfl, rfl, by decide⟩,
    (later_rounds_created (by decide : 2 ≤ 3)).2.1 begun_oneSemifinal,
    ((later_rounds_created (by decide : 2 ≤ 3)).2.2 (.inr begun_oneSemifinal)).2⟩

example : oneSemifinal.ensureRoundsExist.bouts.map (fun m => (m.roundNo, m.slotA)) =
    [(1, 0), (1, 1), (1, 2), (1, 3), (2, 0), (2, 1), (3, 0)] := by
  decide

end Tkdchb
