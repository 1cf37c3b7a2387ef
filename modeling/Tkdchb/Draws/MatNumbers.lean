import Tkdchb.Draws.NumberingCalls

/-!
# Numbers on the mats

A match gets its number from the counter of the mat its weight is assigned to now. Its mat
is written only if it has none, and clearing numbers leaves the mats. And every call starts
its counters at zero, whatever is numbered on the mats already.

## Main definitions

* `OnItsMat` — after a call each match it numbered is on the mat that counted it
* `MatsFit` — the matches a call is about to number have no mat or the right one
* `UniqueNumbers` — no two matches of a competition share mat and number
* `KeptApart` — the numbers that stay through a call are above those it gives on the mat

## Main results

* `onItsMat_iff_matsFit` — matches stay on their mats exactly in the runs that fit
* `uniqueNumbers_iff_keptApart` — numbers stay unique exactly in the runs that keep apart
-/

namespace Tkdchb

open Transition Ticketing NumberingState

/-! ### The mat of a match -/

section OnItsMat

variable {s : NumberingState} {competitionId : ℕ} {weightIds : List ℕ} {clearPrev : Bool}
  {w2m : ℕ → Option ℕ} {allDraws : List (ℕ × Bracket)} {x : ℕ × ℕ} {matNo : ℕ} {m : Bout}

instance {pk i : ℕ} : Decidable (s.Numbers competitionId weightIds w2m matNo pk i) :=
  decidable_of_iff _ (mem_schedule_iff false)

/-- The matches a numbering call numbers are, after it, on the mats that
`_weight_to_mat_map` gives their weights now, and have numbers of the counters of these. -/
def OnItsMat : NumberingAction → NumberingState → Prop
  | .number competitionId weightIds clearPrev, s =>
    ∀ counters s', numberMatchesForCompetition competitionId weightIds clearPrev s =
        .ok (counters, s') →
      ∀ matNo x m, s.Numbers competitionId weightIds (s.matOf competitionId) matNo x.1 x.2 →
        boutAt s'.draws x = some m →
          m.matNo = some matNo ∧ ∃ number last, m.matchNumber = some number ∧
            (matNo, last) ∈ counters ∧ 0 < number ∧ number ≤ last
  | .clear _ _, _ => True
  | .assignMats _ _, _ => True

/-- The matches a numbering call is about to number have no mat (or mat zero), or the one
their weights are assigned to now. -/
def MatsFit : NumberingAction → NumberingState → Prop
  | .number competitionId weightIds _, s =>
    (∃ r, s.selection competitionId weightIds = .ok r) →
      ∀ matNo x m, s.Numbers competitionId weightIds (s.matOf competitionId) matNo x.1 x.2 →
        boutAt s.draws x = some m → m.matNo.getD 0 = 0 ∨ m.matNo = some matNo
  | .clear _ _, _ => True
  | .assignMats _ _, _ => True

/-- A call that returns has passed its checks. -/
theorem numberMatchesForCompetition_ok_iff {r : List (ℕ × ℕ) × NumberingState} :
    numberMatchesForCompetition competitionId weightIds clearPrev s = .ok r ↔
      (∃ r, s.selection competitionId weightIds = .ok r) ∧
        r = ((matsOf (s.matOf competitionId) (s.drawsOf competitionId weightIds)).map fun matNo =>
            (matNo, advance (fun _ => 0)
              (s.schedule competitionId weightIds clearPrev (s.matOf competitionId)) matNo),
          s.numbered competitionId weightIds clearPrev (s.matOf competitionId)) := by
  cases hsel : s.selection competitionId weightIds with
  | error e => simp [numberMatchesForCompetition_eq_error hsel]
  | ok sel =>
    obtain ⟨w2m, allDraws⟩ := sel
    obtain ⟨-, rfl, -, rfl, -⟩ := selection_eq_ok_iff.mp hsel
    rw [numberMatchesForCompetition_eq hsel]
    simp [eq_comm]

/-- A call that returns leaves the state of its step. -/
theorem exists_counters (competitionId : ℕ) (weightIds : List ℕ) (clearPrev : Bool)
    (s : NumberingState)
    (h : (numberMatchesForCompetition competitionId weightIds clearPrev s).toOption.isSome = true) :
    ∃ counters, numberMatchesForCompetition competitionId weightIds clearPrev s =
      .ok (counters, numberingStep (.number competitionId weightIds clearPrev) s) := by
  unfold numberingStep
  cases hcall : numberMatchesForCompetition competitionId weightIds clearPrev s with
  | error e =>
    rw [hcall] at h
    cases h
  | ok r => exact ⟨r.1, by simp only [hcall]⟩

/-- A match of a draw that a call prepares. -/
theorem boutAt_prepared {b : Bracket} (hb : s.draws.get x.1 = some b)
    (hsel : Selects competitionId weightIds b) :
    boutAt (s.prepared competitionId weightIds clearPrev).draws x =
      (b.prepare clearPrev).bouts[x.2]? := by
  rw [boutAt, get_prepared, hb, Option.map_some, if_pos hsel, Option.bind_some]

/-- A match of a draw that a call leaves alone. -/
theorem boutAt_prepared_of_not {b : Bracket} (hb : s.draws.get x.1 = some b)
    (hsel : ¬ Selects competitionId weightIds b) :
    boutAt (s.prepared competitionId weightIds clearPrev).draws x = b.bouts[x.2]? := by
  rw [boutAt, get_prepared, hb, Option.map_some, if_neg hsel, Option.bind_some]

/-- A match that a call numbers is there when the loops start. -/
theorem boutAt_prepared_of_numbers (clearPrev : Bool)
    (h : s.Numbers competitionId weightIds w2m matNo x.1 x.2) :
    ∃ m, boutAt (s.prepared competitionId weightIds clearPrev).draws x = some m := by
  obtain ⟨b, hb, hsel, -, -, hcounts⟩ := h
  obtain ⟨m, hm, -⟩ := Bracket.counts_iff.mp hcounts
  rw [boutAt_prepared hb hsel]
  have hlen : x.2 < (b.prepare clearPrev).bouts.length := by
    have hlt := (List.getElem?_eq_some_iff.mp hm).1
    rw [Bracket.bouts_ensureRoundsExist, List.length_append] at hlt
    rw [Bracket.bouts_prepare, List.length_append, List.length_map]
    exact hlt
  exact ⟨_, List.getElem?_eq_getElem hlen⟩

/-- The mat of a match that got a number: the one it had, or else the one that counted it. -/
theorem matNo_stamp {number : ℕ} :
    (m.stamp matNo number).matNo = some matNo ↔ m.matNo.getD 0 = 0 ∨ m.matNo = some matNo := by
  unfold Bout.stamp
  by_cases hzero : m.matNo.getD 0 = 0
  · simp [hzero]
  · simp [hzero]

/-- The mat of a match a call numbers has its counter. -/
theorem mem_matsOf_of_numbers
    (h : s.Numbers competitionId weightIds w2m matNo x.1 x.2) :
    matNo ∈ matsOf w2m (s.drawsOf competitionId weightIds) :=
  (mem_tickets_iff.mp ((mem_schedule_iff false).mpr h)).1

/-- **One call** leaves the matches on their mats exactly if they fit. -/
theorem onItsMat_step_iff (a : NumberingAction) (s : NumberingState) :
    OnItsMat a s ↔ MatsFit a s := by
  cases a with
  | clear | assignMats => exact Iff.rfl
  | number competitionId weightIds clearPrev =>
    simp only [OnItsMat, MatsFit, numberMatchesForCompetition_ok_iff]
    constructor
    · intro h hsel matNo x m hnumbers hm
      -- the row is an old one, so what was prepared has its mat
      obtain ⟨number, hissued⟩ := exists_issued clearPrev hnumbers
      obtain ⟨b, hb, hsel', -⟩ := id hnumbers
      have hrow : b.bouts[x.2]? = some m := by simpa [boutAt, hb] using hm
      have hafter := boutAt_numbered_of_issued hissued
      rw [boutAt_prepared hb hsel', Bracket.getElem?_prepare hrow, Option.map_some] at hafter
      simpa using matNo_stamp.mp (h _ _ ⟨hsel, rfl⟩ matNo x _ hnumbers hafter).1
    · rintro h counters s' ⟨hsel, hcall⟩ matNo x m hnumbers hm
      obtain ⟨rfl, rfl⟩ := Prod.mk.inj hcall
      obtain ⟨number, hissued⟩ := exists_issued clearPrev hnumbers
      obtain ⟨m', hm'⟩ := boutAt_prepared_of_numbers clearPrev hnumbers
      have hafter := boutAt_numbered_of_issued hissued
      rw [hm', Option.map_some, hm, Option.some.injEq] at hafter
      subst hafter
      obtain ⟨hpos, hle⟩ := bounds_of_mem_issue hissued
      constructor
      · rw [matNo_stamp]
        obtain ⟨b, hb, hsel', -⟩ := id hnumbers
        rw [boutAt_prepared hb hsel'] at hm'
        rcases Bracket.prepare_cases hm' with ⟨m₀, hm₀, rfl⟩ | ⟨-, hnone, -⟩
        · simpa using h hsel matNo x m₀ hnumbers (by rw [boutAt, hb, Option.bind_some, hm₀])
        · exact Or.inl (by rw [hnone]; rfl)
      · exact ⟨number, _, rfl, List.mem_map.mpr ⟨matNo, mem_matsOf_of_numbers hnumbers, rfl⟩, hpos,
          hle⟩

/-- **Matches are on the mats that counted them** exactly in the runs in which every call
finds the matches it numbers without a mat or on the mat their weight is assigned to. -/
theorem onItsMat_iff_matsFit (s : NumberingState) (acts : List NumberingAction) :
    Along numberingStep OnItsMat s acts ↔ Along numberingStep MatsFit s acts :=
  along_congr (I := fun _ => True) (fun _ _ _ => trivial)
    (fun a s _ => onItsMat_step_iff a s) trivial acts

end OnItsMat

/-- A draw of two players as it is created: both have a BYE in the first round. -/
def twoPlayers (weightCategory : ℕ) (a b : ℤ) : Bracket where
  scope := ⟨1, "", some 3, 1, weightCategory⟩
  size := 4
  bouts :=
    [⟨⟨1, 1, 2, none, some a, true⟩, none, none⟩, ⟨⟨1, 3, 4, some b, none, true⟩, none, none⟩]

/-- A competition with two such draws, whose weights are both on mat 1. -/
def twoWeights : NumberingState where
  draws := (Table.empty.insert (twoPlayers 1 5 6)).insert (twoPlayers 2 7 8)
  events competitionId := if competitionId = 1 then some ⟨[⟨1, [1, 2]⟩], none⟩ else none
  minWeight _ := 0

/-- The matches of weight 1 are numbered, the weight moves to mat 2, and they are numbered
again. -/
def movedWeight : List NumberingAction :=
  [.number 1 [1] true, .assignMats 1 [⟨2, [1]⟩], .number 1 [1] true]

/-- The final of weight 1 stays on mat 1 and has its number from mat 2. -/
theorem final_left_on_old_mat : ¬ Along numberingStep OnItsMat twoWeights movedWeight := by
  rintro ⟨-, -, honMat, -⟩
  let moved := run numberingStep twoWeights (movedWeight.take 2)
  obtain ⟨counters, hok⟩ := exists_counters 1 [1] true moved (by decide +kernel)
  have hfinal : (boutAt (numberingStep (.number 1 [1] true) moved).draws (1, 2)).map Bout.matNo =
      some (some 1) := by
    decide +kernel
  obtain ⟨m, hm, hmat⟩ := Option.map_eq_some_iff.mp hfinal
  have hnumbers : moved.Numbers 1 [1] (moved.matOf 1) 2 1 2 := by
    decide +kernel
  have hon := (honMat counters _ hok 2 (1, 2) m hnumbers hm).1
  rw [hmat] at hon
  cases hon

/-! ### Numbers that are given twice -/

/-- The calls for one competition. -/
inductive NumberingCall where
  | number (weightIds : List ℕ) (clearPrev : Bool)
  | clear (weightIds : List ℕ)

def NumberingCall.action (competitionId : ℕ) : NumberingCall → NumberingAction
  | .number weightIds clearPrev => .number competitionId weightIds clearPrev
  | .clear weightIds => .clear competitionId weightIds

/-- The state after a call for a competition. -/
def callStep (competitionId : ℕ) (call : NumberingCall) (s : NumberingState) : NumberingState :=
  numberingStep (call.action competitionId) s

/-- The competition has the match at this place. -/
def NumberingState.HasBout (s : NumberingState) (competitionId : ℕ) (x : ℕ × ℕ) (m : Bout) : Prop :=
  ∃ b, s.draws.get x.1 = some b ∧ b.scope.competition = competitionId ∧ b.bouts[x.2]? = some m

/-- No two matches of the competition that are numbered and have the same mat have the same
number. -/
def UniqueNumbers (competitionId : ℕ) (s : NumberingState) : Prop :=
  ∀ x y m m', s.HasBout competitionId x m → s.HasBout competitionId y m' →
    m.matchNumber ≠ none → m.matNo = m'.matNo → m.matchNumber = m'.matchNumber → x = y

/-- No match of the competition has a mat other than the one of its weight. -/
def MatsAssigned (competitionId : ℕ) (s : NumberingState) : Prop :=
  ∀ pk b m, s.draws.get pk = some b → b.scope.competition = competitionId → m ∈ b.bouts →
    m.matNo.getD 0 = 0 ∨ m.matNo = s.matOf competitionId b.scope.weightCategory

/-- The number of a match stays through a call: the call does not number the match, and
does not clear it either. -/
def KeepsNumber (s : NumberingState) (competitionId : ℕ) (weightIds : List ℕ) (clearPrev : Bool)
    (x : ℕ × ℕ) : Prop :=
  (∀ matNo, ¬ s.Numbers competitionId weightIds (s.matOf competitionId) matNo x.1 x.2) ∧
    (clearPrev = true → ∀ b, s.draws.get x.1 = some b → ¬ Selects competitionId weightIds b)

/-- The matches of a draw that get a number: all but the BYEs of its first round. -/
def Bracket.numberedCount (b : Bracket) : ℕ :=
  b.bouts.countP fun m => !(m.isBye && decide (b.firstRoundNo = some m.roundNo))

/-- How many matches a call numbers on a mat. -/
def NumberingState.countOn (s : NumberingState) (competitionId : ℕ) (weightIds : List ℕ)
    (matNo : ℕ) : ℕ :=
  (((s.drawsOf competitionId weightIds).filter fun d =>
    s.matOf competitionId d.2.scope.weightCategory = some matNo &&
      d.2.ensureRoundsExist.hasRealMatch).map fun d => d.2.ensureRoundsExist.numberedCount).sum

/-- A number that stays through a numbering call is larger than all that the call gives on
its mat. -/
def KeptApart (competitionId : ℕ) : NumberingCall → NumberingState → Prop
  | .number weightIds clearPrev, s =>
    (∃ r, s.selection competitionId weightIds = .ok r) →
      ∀ x m matNo number, s.HasBout competitionId x m →
        KeepsNumber s competitionId weightIds clearPrev x → m.matNo = some matNo →
          m.matchNumber = some number → number = 0 ∨ s.countOn competitionId weightIds matNo < number
  | .clear _, _ => True

section Unique

variable {s : NumberingState} {competitionId : ℕ} {weightIds : List ℕ} {clearPrev : Bool}
  {x : ℕ × ℕ} {m : Bout} {matNo number : ℕ}

/-- The positions of the matches that get a number. -/
def Bracket.numberedPositions (b : Bracket) : List ℕ :=
  (b.outline.bouts.zipIdx.filter fun x => !x.1.isBye).map Prod.snd

theorem Bracket.mem_numberedPositions_iff {b : Bracket} {i : ℕ} :
    i ∈ b.numberedPositions ↔ b.Counts i := by
  simp only [numberedPositions, List.mem_map, List.mem_filter, List.mem_zipIdx_iff_getElem?,
    Counts]
  constructor
  · rintro ⟨⟨m, _⟩, ⟨hm, hbye⟩, rfl⟩
    exact ⟨m, hm, by simpa using hbye⟩
  · rintro ⟨m, hm, hbye⟩
    exact ⟨(m, i), ⟨hm, by simp [hbye]⟩, rfl⟩

theorem Bracket.nodup_numberedPositions {b : Bracket} : b.numberedPositions.Nodup := by
  have hsub : b.numberedPositions.Sublist (b.outline.bouts.zipIdx.map Prod.snd) :=
    List.filter_sublist.map _
  apply hsub.nodup
  rw [List.zipIdx_map_snd]
  exact List.nodup_range'

theorem Bracket.length_numberedPositions {b : Bracket} :
    b.numberedPositions.length = b.numberedCount := by
  have hzip : (b.outline.bouts.zipIdx.filter fun x => !x.1.isBye).length =
      ((b.outline.bouts.zipIdx.map Prod.fst).filter fun m => !m.isBye).length := by
    rw [List.filter_map, List.length_map]
    rfl
  rw [numberedPositions, List.length_map, hzip, List.zipIdx_map_fst, outline, List.filter_map,
    List.length_map, numberedCount, List.countP_eq_length_filter]
  rfl

/-- **The counter of a mat ends at the number of matches numbered on it.** -/
theorem advance_schedule :
    advance (fun _ => 0)
        (s.schedule competitionId weightIds clearPrev (s.matOf competitionId)) matNo =
      s.countOn competitionId weightIds matNo := by
  -- the same matches, listed by draw
  let byDraw : List (ℕ × ℕ) := ((s.drawsOf competitionId weightIds).filter fun d =>
    s.matOf competitionId d.2.scope.weightCategory = some matNo &&
      d.2.ensureRoundsExist.hasRealMatch).flatMap fun d =>
        d.2.ensureRoundsExist.numberedPositions.map (Prod.mk d.1)
  have hlength : byDraw.length = s.countOn competitionId weightIds matNo := by
    simp only [byDraw, List.length_flatMap, List.length_map, Bracket.length_numberedPositions,
      NumberingState.countOn]
  have hbyDraw : byDraw.Nodup := by
    rw [List.nodup_flatMap]
    constructor
    · exact fun d _ => Bracket.nodup_numberedPositions.map (Prod.mk_right_injective _)
    · have hkeys := (List.filter_sublist (p := fun d : ℕ × Bracket =>
        s.matOf competitionId d.2.scope.weightCategory = some matNo &&
          d.2.ensureRoundsExist.hasRealMatch).map Prod.fst).nodup
        (nodup_drawsOf s competitionId weightIds)
      rw [List.Nodup, List.pairwise_map] at hkeys
      apply hkeys.imp
      intro d d' hne y hy hy'
      obtain ⟨i, -, rfl⟩ := List.mem_map.mp hy
      obtain ⟨i', -, heq⟩ := List.mem_map.mp hy'
      exact hne (Prod.mk.inj heq).1.symm
  have hmem : ∀ y : ℕ × ℕ, y ∈ byDraw ↔
      (matNo, y) ∈ s.schedule competitionId weightIds clearPrev (s.matOf competitionId) := by
    rintro ⟨pk, i⟩
    rw [mem_schedule_iff]
    simp only [byDraw, List.mem_flatMap, List.mem_filter, List.mem_map, Bool.and_eq_true,
      decide_eq_true_eq, Bracket.mem_numberedPositions_iff]
    constructor
    · rintro ⟨⟨pk, b⟩, ⟨hd, hw, hreal⟩, i, hcounts, heq⟩
      obtain ⟨rfl, rfl⟩ := Prod.mk.inj heq
      obtain ⟨hb, hsel⟩ := mem_drawsOf_iff.mp hd
      exact ⟨b, hb, hsel, hw, hreal, hcounts⟩
    · rintro ⟨b, hb, hsel, hw, hreal, hcounts⟩
      exact ⟨(pk, b), ⟨mem_drawsOf_iff.mpr ⟨hb, hsel⟩, hw, hreal⟩, i, hcounts, rfl⟩
  let onMat := (s.schedule competitionId weightIds clearPrev (s.matOf competitionId)).filter fun t =>
    t.1 = matNo
  have honMat : (onMat.map Prod.snd).Nodup :=
    (List.filter_sublist.map _).nodup nodup_schedule
  have hperm : (onMat.map Prod.snd).Perm byDraw := by
    rw [List.perm_ext_iff_of_nodup honMat hbyDraw]
    intro y
    rw [hmem]
    simp only [onMat, List.mem_map, List.mem_filter, decide_eq_true_eq]
    constructor
    · rintro ⟨⟨_, _⟩, ⟨ht, rfl⟩, rfl⟩
      exact ht
    · exact fun ht => ⟨(matNo, y), ⟨ht, rfl⟩, rfl⟩
  rw [advance, Nat.zero_add, List.countP_eq_length_filter, ← hlength, ← hperm.length_eq,
    List.length_map]

/-! ### One call -/

theorem hasBout_iff :
    s.HasBout competitionId x m ↔ boutAt s.draws x = some m ∧
      ∃ b, s.draws.get x.1 = some b ∧ b.scope.competition = competitionId := by
  unfold NumberingState.HasBout boutAt
  constructor
  · rintro ⟨b, hb, hcomp, hm⟩
    exact ⟨by rw [hb, Option.bind_some, hm], b, hb, hcomp⟩
  · rintro ⟨hm, b, hb, hcomp⟩
    rw [hb, Option.bind_some] at hm
    exact ⟨b, hb, hcomp, hm⟩

/-- The draws of a competition stay its draws through a call. -/
theorem competition_numbered_iff {w2m : ℕ → Option ℕ} :
    (∃ b, (s.numbered competitionId weightIds clearPrev w2m).draws.get x.1 = some b ∧
        b.scope.competition = competitionId) ↔
      ∃ b, s.draws.get x.1 = some b ∧ b.scope.competition = competitionId := by
  constructor
  · rintro ⟨b, hb, hcomp⟩
    obtain ⟨b₀, hb₀, hscope⟩ := scope_numbered hb
    exact ⟨b₀, hb₀, hscope ▸ hcomp⟩
  · rintro ⟨b, hb, hcomp⟩
    have houtline : outlineAt (s.numbered competitionId weightIds clearPrev w2m).draws x.1 = _ :=
      outlineAt_numbered x.1
    rw [outlineAt, outlineAt, get_prepared, hb, Option.map_some, Option.map_some] at houtline
    obtain ⟨b', hb', -⟩ := Option.map_eq_some_iff.mp houtline
    obtain ⟨b₀, hb₀, hscope⟩ := scope_numbered hb'
    obtain rfl := Option.some.inj (hb₀.symm.trans hb)
    exact ⟨b', hb', hscope ▸ hcomp⟩

/-- The match has its mat and number from this call. -/
theorem hasBout_of_issued (hmats : MatsAssigned competitionId s)
    (h : (x, matNo, number) ∈ s.issued competitionId weightIds clearPrev (s.matOf competitionId)) :
    ∃ m, (s.numbered competitionId weightIds clearPrev (s.matOf competitionId)).HasBout
      competitionId x m ∧ m.matNo = some matNo ∧ m.matchNumber = some number := by
  have hnumbers := numbers_of_issued h
  obtain ⟨m, hm⟩ := boutAt_prepared_of_numbers clearPrev hnumbers
  obtain ⟨b, hb, hsel, hmat, -⟩ := hnumbers
  have hafter := boutAt_numbered_of_issued h
  rw [hm, Option.map_some] at hafter
  refine ⟨_, hasBout_iff.mpr ⟨hafter, competition_numbered_iff.mpr ⟨b, hb, hsel.1⟩⟩, ?_, rfl⟩
  rw [matNo_stamp, ← hmat]
  rw [boutAt_prepared hb hsel] at hm
  rcases Bracket.prepare_cases hm with ⟨m₀, hm₀, rfl⟩ | ⟨-, hnone, -⟩
  · simpa using hmats x.1 b m₀ hb hsel.1 (List.mem_of_getElem? hm₀)
  · exact Or.inl (by rw [hnone]; rfl)

/-- A number that stays is on the match it was on. -/
theorem hasBout_of_keepsNumber (hm : s.HasBout competitionId x m)
    (hkeeps : KeepsNumber s competitionId weightIds clearPrev x) :
    (s.numbered competitionId weightIds clearPrev (s.matOf competitionId)).HasBout
      competitionId x m := by
  obtain ⟨b, hb, hcomp, hrow⟩ := hm
  refine hasBout_iff.mpr ⟨?_, competition_numbered_iff.mpr ⟨b, hb, hcomp⟩⟩
  rw [boutAt_numbered_of_not clearPrev hkeeps.1]
  by_cases hsel : Selects competitionId weightIds b
  · rw [boutAt_prepared hb hsel, Bracket.getElem?_prepare hrow]
    cases clearPrev with
    | false => rfl
    | true => exact absurd hsel (hkeeps.2 rfl b hb)
  · rw [boutAt_prepared_of_not hb hsel, hrow]

/-- **The numbers after a call** are those it gave and those that stayed. -/
theorem numbered_cases (hmats : MatsAssigned competitionId s)
    (hm : (s.numbered competitionId weightIds clearPrev (s.matOf competitionId)).HasBout
      competitionId x m) (hnumber : m.matchNumber = some number) :
    (∃ matNo, m.matNo = some matNo ∧
      (x, matNo, number) ∈ s.issued competitionId weightIds clearPrev (s.matOf competitionId)) ∨
      s.HasBout competitionId x m ∧ KeepsNumber s competitionId weightIds clearPrev x := by
  by_cases hcounted : ∃ matNo,
      s.Numbers competitionId weightIds (s.matOf competitionId) matNo x.1 x.2
  · obtain ⟨matNo, hnumbers⟩ := hcounted
    obtain ⟨number', hissued⟩ := exists_issued clearPrev hnumbers
    obtain ⟨m', hm', hmat', hnumber'⟩ := hasBout_of_issued hmats hissued
    obtain rfl := Option.some.inj ((hasBout_iff.mp hm).1.symm.trans (hasBout_iff.mp hm').1)
    obtain rfl := Option.some.inj (hnumber.symm.trans hnumber')
    exact Or.inl ⟨matNo, hmat', hissued⟩
  · rw [not_exists] at hcounted
    obtain ⟨hrow, hexists⟩ := hasBout_iff.mp hm
    obtain ⟨b, hb, hcomp⟩ := competition_numbered_iff.mp hexists
    rw [boutAt_numbered_of_not clearPrev hcounted] at hrow
    right
    by_cases hsel : Selects competitionId weightIds b
    · -- what was cleared has no number, and neither has a new match
      rw [boutAt_prepared hb hsel] at hrow
      rcases Bracket.prepare_cases hrow with ⟨m₀, hm₀, rfl⟩ | ⟨-, -, hnone⟩
      · cases clearPrev with
        | true => cases hnumber
        | false => exact ⟨⟨b, hb, hcomp, hm₀⟩, hcounted, fun h => by cases h⟩
      · rw [hnone] at hnumber
        cases hnumber
    · rw [boutAt_prepared_of_not hb hsel] at hrow
      refine ⟨⟨b, hb, hcomp, hrow⟩, hcounted, fun _ b' hb' => ?_⟩
      obtain rfl := Option.some.inj (hb.symm.trans hb')
      exact hsel

@[simp] theorem matOf_numbered (w2m : ℕ → Option ℕ) :
    (s.numbered competitionId weightIds clearPrev w2m).matOf competitionId =
      s.matOf competitionId := by
  rw [NumberingState.matOf, events_numbered, NumberingState.matOf]

theorem callStep_number (hsel : ∃ r, s.selection competitionId weightIds = .ok r) :
    callStep competitionId (.number weightIds clearPrev) s =
      s.numbered competitionId weightIds clearPrev (s.matOf competitionId) := by
  have hcall : numberMatchesForCompetition competitionId weightIds clearPrev s = .ok _ :=
    numberMatchesForCompetition_ok_iff.mpr ⟨hsel, rfl⟩
  simp only [callStep, NumberingCall.action, numberingStep, hcall]

theorem callStep_number_of_not (hsel : ¬ ∃ r, s.selection competitionId weightIds = .ok r) :
    callStep competitionId (.number weightIds clearPrev) s = s := by
  cases hs : s.selection competitionId weightIds with
  | ok r => exact absurd ⟨r, hs⟩ hsel
  | error e =>
    simp only [callStep, NumberingCall.action, numberingStep,
      numberMatchesForCompetition_eq_error hs]

/-- Clearing numbers does that, or nothing. -/
theorem callStep_clear (s : NumberingState) (competitionId : ℕ) (weightIds : List ℕ) :
    callStep competitionId (.clear weightIds) s = s ∨
      callStep competitionId (.clear weightIds) s =
        { s with draws := s.updateDraws competitionId weightIds Bracket.clearNumbers } := by
  simp only [callStep, NumberingCall.action, numberingStep, clearMatchNumbersForCompetition]
  cases s.events competitionId with
  | none => exact Or.inl rfl
  | some event =>
    dsimp only
    split_ifs
    · exact Or.inl rfl
    · exact Or.inr rfl

/-- A match after a clearing is one from before it, with its number or without. -/
theorem hasBout_clear
    (hm : (callStep competitionId (.clear weightIds) s).HasBout competitionId x m) :
    ∃ m₀, s.HasBout competitionId x m₀ ∧ (m = m₀ ∨ m = { m₀ with matchNumber := none }) := by
  rcases callStep_clear s competitionId weightIds with heq | heq
  · rw [heq] at hm
    exact ⟨m, hm, Or.inl rfl⟩
  · rw [heq] at hm
    obtain ⟨b, hb, hcomp, hrow⟩ := hm
    obtain ⟨b₀, hb₀, rfl⟩ := Option.map_eq_some_iff.mp hb
    split_ifs at hcomp hrow
    · rw [Bracket.clearNumbers, List.getElem?_map] at hrow
      obtain ⟨m₀, hm₀, rfl⟩ := Option.map_eq_some_iff.mp hrow
      exact ⟨m₀, ⟨b₀, hb₀, hcomp, hm₀⟩, Or.inr rfl⟩
    · exact ⟨m, ⟨b₀, hb₀, hcomp, hrow⟩, Or.inl rfl⟩

/-- Clearing numbers takes no match from its mat. -/
theorem matsAssigned_clearNumbers (hmats : MatsAssigned competitionId s) :
    MatsAssigned competitionId
      { s with draws := s.updateDraws competitionId weightIds Bracket.clearNumbers } := by
  intro pk b m hb hcomp hmem
  obtain ⟨b₀, hb₀, rfl⟩ := Option.map_eq_some_iff.mp hb
  split_ifs at hcomp hmem ⊢
  · obtain ⟨m₀, hm₀, rfl⟩ := List.mem_map.mp hmem
    exact hmats pk b₀ m₀ hb₀ hcomp hm₀
  · exact hmats pk b₀ m hb₀ hcomp hmem

/-- The matches that are numbered get the mats of their weights, the others keep theirs. -/
theorem matsAssigned_numbered (hmats : MatsAssigned competitionId s) :
    MatsAssigned competitionId
      (s.numbered competitionId weightIds clearPrev (s.matOf competitionId)) := by
  intro pk b m hb hcomp hmem
  obtain ⟨i, hrow⟩ := List.getElem?_of_mem hmem
  obtain ⟨b₀, hb₀, hscope⟩ := scope_numbered hb
  rw [← hscope] at hcomp
  rw [← hscope, matOf_numbered]
  have hafter : boutAt (s.numbered competitionId weightIds clearPrev
      (s.matOf competitionId)).draws (pk, i) = some m := by
    rw [boutAt_of_get hb, hrow]
  by_cases hcounted : ∃ matNo,
      s.Numbers competitionId weightIds (s.matOf competitionId) matNo pk i
  · obtain ⟨matNo, hnumbers⟩ := hcounted
    -- the mat was written with the number
    obtain ⟨number, hissued⟩ := exists_issued (x := (pk, i)) clearPrev hnumbers
    obtain ⟨m', hm', hmat, -⟩ := hasBout_of_issued hmats hissued
    obtain rfl := Option.some.inj (hafter.symm.trans (hasBout_iff.mp hm').1)
    obtain ⟨b', hb', -, hw, -⟩ := hnumbers
    obtain rfl := Option.some.inj (hb₀.symm.trans hb')
    exact Or.inr (hmat.trans hw.symm)
  · rw [not_exists] at hcounted
    -- no number was given, so the row is as it was prepared
    rw [boutAt_numbered_of_not clearPrev hcounted] at hafter
    by_cases hsel : Selects competitionId weightIds b₀
    · rw [boutAt_prepared hb₀ hsel] at hafter
      rcases Bracket.prepare_cases hafter with ⟨m₀, hm₀, rfl⟩ | ⟨-, hnone, -⟩
      · have hmat := hmats pk b₀ m₀ hb₀ hcomp (List.mem_of_getElem? hm₀)
        simpa using hmat
      · exact Or.inl (by rw [hnone]; rfl)
    · rw [boutAt_prepared_of_not hb₀ hsel] at hafter
      exact hmats pk b₀ m hb₀ hcomp (List.mem_of_getElem? hafter)

/-- **A call leaves the matches on the mats of their weights.** -/
theorem matsAssigned_callStep (call : NumberingCall) (s : NumberingState)
    (hmats : MatsAssigned competitionId s) :
    MatsAssigned competitionId (callStep competitionId call s) := by
  cases call with
  | clear weightIds =>
    rcases callStep_clear s competitionId weightIds with heq | heq
    · rw [heq]
      exact hmats
    · rw [heq]
      exact matsAssigned_clearNumbers hmats
  | number weightIds clearPrev =>
    by_cases hsel : ∃ r, s.selection competitionId weightIds = .ok r
    · rw [callStep_number hsel]
      exact matsAssigned_numbered hmats
    · rw [callStep_number_of_not hsel]
      exact hmats

/-- A number that a call gives is not one that stays on the same mat. -/
theorem not_kept_of_issued
    (hapart : ∀ x m matNo number, s.HasBout competitionId x m →
      KeepsNumber s competitionId weightIds clearPrev x → m.matNo = some matNo →
        m.matchNumber = some number → number = 0 ∨ s.countOn competitionId weightIds matNo < number)
    (hissued : (x, matNo, number) ∈
      s.issued competitionId weightIds clearPrev (s.matOf competitionId))
    {y : ℕ × ℕ} (hm : s.HasBout competitionId y m)
    (hkeeps : KeepsNumber s competitionId weightIds clearPrev y) (hmat : m.matNo = some matNo) :
    m.matchNumber ≠ some number := by
  intro hnumber
  obtain ⟨hpos, hle⟩ := bounds_of_mem_issue hissued
  rw [advance_schedule] at hle
  rcases hapart y m matNo number hm hkeeps hmat hnumber with hzero | habove
  · omega
  · omega

/-- **One call** keeps the numbers unique exactly if it keeps them apart. -/
theorem uniqueNumbers_callStep_iff (call : NumberingCall) (s : NumberingState)
    (hmats : MatsAssigned competitionId s) (huniq : UniqueNumbers competitionId s) :
    UniqueNumbers competitionId (callStep competitionId call s) ↔ KeptApart competitionId call s := by
  cases call with
  | clear weightIds =>
    simp only [KeptApart, iff_true]
    intro x y m m' hm hm' hnumber hmat hsame
    obtain ⟨m₀, hm₀, rfl | rfl⟩ := hasBout_clear hm
    · obtain ⟨m₁, hm₁, rfl | rfl⟩ := hasBout_clear hm'
      · exact huniq x y m m' hm₀ hm₁ hnumber hmat hsame
      · exact absurd hsame hnumber
    · exact absurd rfl hnumber
  | number weightIds clearPrev =>
    by_cases hsel : ∃ r, s.selection competitionId weightIds = .ok r
    · rw [callStep_number hsel]
      constructor
      · -- a number that stays and is given again is on two matches
        intro hafter _ x m matNo number hm hkeeps hmat hnumber
        by_contra hbelow
        obtain ⟨y, hissued⟩ : ∃ y, (y, matNo, number) ∈
            s.issued competitionId weightIds clearPrev (s.matOf competitionId) := by
          apply exists_issue
          · omega
          · rw [advance_schedule]
            omega
        obtain ⟨m', hm', hmat', hnumber'⟩ := hasBout_of_issued hmats hissued
        obtain rfl := hafter x y m m' (hasBout_of_keepsNumber hm hkeeps) hm' (by simp [hnumber])
          (hmat.trans hmat'.symm) (hnumber.trans hnumber'.symm)
        exact hkeeps.1 matNo (numbers_of_issued hissued)
      · intro hapart x y m m' hm hm' hne hmat hsame
        obtain ⟨number, hnumber⟩ := Option.ne_none_iff_exists'.mp hne
        have hnumber' : m'.matchNumber = some number := hsame.symm.trans hnumber
        rcases numbered_cases hmats hm hnumber with ⟨matNo, hmatNo, hissued⟩ | ⟨hold, hkeeps⟩
        · rcases numbered_cases hmats hm' hnumber' with
            ⟨matNo', hmatNo', hissued'⟩ | ⟨hold', hkeeps'⟩
          · obtain rfl := Option.some.inj (hmatNo.symm.trans (hmat.trans hmatNo'))
            exact issue_injective hissued hissued'
          · exact absurd hnumber' (not_kept_of_issued (hapart hsel) hissued hold' hkeeps'
              (hmat.symm.trans hmatNo))
        · rcases numbered_cases hmats hm' hnumber' with
            ⟨matNo', hmatNo', hissued'⟩ | ⟨hold', hkeeps'⟩
          · exact absurd hnumber (not_kept_of_issued (hapart hsel) hissued' hold hkeeps
              (hmat.trans hmatNo'))
          · exact huniq x y m m' hold hold' hne hmat hsame
    · rw [callStep_number_of_not hsel]
      exact ⟨fun _ h => absurd h hsel, fun _ => huniq⟩

/-- **No two matches on a mat share a number** exactly in the runs in which every numbering
call finds the numbers that stay above those it gives on their mats. -/
theorem uniqueNumbers_iff_keptApart (competitionId : ℕ) (s : NumberingState)
    (calls : List NumberingCall) (hmats : MatsAssigned competitionId s)
    (huniq : UniqueNumbers competitionId s) :
    (∀ t ∈ visited (callStep competitionId) s calls, UniqueNumbers competitionId t) ↔
      Along (callStep competitionId) (KeptApart competitionId) s calls :=
  forall_visited_iff matsAssigned_callStep uniqueNumbers_callStep_iff hmats huniq calls

end Unique

/-- The competition has no numbers and no mats yet. -/
theorem twoWeights_fresh {x : ℕ × ℕ} {m : Bout} (h : twoWeights.HasBout 1 x m) :
    m.matNo = none ∧ m.matchNumber = none := by
  have hrows : ∀ pk b, twoWeights.draws.get pk = some b →
      ∀ m ∈ b.bouts, m.matNo = none ∧ m.matchNumber = none :=
    Table.forall_insert (Table.forall_insert Table.forall_empty (by decide)) (by decide)
  obtain ⟨b, hb, -, hrow⟩ := h
  exact hrows x.1 b hb m (List.mem_of_getElem? hrow)

theorem twoWeights_matsAssigned : MatsAssigned 1 twoWeights := by
  intro pk b m hb hcomp hmem
  obtain ⟨i, hrow⟩ := List.getElem?_of_mem hmem
  left
  rw [(twoWeights_fresh (x := (pk, i)) ⟨b, hb, hcomp, hrow⟩).1]
  rfl

theorem twoWeights_uniqueNumbers : UniqueNumbers 1 twoWeights := fun _ _ _ _ hm _ hnumber =>
  absurd (twoWeights_fresh hm).2 hnumber

/-- One call for both weights keeps the numbers unique. -/
theorem uniqueNumbers_of_one_call :
    UniqueNumbers 1 (run (callStep 1) twoWeights [.number [1, 2] false]) := by
  have hapart : Along (callStep 1) (KeptApart 1) twoWeights [.number [1, 2] false] := by
    refine ⟨fun _ x m matNo number hm _ _ hnumber => ?_, trivial⟩
    rw [(twoWeights_fresh hm).2] at hnumber
    cases hnumber
  have hall := (uniqueNumbers_iff_keptApart 1 twoWeights _ twoWeights_matsAssigned
    twoWeights_uniqueNumbers).mpr hapart
  exact hall _ (run_mem_visited _ _)

/-- One call for each weight: both finals are number 1 on mat 1. -/
theorem finals_share_number :
    MatsAssigned 1 twoWeights ∧ UniqueNumbers 1 twoWeights ∧
      ¬ UniqueNumbers 1 (run (callStep 1) twoWeights [.number [1] true, .number [2] true]) := by
  refine ⟨twoWeights_matsAssigned, twoWeights_uniqueNumbers, fun huniq => ?_⟩
  have hbout : ∀ pk ∈ [1, 2], ∃ m,
      (run (callStep 1) twoWeights [.number [1] true, .number [2] true]).HasBout 1 (pk, 2) m ∧
        m.matNo = some 1 ∧ m.matchNumber = some 1 := by
    intro pk hpk
    have hfinal : ∀ pk ∈ [1, 2],
        ((run (callStep 1) twoWeights [.number [1] true, .number [2] true]).draws.get pk).map
          (fun b => (b.scope.competition, b.bouts[2]?.map fun m => (m.matNo, m.matchNumber))) =
            some (1, some (some 1, some 1)) := by
      decide +kernel
    obtain ⟨b, hb, heq⟩ := Option.map_eq_some_iff.mp (hfinal pk hpk)
    obtain ⟨hcomp, hrow⟩ := Prod.mk.inj heq
    obtain ⟨m, hm, hvalues⟩ := Option.map_eq_some_iff.mp hrow
    obtain ⟨hmat, hnumber⟩ := Prod.mk.inj hvalues
    exact ⟨m, ⟨b, hb, hcomp, hm⟩, hmat, hnumber⟩
  obtain ⟨m, hm, hmat, hnumber⟩ := hbout 1 (by simp)
  obtain ⟨m', hm', hmat', hnumber'⟩ := hbout 2 (by simp)
  have heq := huniq (1, 2) (2, 2) m m' hm hm' (by simp [hnumber]) (hmat.trans hmat'.symm)
    (hnumber.trans hnumber'.symm)
  cases heq

end Tkdchb
