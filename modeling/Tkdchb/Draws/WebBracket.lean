import Tkdchb.Draws.FullBracket

/-!
# The bracket on the web

The page of a competition draws each bracket on a board of five columns with sixteen, eight,
four, two and one pairs of inputs. A draw with fewer rounds starts in a later column, and
the columns before it are hidden. A draw with more than five rounds would have to start
before the first column.

## Main definitions

* `byRound` — the matches of each round, as the page collects them
* `webBoard` — where the page writes each match
* `Board.ShowsAll` — each match has inputs of its own, two columns meet at the next round

## Main results

* `webRoundsCount_two_pow` — the loop of the page counts the rounds, up to thirty
* `mem_cells_iff` — a match is written at its place in the slot order of its round
* `web_board_iff` — a numbered draw is shown exactly if its table has at most 32 slots
-/

namespace Tkdchb

open Transition NumberingState

/-! ### The page -/

/-- `1 << n` in JavaScript, a number of 32 bits with a sign. -/
def jsShiftOne (n : ℕ) : ℤ := (BitVec.ofNat 32 (2 ^ (n % 32))).toInt

/-- The loop that counts rounds. The values of `1 << n` repeat after 32 steps, so without
more fuel it would not end either. -/
def webRoundsLoop (size : ℕ) : ℕ → ℕ → Option ℕ
  | 0, _ => none
  | fuel + 1, n => if jsShiftOne n < size then webRoundsLoop size fuel (n + 1) else some n

/-- `roundsCount` in `applyRoundShifting` -/
def webRoundsCount (declaredSize : ℕ) : Option ℕ :=
  (webRoundsLoop (max 1 declaredSize) 32 0).map (max 1)

/-- `declaredSize` -/
def declaredSize (size : ℕ) (ms : List Bout) : ℕ :=
  if size ≠ 0 then size else max 1 (ms.length * 2)

/-- A match is put to the others of its round; a round is new at the end. -/
def pushRound (m : Bout) : List (ℕ × List Bout) → List (ℕ × List Bout)
  | [] => [(m.roundNo, [m])]
  | (r, arr) :: rest =>
    if r = m.roundNo then (r, arr ++ [m]) :: rest else (r, arr) :: pushRound m rest

/-- `byRound` -/
def byRound (ms : List Bout) : List (ℕ × List Bout) :=
  ms.foldl (fun rounds m => pushRound m rounds) []

/-- The matches of a round in the order of `slot_a`; the sort is stable. -/
def bySlot (arr : List Bout) : List Bout := arr.insertionSort fun m m' => m.slotA ≤ m'.slotA

/-- The inputs of a match are those with this `data-r` and `data-i`. -/
structure Cell where
  column : ℤ
  index : ℕ
  deriving DecidableEq, Repr

/-- The pairs of inputs in the columns of the board. -/
def columnLength : ℤ → ℕ
  | 1 => 16
  | 2 => 8
  | 3 => 4
  | 4 => 2
  | 5 => 1
  | _ => 0

/-- Where the page writes the matches, and by how many columns it starts later. -/
structure Board where
  shift : ℤ
  cells : List (Bout × Cell)

/-- What the page does with a draw, if its loop ends. -/
def webBoard (size : ℕ) (ms : List Bout) : Option Board :=
  (webRoundsCount (declaredSize size ms)).map fun (roundsCount : ℕ) =>
    let shift : ℤ := 5 - (roundsCount : ℤ)
    { shift
      cells := (byRound ms).flatMap fun (r, arr) =>
        (bySlot arr).zipIdx.map fun (m, idx) => (m, ⟨r + shift, idx⟩) }

/-- The inputs are on the board, in a column that is not hidden. -/
def Board.Shows (board : Board) (cell : Cell) : Prop :=
  cell.index < columnLength cell.column ∧ ¬cell.column < board.shift + 1

/-- The place of a match in its round. In the first round `slot_a` counts the slots of the
table from one, in later rounds the matches from zero. -/
def Bout.place (m : Bout) : ℕ := if m.roundNo = 1 then m.slotA / 2 else m.slotA

/-- All matches are shown: each at one pair of inputs and no two at the same, and a match
stands in the column after the matches it follows, at half their place. -/
structure Board.ShowsAll (board : Board) (ms : List Bout) : Prop where
  shown : ∀ m ∈ ms, ∃ cell, (m, cell) ∈ board.cells ∧ board.Shows cell
  unique : ∀ m cell cell', (m, cell) ∈ board.cells → (m, cell') ∈ board.cells → cell = cell'
  distinct : ∀ m m' cell, (m, cell) ∈ board.cells → (m', cell) ∈ board.cells → m = m'
  fed : ∀ m m' cell cell', (m, cell) ∈ board.cells → (m', cell') ∈ board.cells →
    m'.roundNo = m.roundNo + 1 → m'.place = m.place / 2 →
      cell' = ⟨cell.column + 1, cell.index / 2⟩

/-- The page shows all matches it is given. -/
def ShowsEveryMatch (size : ℕ) (ms : List Bout) : Prop :=
  ∃ board, webBoard size ms = some board ∧ board.ShowsAll ms

/-! ### Counting rounds -/

theorem jsShiftOne_eq : ∀ n < 31, jsShiftOne n = 2 ^ n := by
  decide +kernel

/-- A number of 32 bits with a sign stays below `2 ^ 31`. -/
theorem jsShiftOne_lt (n : ℕ) : jsShiftOne n < 2 ^ 31 := BitVec.toInt_lt

theorem webRoundsLoop_two_pow {k fuel n : ℕ} (hk : k ≤ 30) (hle : n ≤ k) (hfuel : k < n + fuel) :
    webRoundsLoop (2 ^ k) fuel n = some k := by
  induction fuel generalizing n with
  | zero => omega
  | succ fuel ih =>
    have hpow : jsShiftOne n < ((2 ^ k : ℕ) : ℤ) ↔ n < k := by
      rw [jsShiftOne_eq n (by omega)]
      exact_mod_cast Nat.pow_lt_pow_iff_right Nat.one_lt_two
    rw [webRoundsLoop]
    simp only [hpow]
    split_ifs with hlt
    · exact ih (by omega) (by omega)
    · rw [Nat.le_antisymm hle (Nat.not_lt.mp hlt)]

theorem webRoundsLoop_eq_none {size fuel n : ℕ} (h : 2 ^ 31 ≤ size) :
    webRoundsLoop size fuel n = none := by
  induction fuel generalizing n with
  | zero => rfl
  | succ fuel ih =>
    have hlt : jsShiftOne n < size := (jsShiftOne_lt n).trans_le (by exact_mod_cast h)
    rw [webRoundsLoop, if_pos hlt, ih]

/-- **The page counts the rounds of a table**, up to thirty; for a larger one its loop does
not end. -/
theorem webRoundsCount_two_pow {k : ℕ} (hk : 0 < k) :
    webRoundsCount (2 ^ k) = if k ≤ 30 then some k else none := by
  rw [webRoundsCount, max_eq_right (Nat.two_pow_pos k)]
  split_ifs with hsmall
  · rw [webRoundsLoop_two_pow hsmall (Nat.zero_le k) (by omega), Option.map_some,
      max_eq_right hk]
  · rw [webRoundsLoop_eq_none (Nat.pow_le_pow_right Nat.two_pos (by omega)), Option.map_none]

/-! ### Where matches are written -/

section Cells

variable {size : ℕ} {ms : List Bout} {m m' : Bout} {r : ℕ} {arr : List Bout} {board : Board}
  {cell : Cell}

/-- A round is added if it is new. -/
theorem fst_pushRound (m : Bout) (rounds : List (ℕ × List Bout)) :
    (pushRound m rounds).map Prod.fst = if m.roundNo ∈ rounds.map Prod.fst then
      rounds.map Prod.fst else rounds.map Prod.fst ++ [m.roundNo] := by
  induction rounds with
  | nil => rfl
  | cons x rounds ih =>
    obtain ⟨r, arr⟩ := x
    rw [pushRound]
    by_cases hr : r = m.roundNo
    · simp [hr]
    · rw [if_neg hr, List.map_cons, ih, List.map_cons]
      simp only [List.mem_cons, Ne.symm hr, false_or]
      split_ifs
      · rfl
      · rfl

/-- A match goes to the end of its round, and no other round changes. -/
theorem mem_pushRound_iff {rounds : List (ℕ × List Bout)} (hnodup : (rounds.map Prod.fst).Nodup) :
    (r, arr) ∈ pushRound m rounds ↔
      (r ≠ m.roundNo ∧ (r, arr) ∈ rounds) ∨ r = m.roundNo ∧ ∃ old, arr = old ++ [m] ∧
        ((r, old) ∈ rounds ∨ old = [] ∧ r ∉ rounds.map Prod.fst) := by
  induction rounds with
  | nil => simp [pushRound]
  | cons x rounds ih =>
    obtain ⟨r', arr'⟩ := x
    rw [List.map_cons, List.nodup_cons] at hnodup
    have hrest : ∀ arr, (r', arr) ∉ rounds := fun arr harr =>
      hnodup.1 (List.mem_map.mpr ⟨(r', arr), harr, rfl⟩)
    rw [pushRound]
    by_cases hr' : r' = m.roundNo
    · subst hr'
      rw [if_pos rfl]
      by_cases hr : r = m.roundNo
      · subst hr
        simp [hrest]
      · simp [hr]
    · rw [if_neg hr', List.mem_cons, ih hnodup.2]
      by_cases hr : r = m.roundNo
      · subst hr
        simp [Ne.symm hr']
      · simp [hr]

/-- **The rounds of the page**, each with its matches as they were served. -/
theorem byRound_spec (ms : List Bout) :
    ((byRound ms).map Prod.fst).Nodup ∧
      ∀ r arr, (r, arr) ∈ byRound ms ↔ arr = ms.filter (fun m => m.roundNo = r) ∧ arr ≠ [] := by
  -- the grouping pushes from the front, so the induction adds a match at the back
  induction ms using List.reverseRecOn with
  | nil => simp [byRound]
  | append_singleton ms m ih =>
    obtain ⟨hnodup, hrounds⟩ := ih
    have hpush : byRound (ms ++ [m]) = pushRound m (byRound ms) := by
      rw [byRound, List.foldl_append]
      rfl
    have hkey : ∀ r, r ∈ (byRound ms).map Prod.fst ↔ ms.filter (fun m => m.roundNo = r) ≠ [] := by
      intro r
      rw [List.mem_map]
      constructor
      · rintro ⟨⟨r, arr⟩, harr, rfl⟩
        obtain ⟨rfl, hne⟩ := (hrounds r arr).mp harr
        exact hne
      · intro hne
        exact ⟨_, (hrounds r _).mpr ⟨rfl, hne⟩, rfl⟩
    rw [hpush]
    constructor
    · rw [fst_pushRound]
      split_ifs with hmem
      · exact hnodup
      · exact hnodup.append (List.nodup_singleton _) (by simpa using hmem)
    · intro r arr
      rw [mem_pushRound_iff hnodup, List.filter_append]
      by_cases hr : r = m.roundNo
      · subst hr
        simp only [hrounds, hkey]
        -- the round of the new match is there already, or begins with it
        by_cases hold : ms.filter (fun m' => m'.roundNo = m.roundNo) = []
        · simp only [hold, List.nil_append]
          constructor
          · rintro (⟨hne, -⟩ | ⟨-, old, rfl, ⟨rfl, hne⟩ | ⟨rfl, -⟩⟩)
            · exact absurd rfl hne
            · exact absurd rfl hne
            · simp
          · rintro ⟨rfl, -⟩
            simp
        · constructor
          · rintro (⟨hne, -⟩ | ⟨-, old, rfl, ⟨rfl, -⟩ | ⟨-, hnew⟩⟩)
            · exact absurd rfl hne
            · simp
            · exact absurd hold hnew
          · rintro ⟨rfl, -⟩
            exact .inr ⟨trivial, _, by simp, .inl ⟨rfl, hold⟩⟩
      · simp [hr, Ne.symm hr, hrounds]

/-- **A match is written at its place in the slot order of its round.** -/
theorem mem_cells_iff (h : webBoard size ms = some board) :
    (m, cell) ∈ board.cells ↔
      (bySlot (ms.filter fun m' => m'.roundNo = m.roundNo))[cell.index]? = some m ∧
        cell.column = m.roundNo + board.shift := by
  obtain ⟨roundsCount, -, rfl⟩ := Option.map_eq_some_iff.mp h
  obtain ⟨column, index⟩ := cell
  simp only [List.mem_flatMap, List.mem_map, Prod.exists, (byRound_spec ms).2, Prod.mk.injEq,
    List.mem_zipIdx_iff_getElem?, Cell.mk.injEq]
  constructor
  · rintro ⟨r, arr, ⟨harr, -⟩, m', idx, hm', rfl, rfl, rfl⟩
    have hmem := List.mem_of_getElem? hm'
    rw [bySlot, List.mem_insertionSort, harr] at hmem
    obtain rfl : m'.roundNo = r := of_decide_eq_true (List.mem_filter.mp hmem).2
    exact ⟨harr ▸ hm', rfl⟩
  · rintro ⟨hm, rfl⟩
    have hmem := List.mem_of_getElem? hm
    rw [bySlot, List.mem_insertionSort] at hmem
    exact ⟨m.roundNo, _, ⟨rfl, List.ne_nil_of_mem hmem⟩, m, index, hm, rfl, rfl, rfl⟩

end Cells

/-! ### The matches of a numbered draw -/

/-- `slot_a` of the match at a place of a round. -/
def slotOf (r i : ℕ) : ℕ := if r = 1 then 2 * i + 1 else i

/-- The matches of full rounds, in any order: half as many from round to round, each with the
slot of a place. -/
structure FullRounds (rounds : ℕ) (ms : List Bout) : Prop where
  round : ∀ m ∈ ms, 1 ≤ m.roundNo ∧ m.roundNo ≤ rounds
  slots : ∀ r, 1 ≤ r → r ≤ rounds → ((ms.filter fun m => m.roundNo = r).map fun m => m.slotA).Perm
    ((List.range (2 ^ (rounds - r))).map (slotOf r))

namespace FullRounds

variable {rounds r i : ℕ} {ms ms' : List Bout} {m : Bout}

theorem of_perm (h : FullRounds rounds ms) (hperm : ms'.Perm ms) : FullRounds rounds ms' where
  round m hm := h.round m (hperm.mem_iff.mp hm)
  slots r hlow hhigh := ((hperm.filter _).map _).trans (h.slots r hlow hhigh)

/-- Only rounds and slots matter. -/
theorem congr (h : FullRounds rounds ms)
    (hkeys : (ms'.map fun m => (m.roundNo, m.slotA)) = ms.map fun m => (m.roundNo, m.slotA)) :
    FullRounds rounds ms' where
  round m hm := by
    have hkey : (m.roundNo, m.slotA) ∈ ms.map fun m => (m.roundNo, m.slotA) :=
      hkeys ▸ List.mem_map_of_mem hm
    obtain ⟨m', hm', heq⟩ := List.mem_map.mp hkey
    have hround : m'.roundNo = m.roundNo := (Prod.mk.inj heq).1
    exact hround ▸ h.round m' hm'
  slots r hlow hhigh := by
    have hread : ∀ ms : List Bout, ((ms.filter fun m => m.roundNo = r).map fun m => m.slotA) =
        ((ms.map fun m => (m.roundNo, m.slotA)).filter fun x => x.1 = r).map Prod.snd := by
      intro ms
      rw [List.filter_map, List.map_map]
      rfl
    rw [hread ms', hkeys, ← hread ms]
    exact h.slots r hlow hhigh

theorem slotOf_le_iff {i j : ℕ} : slotOf r i ≤ slotOf r j ↔ i ≤ j := by
  unfold slotOf
  split_ifs
  · omega
  · rfl

/-- **In slot order the matches of a round stand at their places.** -/
theorem map_slotA_bySlot (h : FullRounds rounds ms) (hlow : 1 ≤ r) (hhigh : r ≤ rounds) :
    ((bySlot (ms.filter fun m => m.roundNo = r)).map fun m => m.slotA) =
      (List.range (2 ^ (rounds - r))).map (slotOf r) := by
  rw [bySlot, List.map_insertionSort _ (· ≤ ·) _ _ fun _ _ _ _ => Iff.rfl]
  have hplaces : ((List.range (2 ^ (rounds - r))).map (slotOf r)).Pairwise (· ≤ ·) := by
    rw [List.pairwise_map]
    exact List.pairwise_le_range.imp slotOf_le_iff.mpr
  exact List.Perm.eq_of_pairwise' (List.pairwise_insertionSort _ _) hplaces
    ((List.perm_insertionSort _ _).trans (h.slots r hlow hhigh))

theorem place_slotOf (hslot : m.slotA = slotOf m.roundNo i) : m.place = i := by
  unfold Bout.place
  rw [hslot, slotOf]
  split_ifs
  · omega
  · rfl

/-- Where a match of a round stands in slot order. -/
theorem getElem?_bySlot_iff (h : FullRounds rounds ms) (hm : m ∈ ms) :
    (bySlot (ms.filter fun m' => m'.roundNo = m.roundNo))[i]? = some m ↔ i = m.place := by
  obtain ⟨hlow, hhigh⟩ := h.round m hm
  have hslots := h.map_slotA_bySlot hlow hhigh
  have hplace : ∀ i, (bySlot (ms.filter fun m' => m'.roundNo = m.roundNo))[i]? = some m →
      m.place = i := by
    intro i hi
    have hslot := congrArg (·[i]?) hslots
    simp only [List.getElem?_map, hi, Option.map_some] at hslot
    obtain ⟨j, hj, hslot'⟩ := Option.map_eq_some_iff.mp hslot.symm
    obtain ⟨hi', rfl⟩ := List.getElem?_eq_some_iff.mp hj
    rw [List.getElem_range] at hslot'
    exact place_slotOf hslot'.symm
  constructor
  · exact fun hi => (hplace i hi).symm
  · rintro rfl
    have hmem : m ∈ bySlot (ms.filter fun m' => m'.roundNo = m.roundNo) := by
      rw [bySlot, List.mem_insertionSort, List.mem_filter]
      exact ⟨hm, decide_eq_true rfl⟩
    obtain ⟨i, hi⟩ := List.getElem?_of_mem hmem
    rwa [hplace i hi]

/-- A round has room for its places. -/
theorem place_lt (h : FullRounds rounds ms) (hm : m ∈ ms) : m.place < 2 ^ (rounds - m.roundNo) := by
  obtain ⟨hlow, hhigh⟩ := h.round m hm
  have hlength := congrArg List.length (h.map_slotA_bySlot hlow hhigh)
  simp only [List.length_map, List.length_range] at hlength
  have hi := (h.getElem?_bySlot_iff hm).mpr rfl
  rw [← hlength]
  exact (List.getElem?_eq_some_iff.mp hi).1

end FullRounds

/-- **A created draw has full rounds once they are filled up.** -/
theorem Draw.Made.fullRounds {draw : Draw} {rounds : ℕ} (h : draw.Made rounds) :
    FullRounds rounds draw.bracket.ensureRoundsExist.bouts := by
  rw [Bracket.bouts_ensureRoundsExist]
  constructor
  · intro m hm
    rcases List.mem_append.mp hm with hold | hnew
    · obtain ⟨m', hm', rfl⟩ := List.mem_map.mp hold
      have hround : m'.bout.roundNo = 1 := h.round m' hm'
      have hpos := h.rounds_pos
      omega
    · obtain ⟨r, idx, hlow, hhigh, -, rfl⟩ := h.mem_missing_iff.mp hnew
      exact ⟨by simp only [Bracket.emptyBout]; omega, hhigh⟩
  · intro r hlow hhigh
    rw [List.filter_append, List.map_append]
    rcases Nat.eq_or_lt_of_le hlow with rfl | hlater
    · -- the first round is the one that was drawn
      have hall : draw.bracket.bouts.filter (fun m => m.roundNo = 1) = draw.bracket.bouts := by
        rw [List.filter_eq_self]
        intro m hm
        obtain ⟨m', hm', rfl⟩ := List.mem_map.mp hm
        exact decide_eq_true (h.round m' hm')
      have hslots := congrArg (List.map Prod.fst) h.isBracket.slots_eq
      have hhalf : draw.size / 2 = 2 ^ (rounds - 1) := by
        rw [h.size_eq]
        exact Nat.pow_div h.rounds_pos Nat.two_pos
      rw [List.map_map, List.map_map, hhalf] at hslots
      rw [h.filter_missing_first, hall, List.map_nil, List.append_nil, Draw.bracket, List.map_map]
      exact List.Perm.of_eq hslots
    · -- a later round is the one that was appended
      have hnone : draw.bracket.bouts.filter (fun m => m.roundNo = r) = [] := by
        rw [List.filter_eq_nil_iff]
        intro m hm
        obtain ⟨m', hm', rfl⟩ := List.mem_map.mp hm
        have hround : m'.bout.roundNo = 1 := h.round m' hm'
        simp only [hround, decide_eq_true_eq]
        omega
      have hslot : slotOf r = id := by
        funext i
        exact if_neg (by omega)
      rw [hnone, h.filter_missing hlater hhigh, List.map_nil, List.nil_append, List.map_map, hslot,
        List.map_id]
      exact List.Perm.of_eq (List.map_id _)

/-! ### The board -/

section Shown

variable {rounds : ℕ} {ms : List Bout} {board : Board} {m : Bout} {cell : Cell}

theorem columnLength_eq : ∀ k < (5 : ℕ), columnLength (5 - (k : ℤ)) = 2 ^ k := by
  decide

theorem columnLength_of_nonpos {column : ℤ} (h : column ≤ 0) : columnLength column = 0 := by
  unfold columnLength
  split <;> first | rfl | omega

/-- The page starts a draw of up to thirty rounds so that its final is in the fifth column. -/
theorem webBoard_two_pow (hpos : 0 < rounds) (h : webBoard (2 ^ rounds) ms = some board) :
    rounds ≤ 30 ∧ board.shift = 5 - rounds := by
  have hsize : declaredSize (2 ^ rounds) ms = 2 ^ rounds := if_pos (Nat.two_pow_pos _).ne'
  obtain ⟨roundsCount, hcount, rfl⟩ := Option.map_eq_some_iff.mp h
  rw [hsize, webRoundsCount_two_pow hpos, Option.ite_none_right_eq_some] at hcount
  obtain ⟨hle, hcount⟩ := hcount
  exact ⟨hle, by rw [Option.some.inj hcount]⟩

/-- The inputs of a match of full rounds. -/
theorem mem_cells_fullRounds_iff (hfull : FullRounds rounds ms) {size : ℕ}
    (h : webBoard size ms = some board) :
    (m, cell) ∈ board.cells ↔ m ∈ ms ∧ cell = ⟨m.roundNo + board.shift, m.place⟩ := by
  obtain ⟨column, index⟩ := cell
  rw [mem_cells_iff h, Cell.mk.injEq]
  constructor
  · rintro ⟨hm, hcolumn⟩
    have hmem : m ∈ ms := by
      have hsorted := List.mem_of_getElem? hm
      rw [bySlot, List.mem_insertionSort] at hsorted
      exact (List.mem_filter.mp hsorted).1
    exact ⟨hmem, hcolumn, (hfull.getElem?_bySlot_iff hmem).mp hm⟩
  · rintro ⟨hm, hcolumn, hindex⟩
    exact ⟨(hfull.getElem?_bySlot_iff hm).mpr hindex, hcolumn⟩

/-- **Full rounds are shown exactly if they are at most five.** -/
theorem showsEveryMatch_iff (hpos : 0 < rounds) (hfull : FullRounds rounds ms) :
    ShowsEveryMatch (2 ^ rounds) ms ↔ rounds ≤ 5 := by
  constructor
  · rintro ⟨board, hboard, hall⟩
    obtain ⟨-, hshift⟩ := webBoard_two_pow hpos hboard
    by_contra! hmany
    -- a match of the first round would have to stand before the first column
    have hlength := (hfull.slots 1 le_rfl hpos).length_eq
    rw [List.length_map, List.length_map, List.length_range] at hlength
    have hsome : 0 < (ms.filter fun m => m.roundNo = 1).length := by
      rw [hlength]
      exact Nat.two_pow_pos _
    obtain ⟨m, hm⟩ := List.exists_mem_of_length_pos hsome
    obtain ⟨hm, hround⟩ := List.mem_filter.mp hm
    obtain ⟨cell, hcell, hroom, -⟩ := hall.shown m hm
    obtain ⟨-, rfl⟩ := (mem_cells_fullRounds_iff hfull hboard).mp hcell
    have hcolumn : columnLength (m.roundNo + board.shift) = 0 := by
      rw [of_decide_eq_true hround]
      exact columnLength_of_nonpos (by omega)
    exact absurd hroom (by simp [hcolumn])
  · intro hfew
    have hsize : declaredSize (2 ^ rounds) ms = 2 ^ rounds := if_pos (Nat.two_pow_pos _).ne'
    obtain ⟨board, hboard⟩ : ∃ board, webBoard (2 ^ rounds) ms = some board := by
      rw [webBoard, hsize, webRoundsCount_two_pow hpos, if_pos (by omega)]
      exact ⟨_, rfl⟩
    obtain ⟨-, hshift⟩ := webBoard_two_pow hpos hboard
    have hcells : ∀ m cell, (m, cell) ∈ board.cells ↔
        m ∈ ms ∧ cell = ⟨m.roundNo + board.shift, m.place⟩ := fun _ _ =>
      mem_cells_fullRounds_iff hfull hboard
    refine ⟨board, hboard, ?_, ?_, ?_, ?_⟩
    · intro m hm
      refine ⟨_, (hcells m _).mpr ⟨hm, rfl⟩, ?_, ?_⟩
      · obtain ⟨hlow, hhigh⟩ := hfull.round m hm
        have hcolumn : (m.roundNo : ℤ) + board.shift = 5 - ((rounds - m.roundNo : ℕ) : ℤ) := by
          omega
        change m.place < columnLength (m.roundNo + board.shift)
        rw [hcolumn, columnLength_eq (rounds - m.roundNo) (by omega)]
        exact hfull.place_lt hm
      · have hlow := (hfull.round m hm).1
        change ¬(m.roundNo : ℤ) + board.shift < board.shift + 1
        omega
    · intro m cell cell' hcell hcell'
      exact ((hcells m cell).mp hcell).2.trans ((hcells m cell').mp hcell').2.symm
    · intro m m' cell hcell hcell'
      obtain ⟨hm, rfl⟩ := (hcells m cell).mp hcell
      obtain ⟨hm', heq⟩ := (hcells m' _).mp hcell'
      obtain ⟨hcolumn, hplace⟩ := Cell.mk.inj heq
      have hround : m.roundNo = m'.roundNo := by omega
      have hat := (hfull.getElem?_bySlot_iff hm).mpr hplace.symm
      have hat' := (hfull.getElem?_bySlot_iff hm').mpr rfl
      rw [hround] at hat
      exact Option.some.inj (hat.symm.trans hat')
    · intro m m' cell cell' hcell hcell' hround hplace
      obtain ⟨-, rfl⟩ := (hcells m cell).mp hcell
      obtain ⟨-, rfl⟩ := (hcells m' cell').mp hcell'
      rw [Cell.mk.injEq, hround, hplace]
      exact ⟨by push_cast; ring, rfl⟩

end Shown

section Called

variable {s s' : NumberingState} {competitionId : ℕ} {weightIds : List ℕ} {clearPrev : Bool}
  {pk : ℕ} {draw : Draw} {b' : Bracket}

/-- The matches of a created draw after a call are those of full rounds. -/
theorem fullRounds_numbered {w2m : ℕ → Option ℕ} {rounds : ℕ} (h : draw.Made rounds)
    (hb : s.draws.get pk = some draw.bracket) (hsel : Selects competitionId weightIds draw.bracket)
    (hb' : (s.numbered competitionId weightIds clearPrev w2m).draws.get pk = some b') :
    FullRounds rounds b'.bouts ∧ b'.size = draw.size := by
  have houtline : b'.outline = draw.bracket.ensureRoundsExist.outline :=
    outline_of_selects hb hsel hb'
  constructor
  · have hbouts := congrArg (fun b : Bracket => b.bouts.map fun m => (m.roundNo, m.slotA)) houtline
    simp only [Bracket.outline, List.map_map, Function.comp_def, Bout.outline] at hbouts
    exact h.fullRounds.congr hbouts
  · have hsize := congrArg Bracket.size houtline
    rwa [Bracket.size_outline, Bracket.size_outline, Bracket.size_ensureRoundsExist] at hsize

/-- A numbered draw has the full rounds of its table. -/
theorem exists_fullRounds {c : DrawCall} {d d' : DrawState} {key : ℕ} {counters : List (ℕ × ℕ)}
    (hcreate : createDrawForGroup c d = .ok (key, d')) (hdraw : d'.draws.get key = some draw)
    (hb : s.draws.get pk = some draw.bracket) (hcomp : draw.scope.competition = competitionId)
    (hweight : draw.scope.weightCategory ∈ weightIds)
    (hcall : numberMatchesForCompetition competitionId weightIds clearPrev s = .ok (counters, s')) :
    ∃ b' rounds, s'.draws.get pk = some b' ∧ 0 < rounds ∧ draw.size = 2 ^ rounds ∧
      b'.size = 2 ^ rounds ∧ FullRounds rounds b'.bouts := by
  obtain ⟨scope, size, l, hcreated⟩ := createDrawForGroup_ok hcreate
  obtain rfl := Option.some.inj (hcreated.get_pk.symm.trans hdraw)
  obtain ⟨rounds, hmade⟩ := hcreated.exists_made
  obtain ⟨-, rfl⟩ := Prod.mk.inj (numberMatchesForCompetition_ok_iff.mp hcall).2
  have hfollows : Follows s (s.numbered competitionId weightIds clearPrev (s.matOf competitionId)) :=
    follows_numbered _
  obtain ⟨b', hb', -⟩ := hfollows.exists_grown_of_get hb
  obtain ⟨hfull, hsize⟩ := fullRounds_numbered hmade hb ⟨hcomp, hweight⟩ hb'
  exact ⟨b', rounds, hb', hmade.rounds_pos, hmade.size_eq, hsize.trans hmade.size_eq, hfull⟩

/-- **The web bracket shows every match exactly if the table has at most 32 slots.** Take any
call of `create_draw_for_group`, any state that holds its draw, and any numbering of weights
among which is that of the draw. The matches may be served in any order. -/
theorem web_board_iff {c : DrawCall} {d d' : DrawState} {key : ℕ} {counters : List (ℕ × ℕ)}
    (hcreate : createDrawForGroup c d = .ok (key, d')) (hdraw : d'.draws.get key = some draw)
    (hb : s.draws.get pk = some draw.bracket) (hcomp : draw.scope.competition = competitionId)
    (hweight : draw.scope.weightCategory ∈ weightIds)
    (hcall : numberMatchesForCompetition competitionId weightIds clearPrev s = .ok (counters, s')) :
    ∃ b', s'.draws.get pk = some b' ∧ ∀ ms : List Bout, ms.Perm b'.bouts →
      (ShowsEveryMatch b'.size ms ↔ draw.size ≤ 32) := by
  obtain ⟨b', rounds, hb', hpos, hsize, hsize', hfull⟩ :=
    exists_fullRounds hcreate hdraw hb hcomp hweight hcall
  refine ⟨b', hb', fun ms hserved => ?_⟩
  rw [hsize', hsize, showsEveryMatch_iff hpos (hfull.of_perm hserved)]
  exact (Nat.pow_le_pow_iff_right (m := 5) Nat.one_lt_two).symm

end Called

/-- The draw of three players is shown. -/
theorem web_board_three :
    ∃ b', (numberedGroup [5, 6, 7]).draws.get 1 = some b' ∧ ShowsEveryMatch b'.size b'.bouts := by
  obtain ⟨d', draw, hcreate, hdraw, hb, hcomp, hweight⟩ := exists_drawnGroup
    (by decide +kernel : (createDrawForGroup (groupCall (some 3) [5, 6, 7] (1, 2))
      .empty).toOption.map Prod.fst = some 1)
  have hsize : (createDrawForGroup (groupCall (some 3) [5, 6, 7] (1, 2)) .empty).toOption.map
      (fun r => (r.2.draws.get 1).map Draw.size) = some (some 4) := by
    decide +kernel
  rw [hcreate] at hsize
  simp only [Except.toOption, Option.map_some, hdraw, Option.some.injEq] at hsize
  obtain ⟨counters, hcall⟩ := exists_counters 1 [2] true (drawnGroup [5, 6, 7]) (by decide +kernel)
  obtain ⟨b', hb', hshown⟩ := web_board_iff hcreate hdraw hb hcomp (by rw [hweight]; decide) hcall
  exact ⟨b', hb', (hshown _ (List.Perm.refl _)).mpr (by rw [hsize]; decide)⟩

/-- Thirty-three players. -/
def thirtyThree : List ℤ := (List.range 33).map fun i => i + 1

/-- Their table has 64 slots, and its first rounds are not shown. -/
theorem web_board_thirty_three :
    ∃ d' draw b', createDrawForGroup (groupCall (some 3) thirtyThree (1, 2)) .empty = .ok (1, d') ∧
      d'.draws.get 1 = some draw ∧ draw.size = 64 ∧
      (numberedGroup thirtyThree).draws.get 1 = some b' ∧ ¬ShowsEveryMatch b'.size b'.bouts := by
  obtain ⟨d', draw, hcreate, hdraw, hb, hcomp, hweight⟩ := exists_drawnGroup
    (by decide +kernel : (createDrawForGroup (groupCall (some 3) thirtyThree (1, 2))
      .empty).toOption.map Prod.fst = some 1)
  have hsize : (createDrawForGroup (groupCall (some 3) thirtyThree (1, 2)) .empty).toOption.map
      (fun r => (r.2.draws.get 1).map Draw.size) = some (some 64) := by
    decide +kernel
  rw [hcreate] at hsize
  simp only [Except.toOption, Option.map_some, hdraw, Option.some.injEq] at hsize
  obtain ⟨counters, hcall⟩ :=
    exists_counters 1 [2] true (drawnGroup thirtyThree) (by decide +kernel)
  obtain ⟨b', rounds, hb', hpos, hrounds, hsize', hfull⟩ :=
    exists_fullRounds hcreate hdraw hb hcomp (by rw [hweight]; decide) hcall
  refine ⟨d', draw, b', hcreate, hdraw, hsize, hb', ?_⟩
  rw [hsize', showsEveryMatch_iff hpos hfull]
  intro hfew
  have hroom : 2 ^ rounds ≤ 2 ^ 5 := Nat.pow_le_pow_right Nat.two_pos hfew
  rw [← hrounds, hsize] at hroom
  exact absurd hroom (by decide)

end Tkdchb
