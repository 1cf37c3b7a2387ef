import Tkdchb.Draws.Numbering
import Tkdchb.Lib.Ticketing

/-!
# The order in which matches are numbered

What a numbering reads of a draw does not include what it writes: mats and numbers are not
read, and a BYE is read only in the first round, where none is written. So the whole order
of the numbering is known before its first write, and the service draws numbers for a list
of matches.

## Main definitions

* `Bracket.outline` — what a numbering reads of a draw
* `Bracket.toNumber` — the matches of a round that get a number, in order
* `tickets` — the matches of some draws with their mats, in the order of the two phases

## Main results

* `numberPhases_eq` — the two phases number the matches of this list
* `mem_tickets_iff` — it has all matches but the BYEs of first rounds
* `nodup_tickets` — each of them once
-/

namespace Tkdchb

open Ticketing

/-- What a numbering reads of a match, in a draw with first round `fr`. -/
def Bout.outline (fr : Option ℕ) (m : Bout) : Bout :=
  { m with isBye := m.isBye && decide (fr = some m.roundNo), matNo := none, matchNumber := none }

/-- A match after it got a number. -/
def Bout.stamp (matNo number : ℕ) (m : Bout) : Bout :=
  { m with
    isBye := false
    matNo := if m.matNo.getD 0 = 0 then some matNo else m.matNo
    matchNumber := some number }

namespace Bracket

/-- What a numbering reads of a draw. -/
def outline (b : Bracket) : Bracket :=
  { b with bouts := b.bouts.map (Bout.outline b.firstRoundNo) }

variable {b b' : Bracket} {i rnd : ℕ} {m : Bout}

@[simp] theorem scope_outline : b.outline.scope = b.scope := rfl

@[simp] theorem size_outline : b.outline.size = b.size := rfl

@[simp] theorem roundsOf_outline : b.outline.roundsOf = b.roundsOf := by
  simp [roundsOf, outline, Function.comp_def, Bout.outline]

@[simp] theorem firstRoundNo_outline : b.outline.firstRoundNo = b.firstRoundNo := by
  simp [firstRoundNo]

@[simp] theorem lastRoundNo_outline : b.outline.lastRoundNo = b.lastRoundNo := by
  simp [lastRoundNo]

@[simp] theorem countInRound_outline : b.outline.countInRound rnd = b.countInRound rnd := by
  rw [countInRound, outline, List.countP_map]
  rfl

@[simp] theorem realPlayersCount_outline : b.outline.realPlayersCount = b.realPlayersCount := by
  simp [realPlayersCount, outline, List.flatMap_map, Bout.outline]

@[simp] theorem hasRealMatch_outline : b.outline.hasRealMatch = b.hasRealMatch := by
  unfold hasRealMatch
  rw [realPlayersCount_outline, firstRoundNo_outline]
  cases hfr : b.firstRoundNo with
  | none => rfl
  | some fr =>
    have hother : b.outline.bouts.any (fun m => m.roundNo ≠ fr) =
        b.bouts.any fun m => m.roundNo ≠ fr := by
      rw [outline, List.any_map]
      rfl
    have hfirst : b.outline.bouts.any (fun m => m.roundNo = fr && !m.isBye) =
        b.bouts.any fun m => m.roundNo = fr && !m.isBye := by
      rw [outline, List.any_map, hfr]
      congr 1
      funext m
      by_cases hm : m.roundNo = fr <;> simp [Bout.outline, hm]
    simp only [hother, hfirst]

/-- The matches of a round of the outline are those of the round. -/
theorem matchesInRound_outline :
    b.outline.matchesInRound rnd =
      (b.matchesInRound rnd).map (Prod.map (Bout.outline b.firstRoundNo) id) := by
  unfold matchesInRound
  rw [List.map_insertionSort slotOrder slotOrder]
  · simp only [outline, List.zipIdx_map, List.filter_map]
    rfl
  · intro x _ y _
    exact Iff.rfl

/-- A match found in a round is the one at its position. -/
theorem mem_matchesInRound_iff {x : Bout × ℕ} :
    x ∈ b.matchesInRound rnd ↔ b.bouts[x.2]? = some x.1 ∧ x.1.roundNo = rnd := by
  rw [matchesInRound, List.mem_insertionSort, List.mem_filter, List.mem_zipIdx_iff_getElem?,
    decide_eq_true_eq]

theorem nodup_matchesInRound : ((b.matchesInRound rnd).map Prod.snd).Nodup := by
  have hperm : ((b.matchesInRound rnd).map Prod.snd).Perm
      ((b.bouts.zipIdx.filter fun x => x.1.roundNo = rnd).map Prod.snd) :=
    (List.perm_insertionSort _ _).map _
  rw [hperm.nodup_iff]
  have hsub : ((b.bouts.zipIdx.filter fun x => x.1.roundNo = rnd).map Prod.snd).Sublist
      (b.bouts.zipIdx.map Prod.snd) := List.filter_sublist.map _
  apply hsub.nodup
  rw [List.zipIdx_map_snd]
  exact List.nodup_range'

/-- The match at a position gets a number. -/
def Counts (b : Bracket) (i : ℕ) : Prop :=
  ∃ m, b.outline.bouts[i]? = some m ∧ m.isBye = false

/-- **Which matches get a number**: all but the BYEs of the first round. -/
theorem counts_iff :
    b.Counts i ↔ ∃ m, b.bouts[i]? = some m ∧ (b.firstRoundNo = some m.roundNo → m.isBye = false) := by
  unfold Counts outline
  simp only [List.getElem?_map, Option.map_eq_some_iff]
  constructor
  · rintro ⟨_, ⟨m, hm, rfl⟩, hbye⟩
    refine ⟨m, hm, fun hfr => ?_⟩
    simpa [Bout.outline, hfr] using hbye
  · rintro ⟨m, hm, hbye⟩
    refine ⟨_, ⟨m, hm, rfl⟩, ?_⟩
    by_cases hfr : b.firstRoundNo = some m.roundNo
    · simp [Bout.outline, hbye hfr]
    · simp [Bout.outline, hfr]

/-- The positions of a round that get a number, in order. -/
def toNumber (b : Bracket) (rnd : ℕ) : List ℕ :=
  ((b.outline.matchesInRound rnd).filter fun x => !x.1.isBye).map Prod.snd

theorem mem_toNumber_iff :
    i ∈ b.toNumber rnd ↔ b.Counts i ∧ ∃ m, b.bouts[i]? = some m ∧ m.roundNo = rnd := by
  have hround : ∀ m, b.outline.bouts[i]? = some m →
      ((∃ m, b.bouts[i]? = some m ∧ m.roundNo = rnd) ↔ m.roundNo = rnd) := by
    intro m hm
    rw [outline, List.getElem?_map, Option.map_eq_some_iff] at hm
    obtain ⟨m', hm', rfl⟩ := hm
    simp [hm', Bout.outline]
  simp only [toNumber, List.mem_map, List.mem_filter, mem_matchesInRound_iff, Counts]
  constructor
  · rintro ⟨⟨m, _⟩, ⟨⟨hm, hrnd⟩, hbye⟩, rfl⟩
    exact ⟨⟨m, hm, by simpa using hbye⟩, (hround m hm).mpr hrnd⟩
  · rintro ⟨⟨m, hm, hbye⟩, hrnd⟩
    exact ⟨(m, i), ⟨⟨hm, (hround m hm).mp hrnd⟩, by simp [hbye]⟩, rfl⟩

theorem nodup_toNumber : (b.toNumber rnd).Nodup := by
  have hsub : (b.toNumber rnd).Sublist ((b.outline.matchesInRound rnd).map Prod.snd) :=
    List.filter_sublist.map _
  exact hsub.nodup nodup_matchesInRound

theorem mem_roundsOf_iff : rnd ∈ b.roundsOf ↔ ∃ m ∈ b.bouts, m.roundNo = rnd := by
  rw [roundsOf, List.mem_insertionSort, List.mem_dedup, List.mem_map]

theorem mem_roundsOf (hm : m ∈ b.bouts) : m.roundNo ∈ b.roundsOf :=
  mem_roundsOf_iff.mpr ⟨m, hm, rfl⟩

/-- The first round is the first that has a match. -/
theorem firstRoundNo_eq_some_iff {fr : ℕ} :
    b.firstRoundNo = some fr ↔
      (∃ m ∈ b.bouts, m.roundNo = fr) ∧ ∀ m ∈ b.bouts, fr ≤ m.roundNo := by
  have hsorted : b.roundsOf.Pairwise (· ≤ ·) := List.pairwise_insertionSort _ _
  rw [firstRoundNo]
  cases hrounds : b.roundsOf with
  | nil =>
    simp only [List.head?_nil, reduceCtorEq, false_iff, not_and]
    rintro ⟨m, hm, -⟩
    have hround := mem_roundsOf hm
    rw [hrounds] at hround
    cases hround
  | cons r rest =>
    rw [hrounds, List.pairwise_cons] at hsorted
    have hle : ∀ m ∈ b.bouts, r ≤ m.roundNo := by
      intro m hm
      have hround := mem_roundsOf hm
      rw [hrounds, List.mem_cons] at hround
      rcases hround with heq | htail
      · exact heq.ge
      · exact hsorted.1 _ htail
    have hfirst : ∃ m ∈ b.bouts, m.roundNo = r := mem_roundsOf_iff.mp (by simp [hrounds])
    rw [List.head?_cons, Option.some.injEq]
    constructor
    · rintro rfl
      exact ⟨hfirst, hle⟩
    · rintro ⟨⟨m, hm, rfl⟩, hmin⟩
      obtain ⟨m', hm', rfl⟩ := hfirst
      exact le_antisymm (hle m hm) (hmin m' hm')

theorem firstRoundNo_le {fr : ℕ} (hfr : b.firstRoundNo = some fr) (hm : m ∈ b.bouts) :
    fr ≤ m.roundNo := (firstRoundNo_eq_some_iff.mp hfr).2 m hm

/-- A draw with a match has a first round. -/
theorem exists_firstRoundNo (hm : m ∈ b.bouts) : ∃ fr, b.firstRoundNo = some fr := by
  cases hfr : b.firstRoundNo with
  | some fr => exact ⟨fr, rfl⟩
  | none =>
    have hround := mem_roundsOf hm
    rw [List.head?_eq_none_iff.mp hfr] at hround
    cases hround

/-- The positions of a round that get a number, read off the matches themselves. -/
theorem toNumber_eq :
    b.toNumber rnd = ((b.matchesInRound rnd).filter fun x =>
      !decide (b.firstRoundNo = some rnd ∧ x.1.isBye = true)).map Prod.snd := by
  rw [toNumber, matchesInRound_outline, List.filter_map, List.map_map]
  congr 1
  apply List.filter_congr
  intro x hx
  obtain ⟨-, hrnd⟩ := mem_matchesInRound_iff.mp hx
  simp [Bout.outline, hrnd, Bool.and_comm, Bool.decide_and]

/-! ### Writing a number -/

/-- The match at a position gets a number. -/
def stampAt (b : Bracket) (matNo number i : ℕ) : Bracket :=
  { b with bouts := b.bouts.modify i (Bout.stamp matNo number) }

end Bracket

/-- Two updates at one position that a view does not tell apart. -/
theorem map_modify_congr {α β : Type} {l : List α} {i : ℕ} {f f' : α → α} {g : α → β}
    (h : ∀ x, l[i]? = some x → g (f x) = g (f' x)) :
    (l.modify i f).map g = (l.modify i f').map g := by
  apply List.ext_getElem?
  intro j
  rw [List.getElem?_map, List.getElem?_map, List.getElem?_modify, List.getElem?_modify]
  by_cases hij : i = j
  · subst hij
    cases hx : l[i]? with
    | none => simp
    | some x => simp [h x hx]
  · simp [hij]

theorem map_modify_of_eq {α β : Type} {l : List α} {i : ℕ} {f : α → α} {g : α → β}
    (h : ∀ x, l[i]? = some x → g (f x) = g x) : (l.modify i f).map g = l.map g := by
  rw [@map_modify_congr α β l i f id g h, List.modify_id]

theorem modify_congr_at {α : Type} {l : List α} {i : ℕ} {f g : α → α}
    (h : ∀ x, l[i]? = some x → f x = g x) : l.modify i f = l.modify i g := by
  rw [← List.map_id (l.modify i f), ← List.map_id (l.modify i g)]
  exact map_modify_congr h

/-- A number does not change what a numbering reads. -/
theorem Bracket.outline_stampAt {b : Bracket} {matNo number i : ℕ} (h : b.Counts i) :
    (b.stampAt matNo number i).outline = b.outline := by
  have hrounds : (b.stampAt matNo number i).firstRoundNo = b.firstRoundNo := by
    have hmap : (b.stampAt matNo number i).bouts.map (·.roundNo) = b.bouts.map (·.roundNo) :=
      map_modify_of_eq fun _ _ => rfl
    simp only [firstRoundNo, roundsOf, hmap]
  unfold outline
  rw [hrounds]
  obtain ⟨m, hm, hbye⟩ := counts_iff.mp h
  have hbouts : (b.stampAt matNo number i).bouts.map (Bout.outline b.firstRoundNo) =
      b.bouts.map (Bout.outline b.firstRoundNo) := by
    apply map_modify_of_eq
    intro x hx
    obtain rfl := Option.some.inj (hm.symm.trans hx)
    have hfalse : (m.isBye && decide (b.firstRoundNo = some m.roundNo)) = false := by
      by_cases hfr : b.firstRoundNo = some m.roundNo
      · simp [hbye hfr]
      · simp [hfr]
    simp [Bout.outline, Bout.stamp, hfalse]
  rw [hbouts]
  rfl

/-- The match of a draw at a position. -/
def boutAt (draws : Table Bracket) (x : ℕ × ℕ) : Option Bout :=
  (draws.get x.1).bind fun b => b.bouts[x.2]?

theorem boutAt_of_get {draws : Table Bracket} {pk : ℕ} {b : Bracket} (hb : draws.get pk = some b)
    (i : ℕ) : boutAt draws (pk, i) = b.bouts[i]? := by
  rw [boutAt, hb, Option.bind_some]

/-- The number of one match is written. -/
def writeNumber (matNo number : ℕ) (x : ℕ × ℕ) (draws : Table Bracket) : Table Bracket :=
  draws.modify x.1 fun b => b.stampAt matNo number x.2

theorem boutAt_writeNumber (matNo number : ℕ) (x : ℕ × ℕ) (draws : Table Bracket) (y : ℕ × ℕ) :
    boutAt (writeNumber matNo number x draws) y =
      if y = x then (boutAt draws y).map (Bout.stamp matNo number) else boutAt draws y := by
  obtain ⟨pk, i⟩ := x
  obtain ⟨pk', j⟩ := y
  unfold boutAt writeNumber
  rw [Table.get_modify]
  by_cases hpk : pk' = pk
  · subst hpk
    rw [if_pos rfl]
    cases hb : draws.get pk' with
    | none => simp
    | some b =>
      simp only [Option.map_some, Option.bind_some, Bracket.stampAt, List.getElem?_modify,
        Prod.mk.injEq, true_and]
      by_cases hij : j = i
      · simp [hij]
      · simp [hij, Ne.symm hij]
  · rw [if_neg hpk, if_neg (by simp [hpk])]

/-! ### One round of one draw -/

section Round

variable {st : (ℕ → ℕ) × Table Bracket} {matNo rnd pk fr : ℕ} {b : Bracket}

/-- The body of the loops is one visit, or nothing for a BYE of the first round. -/
theorem numberMatch_eq {m : Bout} {i : ℕ} (hm : boutAt st.2 (pk, i) = some m) (hle : fr ≤ rnd) :
    numberMatch matNo rnd (some fr) true pk st (m, i) =
      if some fr = some rnd ∧ m.isBye = true then st
      else stampOne writeNumber st (matNo, (pk, i)) := by
  unfold numberMatch
  dsimp only
  by_cases hbye : some fr = some rnd ∧ m.isBye = true
  · rw [if_pos hbye, if_pos hbye]
  · rw [if_neg hbye, if_neg hbye]
    have hfalse : (m.isBye && !((some fr).any (· < rnd) && true)) = false := by
      cases hisBye : m.isBye with
      | false => rfl
      | true =>
        have hne : fr ≠ rnd := fun heq => hbye ⟨by rw [heq], hisBye⟩
        have hlt : fr < rnd := lt_of_le_of_ne hle hne
        simp [hlt]
    simp only [hfalse, stampOne, Prod.mk.injEq, true_and, writeNumber]
    -- the copy that is saved is the row that is stamped
    apply Table.modify_congr
    intro b hb
    have hrow : b.bouts[i]? = some m := by
      simpa [boutAt, hb] using hm
    simp only [Bracket.saveNumber, Bracket.stampAt, Bracket.mk.injEq, true_and]
    apply modify_congr_at
    intro x hx
    obtain rfl := Option.some.inj (hrow.symm.trans hx)
    rfl

theorem foldl_numberMatch {xs : List (Bout × ℕ)} (hle : fr ≤ rnd)
    (hxs : ∀ x ∈ xs, boutAt st.2 (pk, x.2) = some x.1) (hnodup : (xs.map Prod.snd).Nodup) :
    xs.foldl (numberMatch matNo rnd (some fr) true pk) st =
      stampAll writeNumber st ((xs.filter fun x =>
        !decide (some fr = some rnd ∧ x.1.isBye = true)).map fun x => (matNo, (pk, x.2))) := by
  induction xs generalizing st with
  | nil => rfl
  | cons x xs ih =>
    obtain ⟨m, i⟩ := x
    rw [List.map_cons, List.nodup_cons] at hnodup
    have hm := hxs (m, i) List.mem_cons_self
    have hrest : ∀ x ∈ xs, boutAt st.2 (pk, x.2) = some x.1 := fun x hx =>
      hxs x (List.mem_cons_of_mem _ hx)
    rw [List.foldl_cons, numberMatch_eq hm hle]
    by_cases hbye : some fr = some rnd ∧ m.isBye = true
    · rw [if_pos hbye, ih hrest hnodup.2,
        List.filter_cons_of_neg (by rw [decide_eq_true hbye]; decide)]
    · rw [if_neg hbye, List.filter_cons_of_pos (by rw [decide_eq_false hbye]; rfl), List.map_cons,
        stampAll_cons]
      -- the other matches are where they were
      apply ih _ hnodup.2
      intro x hx
      have hne : (pk, x.2) ≠ (pk, i) := by
        intro heq
        exact hnodup.1 (List.mem_map.mpr ⟨x, hx, (Prod.mk.inj heq).2⟩)
      rw [stampOne, boutAt_writeNumber, if_neg hne]
      exact hrest x hx

/-- What one round of a draw asks numbers for. -/
def roundTickets (matNo rnd : ℕ) (d : ℕ × Bracket) : List (ℕ × ℕ × ℕ) :=
  (d.2.toNumber rnd).map fun i => (matNo, (d.1, i))

/-- **A round is numbered by its tickets.** -/
theorem numberRound_eq {opens : Bracket → Bool} (hget : st.2.get pk = some b)
    (hopens : opens b = true) :
    numberRound matNo rnd b.firstRoundNo opens st pk =
      stampAll writeNumber st (roundTickets matNo rnd (pk, b)) := by
  unfold numberRound
  rw [hget]
  simp only [hopens]
  cases hxs : b.matchesInRound rnd with
  | nil => simp [roundTickets, Bracket.toNumber_eq, hxs]
  | cons x xs =>
    have hx : x ∈ b.matchesInRound rnd := by simp [hxs]
    obtain ⟨hrow, hrnd⟩ := Bracket.mem_matchesInRound_iff.mp hx
    have hmem : x.1 ∈ b.bouts := List.mem_of_getElem? hrow
    obtain ⟨fr, hfr⟩ := Bracket.exists_firstRoundNo hmem
    rw [← hxs, hfr, foldl_numberMatch (hrnd ▸ Bracket.firstRoundNo_le hfr hmem)]
    · rw [roundTickets, Bracket.toNumber_eq, hfr, List.map_map]
      rfl
    · intro y hy
      rw [boutAt_of_get hget]
      exact (Bracket.mem_matchesInRound_iff.mp hy).1
    · exact Bracket.nodup_matchesInRound

/-- The tickets depend on the outline only. -/
theorem roundTickets_congr {b' : Bracket} (h : b'.outline = b.outline) :
    roundTickets matNo rnd (pk, b') = roundTickets matNo rnd (pk, b) := by
  simp only [roundTickets, Bracket.toNumber, h]

end Round

/-! ### The two phases -/

/-- One round of one draw, on its mat. -/
structure RoundJob where
  matNo : ℕ
  rnd : ℕ
  draw : ℕ × Bracket

def RoundJob.tickets (j : RoundJob) : List (ℕ × ℕ × ℕ) := roundTickets j.matNo j.rnd j.draw

/-- `all_rounds` -/
def allRounds (draws : List (ℕ × Bracket)) : List ℕ :=
  (draws.flatMap fun d => d.2.roundsOf).dedup.insertionSort (· ≤ ·)

/-- The rounds of the first phase, in order. -/
def earlierJobs (w2m : ℕ → Option ℕ) (mats : List ℕ) (draws : List (ℕ × Bracket)) :
    List RoundJob :=
  (allRounds draws).flatMap fun rnd => mats.flatMap fun matNo =>
    ((drawsOnMat w2m draws matNo).filter fun d => d.2.lastRoundNo ≠ some rnd).map fun d =>
      ⟨matNo, rnd, d⟩

/-- The rounds of the second phase, in order. -/
def finalJobs (w2m : ℕ → Option ℕ) (mats : List ℕ) (draws : List (ℕ × Bracket)) :
    List RoundJob :=
  mats.flatMap fun matNo =>
    (drawsOnMat w2m draws matNo).filterMap fun d =>
      d.2.lastRoundNo.map fun lr => ⟨matNo, lr, d⟩

/-- The matches of some draws with their mats, in the order in which they are numbered. -/
def tickets (w2m : ℕ → Option ℕ) (mats : List ℕ) (draws : List (ℕ × Bracket)) :
    List (ℕ × ℕ × ℕ) :=
  (earlierJobs w2m mats draws ++ finalJobs w2m mats draws).flatMap RoundJob.tickets

/-- What a numbering reads of the draw with a key. -/
def outlineAt (draws : Table Bracket) (pk : ℕ) : Option Bracket := (draws.get pk).map Bracket.outline

section Phases

variable {st : (ℕ → ℕ) × Table Bracket} {w2m : ℕ → Option ℕ} {mats : List ℕ}
  {draws : List (ℕ × Bracket)}

/-- Numbers do not change what the numbering reads. -/
theorem outlineAt_stampAll {l : List (ℕ × ℕ × ℕ)}
    (h : ∀ t ∈ l, ∃ b : Bracket, outlineAt st.2 t.2.1 = some b.outline ∧ b.Counts t.2.2) :
    outlineAt (stampAll writeNumber st l).2 = outlineAt st.2 := by
  induction l generalizing st with
  | nil => rfl
  | cons t l ih =>
    obtain ⟨matNo, pk, i⟩ := t
    obtain ⟨b, hb, hcounts⟩ := h _ List.mem_cons_self
    have hone : outlineAt (stampOne writeNumber st (matNo, pk, i)).2 = outlineAt st.2 := by
      funext pk'
      simp only [outlineAt, stampOne, writeNumber, Table.get_modify]
      split_ifs with hpk
      · subst hpk
        obtain ⟨b', hb', houtline⟩ := Option.map_eq_some_iff.mp hb
        have hcounts' : b'.Counts i := by
          rw [Bracket.Counts, houtline]
          exact hcounts
        rw [hb', Option.map_some, Option.map_some, Option.map_some,
          Bracket.outline_stampAt hcounts']
      · rfl
    rw [stampAll_cons, ih, hone]
    intro t ht
    rw [hone]
    exact h t (List.mem_cons_of_mem _ ht)

theorem RoundJob.counts_of_mem_tickets {j : RoundJob} {t : ℕ × ℕ × ℕ} (h : t ∈ j.tickets) :
    t.1 = j.matNo ∧ t.2.1 = j.draw.1 ∧ j.draw.2.Counts t.2.2 := by
  obtain ⟨i, hi, rfl⟩ := List.mem_map.mp h
  exact ⟨rfl, rfl, (Bracket.mem_toNumber_iff.mp hi).1⟩

/-- Rounds of draws that are as they were read are numbered by their tickets. -/
theorem foldl_numberRound {opens : Bracket → Bool} {jobs : List RoundJob}
    (hjobs : ∀ j ∈ jobs, outlineAt st.2 j.draw.1 = some j.draw.2.outline)
    (hopens : ∀ j ∈ jobs, ∀ b, b.outline = j.draw.2.outline → opens b = true) :
    jobs.foldl (fun st j => numberRound j.matNo j.rnd j.draw.2.firstRoundNo opens st j.draw.1) st =
      stampAll writeNumber st (jobs.flatMap RoundJob.tickets) := by
  induction jobs generalizing st with
  | nil => rfl
  | cons j jobs ih =>
    obtain ⟨b, hb, houtline⟩ := Option.map_eq_some_iff.mp (hjobs j List.mem_cons_self)
    have hround : numberRound j.matNo j.rnd j.draw.2.firstRoundNo opens st j.draw.1 =
        stampAll writeNumber st j.tickets := by
      rw [← Bracket.firstRoundNo_outline, ← houtline, Bracket.firstRoundNo_outline,
        numberRound_eq hb (hopens j List.mem_cons_self b houtline), roundTickets_congr houtline]
      rfl
    have hkeep : outlineAt (stampAll writeNumber st j.tickets).2 = outlineAt st.2 := by
      apply outlineAt_stampAll
      intro t ht
      obtain ⟨-, hpk, hcounts⟩ := RoundJob.counts_of_mem_tickets ht
      exact ⟨j.draw.2, by rw [hpk, hjobs j List.mem_cons_self], hcounts⟩
    rw [List.foldl_cons, List.flatMap_cons, stampAll_append, hround, ih]
    · intro j' hj'
      rw [hkeep]
      exact hjobs j' (List.mem_cons_of_mem _ hj')
    · exact fun j' hj' => hopens j' (List.mem_cons_of_mem _ hj')

theorem numberEarlierRounds_eq_foldl :
    numberEarlierRounds w2m mats draws st = (earlierJobs w2m mats draws).foldl (fun st j =>
      numberRound j.matNo j.rnd j.draw.2.firstRoundNo (fun b => !decide (b.realPlayersCount < 2))
        st j.draw.1) st := by
  simp only [numberEarlierRounds, earlierJobs, allRounds, List.foldl_flatMap, List.foldl_map,
    List.foldl_filter, decide_eq_true_eq, ne_eq, ite_not]

theorem numberFinals_eq_foldl :
    numberFinals w2m mats draws st = (finalJobs w2m mats draws).foldl (fun st j =>
      numberRound j.matNo j.rnd j.draw.2.firstRoundNo (fun _ => true) st j.draw.1) st := by
  simp only [numberFinals, finalJobs, List.foldl_flatMap, List.foldl_filterMap]
  congr
  funext st matNo
  congr
  funext st d
  cases d.2.lastRoundNo <;> rfl

theorem mem_drawsOnMat_iff {matNo : ℕ} {d : ℕ × Bracket} :
    d ∈ drawsOnMat w2m draws matNo ↔ d ∈ draws ∧ w2m d.2.scope.weightCategory = some matNo := by
  rw [drawsOnMat, List.mem_filter, decide_eq_true_eq]

theorem mem_earlierJobs_iff {j : RoundJob} :
    j ∈ earlierJobs w2m mats draws ↔
      j.rnd ∈ allRounds draws ∧ j.matNo ∈ mats ∧ j.draw ∈ draws ∧
        w2m j.draw.2.scope.weightCategory = some j.matNo ∧ j.draw.2.lastRoundNo ≠ some j.rnd := by
  simp only [earlierJobs, List.mem_flatMap, List.mem_map, List.mem_filter, mem_drawsOnMat_iff,
    decide_eq_true_eq]
  constructor
  · rintro ⟨rnd, hrnd, matNo, hmat, d, ⟨⟨hd, hw⟩, hlast⟩, rfl⟩
    exact ⟨hrnd, hmat, hd, hw, hlast⟩
  · rintro ⟨hrnd, hmat, hd, hw, hlast⟩
    exact ⟨j.rnd, hrnd, j.matNo, hmat, j.draw, ⟨⟨hd, hw⟩, hlast⟩, rfl⟩

theorem mem_finalJobs_iff {j : RoundJob} :
    j ∈ finalJobs w2m mats draws ↔
      j.matNo ∈ mats ∧ j.draw ∈ draws ∧ w2m j.draw.2.scope.weightCategory = some j.matNo ∧
        j.draw.2.lastRoundNo = some j.rnd := by
  simp only [finalJobs, List.mem_flatMap, List.mem_filterMap, mem_drawsOnMat_iff,
    Option.map_eq_some_iff]
  constructor
  · rintro ⟨matNo, hmat, d, ⟨hd, hw⟩, lr, hlast, rfl⟩
    exact ⟨hmat, hd, hw, hlast⟩
  · rintro ⟨hmat, hd, hw, hlast⟩
    exact ⟨j.matNo, hmat, j.draw, ⟨hd, hw⟩, j.rnd, hlast, rfl⟩

/-- **The two phases number the matches of one list**, whose order is known beforehand. -/
theorem numberPhases_eq (w2m : ℕ → Option ℕ) (mats : List ℕ) (st : (ℕ → ℕ) × Table Bracket)
    (hready : ∀ d ∈ draws, outlineAt st.2 d.1 = some d.2.outline)
    (hreal : ∀ d ∈ draws, d.2.hasRealMatch = true) :
    numberFinals w2m mats draws (numberEarlierRounds w2m mats draws st) =
      stampAll writeNumber st (tickets w2m mats draws) := by
  -- a draw with a real match has two players, so the rounds before the final pass it
  have hplayers : ∀ d ∈ draws, ∀ b : Bracket, b.outline = d.2.outline →
      (!decide (b.realPlayersCount < 2)) = true := by
    intro d hd b houtline
    have hd' := hreal d hd
    rw [← Bracket.hasRealMatch_outline, ← houtline, Bracket.hasRealMatch_outline,
      Bracket.hasRealMatch] at hd'
    by_contra hfew
    simp [show b.realPlayersCount < 2 by simpa using hfew] at hd'
  have hearlier : numberEarlierRounds w2m mats draws st =
      stampAll writeNumber st ((earlierJobs w2m mats draws).flatMap RoundJob.tickets) := by
    rw [numberEarlierRounds_eq_foldl]
    apply foldl_numberRound
    · exact fun j hj => hready _ (mem_earlierJobs_iff.mp hj).2.2.1
    · exact fun j hj => hplayers _ (mem_earlierJobs_iff.mp hj).2.2.1
  -- numbers do not touch the outline, so the finals see the same draws
  have hkeep : outlineAt (numberEarlierRounds w2m mats draws st).2 = outlineAt st.2 := by
    rw [hearlier]
    apply outlineAt_stampAll
    intro t ht
    obtain ⟨j, hj, ht⟩ := List.mem_flatMap.mp ht
    obtain ⟨-, hpk, hcounts⟩ := RoundJob.counts_of_mem_tickets ht
    exact ⟨j.draw.2, by rw [hpk, hready _ (mem_earlierJobs_iff.mp hj).2.2.1], hcounts⟩
  have hfinal : numberFinals w2m mats draws (numberEarlierRounds w2m mats draws st) =
      stampAll writeNumber (numberEarlierRounds w2m mats draws st)
        ((finalJobs w2m mats draws).flatMap RoundJob.tickets) := by
    rw [numberFinals_eq_foldl]
    apply foldl_numberRound
    · intro j hj
      rw [hkeep]
      exact hready _ (mem_finalJobs_iff.mp hj).2.1
    · exact fun _ _ _ _ => rfl
  rw [hfinal, hearlier, tickets, List.flatMap_append, stampAll_append]

/-- **Which matches are numbered**: those of the draws that are no BYEs of a first round. -/
theorem mem_tickets_iff {matNo pk i : ℕ} :
    (matNo, pk, i) ∈ tickets w2m mats draws ↔
      matNo ∈ mats ∧ ∃ b : Bracket, (pk, b) ∈ draws ∧ w2m b.scope.weightCategory = some matNo ∧
        b.Counts i := by
  simp only [tickets, List.mem_flatMap, List.mem_append]
  constructor
  · rintro ⟨j, hj, ht⟩
    obtain ⟨rfl, rfl, hcounts⟩ := RoundJob.counts_of_mem_tickets ht
    rcases hj with hj | hj
    · obtain ⟨-, hmat, hd, hw, -⟩ := mem_earlierJobs_iff.mp hj
      exact ⟨hmat, j.draw.2, hd, hw, hcounts⟩
    · obtain ⟨hmat, hd, hw, -⟩ := mem_finalJobs_iff.mp hj
      exact ⟨hmat, j.draw.2, hd, hw, hcounts⟩
  · rintro ⟨hmat, b, hd, hw, hcounts⟩
    obtain ⟨m, hm, -⟩ := Bracket.counts_iff.mp hcounts
    have hround : m.roundNo ∈ b.roundsOf := Bracket.mem_roundsOf (List.mem_of_getElem? hm)
    have hticket : (matNo, pk, i) ∈ RoundJob.tickets ⟨matNo, m.roundNo, (pk, b)⟩ :=
      List.mem_map.mpr ⟨i, Bracket.mem_toNumber_iff.mpr ⟨hcounts, m, hm, rfl⟩, rfl⟩
    refine ⟨⟨matNo, m.roundNo, (pk, b)⟩, ?_, hticket⟩
    by_cases hlast : b.lastRoundNo = some m.roundNo
    · exact Or.inr (mem_finalJobs_iff.mpr ⟨hmat, hd, hw, hlast⟩)
    · have hall : m.roundNo ∈ allRounds draws := by
        rw [allRounds, List.mem_insertionSort, List.mem_dedup]
        exact List.mem_flatMap.mpr ⟨(pk, b), hd, hround⟩
      exact Or.inl (mem_earlierJobs_iff.mpr ⟨hall, hmat, hd, hw, hlast⟩)

end Phases

/-! ### Each match is numbered once -/

section Nodup

variable {w2m : ℕ → Option ℕ} {mats : List ℕ} {draws : List (ℕ × Bracket)}

theorem eq_of_key_eq (hpk : (draws.map Prod.fst).Nodup) {d d' : ℕ × Bracket} (hd : d ∈ draws)
    (hd' : d' ∈ draws) (h : d.1 = d'.1) : d = d' :=
  List.inj_on_of_nodup_map hpk hd hd' h

/-- The rounds on the mats, if each mat takes rounds of its own draws only. -/
theorem nodup_flatMap_mats (hmats : mats.Nodup) (hpk : (draws.map Prod.fst).Nodup)
    {f : ℕ → List ℕ} (hf : ∀ matNo, (f matNo).Sublist ((drawsOnMat w2m draws matNo).map Prod.fst)) :
    (mats.flatMap f).Nodup := by
  have hsub : ∀ matNo, ((drawsOnMat w2m draws matNo).map Prod.fst).Sublist (draws.map Prod.fst) :=
    fun matNo => List.filter_sublist.map _
  rw [List.nodup_flatMap]
  refine ⟨fun matNo _ => ((hf matNo).trans (hsub matNo)).nodup hpk, ?_⟩
  apply hmats.imp
  intro matNo matNo' hne pk hpk₁ hpk₂
  obtain ⟨d, hd, rfl⟩ := List.mem_map.mp ((hf matNo).subset hpk₁)
  obtain ⟨d', hd', heq⟩ := List.mem_map.mp ((hf matNo').subset hpk₂)
  obtain ⟨hd, hw⟩ := mem_drawsOnMat_iff.mp hd
  obtain ⟨hd', hw'⟩ := mem_drawsOnMat_iff.mp hd'
  obtain rfl := eq_of_key_eq hpk hd' hd heq
  exact hne (Option.some.inj (hw.symm.trans hw'))

theorem filterMap_map_const {α β γ : Type} (g : α → Option γ) (f : α → β) (l : List α) :
    (l.filterMap fun x => (g x).map fun _ => f x) = (l.filter fun x => (g x).isSome).map f := by
  induction l with
  | nil => rfl
  | cons x l ih => cases hg : g x <;> simp [hg, ih]

theorem nodup_earlierJobs (w2m : ℕ → Option ℕ) (hmats : mats.Nodup)
    (hpk : (draws.map Prod.fst).Nodup) :
    ((earlierJobs w2m mats draws).map fun j => (j.rnd, j.draw.1)).Nodup := by
  have hrounds : (allRounds draws).Nodup :=
    (List.perm_insertionSort _ _).nodup_iff.mpr (List.nodup_dedup _)
  rw [earlierJobs, List.map_flatMap, List.nodup_flatMap]
  constructor
  · -- within a round each draw is on one mat
    intro rnd _
    have hmap : (mats.flatMap fun matNo =>
          ((drawsOnMat w2m draws matNo).filter fun d => d.2.lastRoundNo ≠ some rnd).map fun d =>
            (⟨matNo, rnd, d⟩ : RoundJob)).map (fun j => (j.rnd, j.draw.1)) =
        (mats.flatMap fun matNo => ((drawsOnMat w2m draws matNo).filter fun d =>
          d.2.lastRoundNo ≠ some rnd).map Prod.fst).map (Prod.mk rnd) := by
      simp only [List.map_flatMap, List.map_map, Function.comp_def]
    rw [hmap]
    apply List.Nodup.map (Prod.mk_right_injective rnd)
    exact nodup_flatMap_mats hmats hpk fun matNo => List.filter_sublist.map _
  · apply hrounds.imp
    intro rnd rnd' hne key hkey hkey'
    simp only [List.mem_map, List.mem_flatMap] at hkey hkey'
    obtain ⟨_, ⟨_, _, _, _, rfl⟩, rfl⟩ := hkey
    obtain ⟨_, ⟨_, _, _, _, rfl⟩, heq⟩ := hkey'
    exact hne (Prod.mk.inj heq).1.symm

theorem nodup_finalJobs (w2m : ℕ → Option ℕ) (hmats : mats.Nodup)
    (hpk : (draws.map Prod.fst).Nodup) :
    ((finalJobs w2m mats draws).map fun j => (j.rnd, j.draw.1)).Nodup := by
  have hmap : ((finalJobs w2m mats draws).map fun j => (j.rnd, j.draw.1)).map Prod.snd =
      mats.flatMap fun matNo => ((drawsOnMat w2m draws matNo).filter fun d =>
        d.2.lastRoundNo.isSome).map Prod.fst := by
    simp only [finalJobs, List.map_flatMap, List.map_filterMap, Option.map_map, Function.comp_def,
      filterMap_map_const]
  apply List.Nodup.of_map Prod.snd
  rw [hmap]
  exact nodup_flatMap_mats hmats hpk fun matNo => List.filter_sublist.map _

/-- A round of a draw is numbered once. -/
theorem nodup_jobs (w2m : ℕ → Option ℕ) (hmats : mats.Nodup) (hpk : (draws.map Prod.fst).Nodup) :
    ((earlierJobs w2m mats draws ++ finalJobs w2m mats draws).map fun j =>
      (j.rnd, j.draw.1)).Nodup := by
  rw [List.map_append, List.nodup_append]
  refine ⟨nodup_earlierJobs w2m hmats hpk, nodup_finalJobs w2m hmats hpk, ?_⟩
  -- the earlier rounds of a draw are not its last one
  intro key hkey key' hkey' heq
  subst heq
  obtain ⟨j, hj, rfl⟩ := List.mem_map.mp hkey
  obtain ⟨j', hj', heq⟩ := List.mem_map.mp hkey'
  obtain ⟨-, -, hd, -, hlast⟩ := mem_earlierJobs_iff.mp hj
  obtain ⟨-, hd', -, hlast'⟩ := mem_finalJobs_iff.mp hj'
  obtain ⟨hrnd, hkeys⟩ := Prod.mk.inj heq
  rw [eq_of_key_eq hpk hd' hd hkeys, hrnd] at hlast'
  exact hlast hlast'

/-- A round that is numbered is one of a draw. -/
theorem draw_mem_of_job {j : RoundJob}
    (hj : j ∈ earlierJobs w2m mats draws ++ finalJobs w2m mats draws) : j.draw ∈ draws := by
  rcases List.mem_append.mp hj with hj | hj
  · exact (mem_earlierJobs_iff.mp hj).2.2.1
  · exact (mem_finalJobs_iff.mp hj).2.1

/-- **A match is numbered once.** -/
theorem nodup_tickets (hmats : mats.Nodup) (hpk : (draws.map Prod.fst).Nodup) :
    ((tickets w2m mats draws).map Prod.snd).Nodup := by
  have hjobs := nodup_jobs w2m hmats hpk
  rw [List.Nodup, List.pairwise_map] at hjobs
  have hdraw : ∀ j ∈ earlierJobs w2m mats draws ++ finalJobs w2m mats draws, j.draw ∈ draws :=
    fun j hj => draw_mem_of_job hj
  rw [tickets, List.map_flatMap, List.nodup_flatMap]
  constructor
  · intro j _
    have hmap : j.tickets.map Prod.snd = (j.draw.2.toNumber j.rnd).map (Prod.mk j.draw.1) := by
      simp only [RoundJob.tickets, roundTickets, List.map_map, Function.comp_def]
    rw [hmap]
    exact Bracket.nodup_toNumber.map (Prod.mk_right_injective _)
  · apply hjobs.imp_of_mem
    intro j j' hj hj' hne x hx hx'
    obtain ⟨_, ht, rfl⟩ := List.mem_map.mp hx
    obtain ⟨_, ht', heq⟩ := List.mem_map.mp hx'
    obtain ⟨i, hi, rfl⟩ := List.mem_map.mp ht
    obtain ⟨i', hi', rfl⟩ := List.mem_map.mp ht'
    -- a position of a draw is in one round
    obtain ⟨hkey, rfl⟩ := Prod.mk.inj heq
    have hd := eq_of_key_eq hpk (hdraw j' hj') (hdraw j hj) hkey
    obtain ⟨-, m, hm, hrnd⟩ := Bracket.mem_toNumber_iff.mp hi
    obtain ⟨-, m', hm', hrnd'⟩ := Bracket.mem_toNumber_iff.mp hi'
    rw [hd] at hm'
    obtain rfl := Option.some.inj (hm.symm.trans hm')
    exact hne (Prod.ext (hrnd.symm.trans hrnd') hkey.symm)

end Nodup

end Tkdchb
