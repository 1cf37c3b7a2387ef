import Tkdchb.Draws.FullBracket

/-!
# One numbering pass

A call that clears old numbers leaves a schedule behind: each mat has the numbers from one
to its counter, once each, and they follow the rounds, the draws and the slots, with the
finals at the end.

## Main definitions

* `NumberedBefore` — the order in which the matches of a mat are numbered
* `IsSchedule` — what a schedule of the draws of some weights is

## Main results

* `pairwise_tickets` — the matches are visited in this order
* `matchNumber_row_iff`, `matchNumber_row_eq_none_iff` — each match after a call
* `one_pass_isSchedule` — a call leaves a schedule
-/

namespace Tkdchb

open Transition Ticketing NumberingState

/-! ### The order -/

/-- The match is in the last round of its draw. -/
def Bracket.IsFinal (b : Bracket) (m : Bout) : Prop := b.lastRoundNo = some m.roundNo

/-- The draws by weight, and by id. -/
def drawBefore (minWeight : ℕ → ℚ) (x y : ℕ × Bracket) : Prop :=
  minWeight x.2.scope.weightCategory < minWeight y.2.scope.weightCategory ∨
    minWeight x.2.scope.weightCategory = minWeight y.2.scope.weightCategory ∧ x.1 < y.1

/-- The order of the matches on a mat: a final comes after all matches that are none, and
these are in order of round, draw and slot. -/
def NumberedBefore (minWeight : ℕ → ℚ) (x y : (ℕ × Bracket) × Bout) : Prop :=
  ¬x.1.2.IsFinal x.2 ∧ (y.1.2.IsFinal y.2 ∨ x.2.roundNo < y.2.roundNo ∨
    x.2.roundNo = y.2.roundNo ∧
      (drawBefore minWeight x.1 y.1 ∨ x.1.1 = y.1.1 ∧ x.2.slotA < y.2.slotA))

section Order

variable {minWeight : ℕ → ℚ} {w2m : ℕ → Option ℕ} {mats : List ℕ} {draws : List (ℕ × Bracket)}
  {b : Bracket} {rnd : ℕ}

theorem not_drawBefore_of_drawOrder {x y : ℕ × Bracket} (h : drawOrder minWeight x y) :
    ¬drawBefore minWeight y x := by
  rintro (hlt | ⟨heq, hlt⟩)
  · rcases h with hlt' | ⟨heq', -⟩
    · exact lt_asymm hlt hlt'
    · exact hlt.ne' heq'
  · rcases h with hlt' | ⟨-, hle⟩
    · exact hlt'.ne' heq
    · exact hlt.not_ge hle

/-- Slots come in order. -/
theorem Bracket.pairwise_matchesInRound :
    (b.matchesInRound rnd).Pairwise fun x y => x.1.slotA ≤ y.1.slotA := by
  have : Std.Total Bracket.slotOrder := ⟨fun x y => by
    unfold Bracket.slotOrder
    omega⟩
  have : IsTrans (Bout × ℕ) Bracket.slotOrder := ⟨fun x y z hxy hyz => by
    unfold Bracket.slotOrder at *
    omega⟩
  have hsorted : (b.matchesInRound rnd).Pairwise Bracket.slotOrder :=
    List.pairwise_insertionSort _ _
  apply hsorted.imp
  intro x y hxy
  rcases hxy with hlt | ⟨heq, -⟩
  · exact hlt.le
  · exact heq.le

theorem Bracket.pairwise_toNumber :
    (b.toNumber rnd).Pairwise fun i i' => ∀ m m', b.bouts[i]? = some m → b.bouts[i']? = some m' →
      m.slotA ≤ m'.slotA := by
  rw [Bracket.toNumber_eq, List.pairwise_map]
  apply List.Pairwise.filter
  have hrows : (b.matchesInRound rnd).Pairwise fun x y =>
      x ∈ b.matchesInRound rnd ∧ y ∈ b.matchesInRound rnd ∧ x.1.slotA ≤ y.1.slotA :=
    List.Pairwise.imp_of_mem (fun hx hy h => ⟨hx, hy, h⟩) Bracket.pairwise_matchesInRound
  apply hrows.imp
  rintro x y ⟨hx, hy, hle⟩ m m' hm hm'
  obtain rfl := Option.some.inj ((Bracket.mem_matchesInRound_iff.mp hx).1.symm.trans hm)
  obtain rfl := Option.some.inj ((Bracket.mem_matchesInRound_iff.mp hy).1.symm.trans hm')
  exact hle

/-! The rounds of draws are visited in order. -/

/-- The last round of a draw. -/
def RoundJob.IsFinal (j : RoundJob) : Prop := j.draw.2.lastRoundNo = some j.rnd

/-- The order of the visits. -/
def RoundJob.before (minWeight : ℕ → ℚ) (j j' : RoundJob) : Prop :=
  j'.IsFinal ∨ ¬j.IsFinal ∧ (j.rnd < j'.rnd ∨ j.rnd = j'.rnd ∧
    (j.matNo ≠ j'.matNo ∨ drawOrder minWeight j.draw j'.draw ∧ j.draw.1 ≠ j'.draw.1))

theorem pairwise_allRounds (draws : List (ℕ × Bracket)) : (allRounds draws).Pairwise (· < ·) := by
  have hnodup : (allRounds draws).Nodup :=
    (List.perm_insertionSort _ _).nodup_iff.mpr (List.nodup_dedup _)
  have hsorted : (allRounds draws).Pairwise (· ≤ ·) := List.pairwise_insertionSort _ _
  exact (hsorted.and hnodup).imp fun h => lt_of_le_of_ne h.1 h.2

theorem pairwise_earlierJobs (w2m : ℕ → Option ℕ) (hmats : mats.Nodup)
    (hdraws : draws.Pairwise (drawOrder minWeight)) (hkeys : (draws.map Prod.fst).Nodup) :
    (earlierJobs w2m mats draws).Pairwise (RoundJob.before minWeight) := by
  rw [earlierJobs, List.pairwise_flatMap]
  constructor
  · intro rnd _
    rw [List.pairwise_flatMap]
    constructor
    · -- the draws of one mat
      intro matNo _
      rw [List.Nodup, List.pairwise_map] at hkeys
      have hboth := List.Pairwise.filter (fun d : ℕ × Bracket => d.2.lastRoundNo ≠ some rnd)
        (List.Pairwise.filter (fun d : ℕ × Bracket => w2m d.2.scope.weightCategory = some matNo)
          (hdraws.and hkeys))
      rw [List.pairwise_map]
      apply List.Pairwise.imp_of_mem _ hboth
      intro d d' hd _ h
      have hlast := of_decide_eq_true (List.mem_filter.mp hd).2
      exact .inr ⟨hlast, .inr ⟨rfl, .inr h⟩⟩
    · apply hmats.imp
      intro matNo matNo' hne j hj j' hj'
      obtain ⟨d, hd, rfl⟩ := List.mem_map.mp hj
      obtain ⟨d', -, rfl⟩ := List.mem_map.mp hj'
      have hlast := of_decide_eq_true (List.mem_filter.mp hd).2
      exact .inr ⟨hlast, .inr ⟨rfl, .inl hne⟩⟩
  · apply (pairwise_allRounds draws).imp
    intro rnd rnd' hlt j hj j' hj'
    simp only [List.mem_flatMap, List.mem_map, List.mem_filter, decide_eq_true_eq] at hj hj'
    obtain ⟨matNo, -, d, ⟨-, hlast⟩, rfl⟩ := hj
    obtain ⟨matNo', -, d', -, rfl⟩ := hj'
    exact .inr ⟨hlast, .inl hlt⟩

/-- **The rounds are visited in order**, the finals at the end. -/
theorem pairwise_jobs (w2m : ℕ → Option ℕ) (hmats : mats.Nodup)
    (hdraws : draws.Pairwise (drawOrder minWeight)) (hkeys : (draws.map Prod.fst).Nodup) :
    (earlierJobs w2m mats draws ++ finalJobs w2m mats draws).Pairwise
      (RoundJob.before minWeight) := by
  have hfinal : ∀ j ∈ finalJobs w2m mats draws, j.IsFinal :=
    fun j hj => (mem_finalJobs_iff.mp hj).2.2.2
  rw [List.pairwise_append]
  refine ⟨pairwise_earlierJobs w2m hmats hdraws hkeys, ?_, fun j _ j' hj' => .inl (hfinal j' hj')⟩
  exact List.pairwise_of_forall_mem_list fun j _ j' hj' => .inl (hfinal j' hj')

/-- The match of a ticket comes before that of another. -/
def TicketBefore (minWeight : ℕ → ℚ) (draws : List (ℕ × Bracket)) (t t' : ℕ × ℕ × ℕ) : Prop :=
  ∃ b m b' m', (t.2.1, b) ∈ draws ∧ b.bouts[t.2.2]? = some m ∧ (t'.2.1, b') ∈ draws ∧
    b'.bouts[t'.2.2]? = some m' ∧ NumberedBefore minWeight ((t.2.1, b), m) ((t'.2.1, b'), m')

/-- What a ticket of a round says. -/
theorem RoundJob.spec_of_mem_tickets (hkeys : (draws.map Prod.fst).Nodup) {j : RoundJob}
    (hj : j.draw ∈ draws) {t : ℕ × ℕ × ℕ} (ht : t ∈ j.tickets) {m : Bout}
    (hb : (t.2.1, b) ∈ draws) (hm : b.bouts[t.2.2]? = some m) :
    j.draw = (t.2.1, b) ∧ m.roundNo = j.rnd ∧ t.1 = j.matNo := by
  obtain ⟨i, hi, rfl⟩ := List.mem_map.mp ht
  have hdraw : j.draw = (j.draw.1, b) := eq_of_key_eq hkeys hj hb rfl
  obtain ⟨-, m', hm', hround⟩ := Bracket.mem_toNumber_iff.mp hi
  rw [hdraw] at hm'
  obtain rfl := Option.some.inj (hm.symm.trans hm')
  exact ⟨hdraw, hround, rfl⟩

/-- **The matches are visited in order.** -/
theorem pairwise_tickets (w2m : ℕ → Option ℕ) (hmats : mats.Nodup)
    (hdraws : draws.Pairwise (drawOrder minWeight)) (hkeys : (draws.map Prod.fst).Nodup) :
    (tickets w2m mats draws).Pairwise fun t t' =>
      t.1 = t'.1 → ¬TicketBefore minWeight draws t' t := by
  have hdraw : ∀ j ∈ earlierJobs w2m mats draws ++ finalJobs w2m mats draws, j.draw ∈ draws :=
    fun j hj => draw_mem_of_job hj
  rw [tickets, List.pairwise_flatMap]
  constructor
  · -- within a round only the slots differ
    intro j hj
    rw [RoundJob.tickets, roundTickets, List.pairwise_map]
    have hmem : (j.draw.2.toNumber j.rnd).Pairwise fun i i' =>
        i ∈ j.draw.2.toNumber j.rnd ∧ i' ∈ j.draw.2.toNumber j.rnd ∧
          ∀ m m', j.draw.2.bouts[i]? = some m → j.draw.2.bouts[i']? = some m' →
            m.slotA ≤ m'.slotA :=
      List.Pairwise.imp_of_mem (fun hi hi' h => ⟨hi, hi', h⟩) Bracket.pairwise_toNumber
    apply hmem.imp
    rintro i i' ⟨hi, hi', hslots⟩ - ⟨b', m', b, m, hb', hm', hb, hm, hbefore⟩
    obtain ⟨hd, hround, -⟩ := RoundJob.spec_of_mem_tickets hkeys (hdraw j hj)
      (List.mem_map_of_mem hi) hb hm
    obtain ⟨hd', hround', -⟩ := RoundJob.spec_of_mem_tickets hkeys (hdraw j hj)
      (List.mem_map_of_mem hi') hb' hm'
    obtain rfl : b = b' := (Prod.mk.inj (hd.symm.trans hd')).2
    rw [hd] at hslots
    have hle : m.slotA ≤ m'.slotA := hslots m m' hm hm'
    rcases hbefore with ⟨hnonfinal, hfinal | hlt | ⟨-, hdraws' | ⟨-, hlt⟩⟩⟩
    · exact hnonfinal (by rwa [Bracket.IsFinal, hround', ← hround])
    · have hlt' : m'.roundNo < m.roundNo := hlt
      omega
    · exact not_drawBefore_of_drawOrder (drawOrder_total minWeight _ _ |>.elim id id) hdraws'
    · exact absurd hle (Nat.not_le.mpr hlt)
  · apply List.Pairwise.imp_of_mem _ (pairwise_jobs w2m hmats hdraws hkeys)
    rintro j j' hj hj' hjobs t ht t' ht' hmat ⟨b', m', b, m, hb', hm', hb, hm, hbefore⟩
    obtain ⟨hd, hround, hmat₁⟩ := RoundJob.spec_of_mem_tickets hkeys (hdraw j hj) ht hb hm
    obtain ⟨hd', hround', hmat₂⟩ := RoundJob.spec_of_mem_tickets hkeys (hdraw j' hj') ht' hb' hm'
    have hfinal : j.IsFinal ↔ b.IsFinal m := by
      rw [RoundJob.IsFinal, hd, ← hround, Bracket.IsFinal]
    have hfinal' : j'.IsFinal ↔ b'.IsFinal m' := by
      rw [RoundJob.IsFinal, hd', ← hround', Bracket.IsFinal]
    obtain ⟨hnonfinal, horder⟩ := hbefore
    rcases hjobs with hlast | ⟨hearlier, hjobs⟩
    · exact hnonfinal (hfinal'.mp hlast)
    · rcases horder with hlast | horder
      · exact hearlier (hfinal.mpr hlast)
      · rw [hround, hround'] at horder
        rcases hjobs with hlt | ⟨heq, hmats' | ⟨hle, hne⟩⟩
        · omega
        · exact hmats' (hmat₁ ▸ hmat₂ ▸ hmat)
        · rcases horder with hlt | ⟨-, hdraws' | ⟨hkey, -⟩⟩
          · omega
          · rw [hd, hd'] at hle
            exact not_drawBefore_of_drawOrder hle hdraws'
          · rw [hd, hd'] at hne
            exact hne hkey.symm

/-- No ticket comes before itself. -/
theorem not_ticketBefore_self (hkeys : (draws.map Prod.fst).Nodup) (t : ℕ × ℕ × ℕ) :
    ¬TicketBefore minWeight draws t t := by
  rintro ⟨b, m, b', m', hb, hm, hb', hm', hnonfinal, horder⟩
  obtain rfl : b = b' := (Prod.mk.inj (eq_of_key_eq hkeys hb hb' rfl)).2
  obtain rfl := Option.some.inj (hm.symm.trans hm')
  rcases horder with hfinal | hlt | ⟨-, (hlt | ⟨-, hlt⟩) | ⟨-, hlt⟩⟩
  · exact hnonfinal hfinal
  · exact lt_irrefl _ hlt
  · exact lt_irrefl _ hlt
  · exact lt_irrefl _ hlt
  · exact lt_irrefl _ hlt

end Order

/-! ### Schedules -/

/-- The match at `x`, of a draw of some weights. -/
structure NumberingState.Row (s : NumberingState) (competitionId : ℕ) (weightIds : List ℕ)
    (x : ℕ × ℕ) (b : Bracket) (m : Bout) : Prop where
  get : s.draws.get x.1 = some b
  selects : Selects competitionId weightIds b
  bout : b.bouts[x.2]? = some m

/-- The numbers of the draws of some weights are a schedule whose counters stand where they
are given. -/
structure IsSchedule (s : NumberingState) (competitionId : ℕ) (weightIds : List ℕ)
    (counters : List (ℕ × ℕ)) : Prop where
  nodup : (counters.map Prod.fst).Nodup
  /-- A match with a number is on the mat of its weight. -/
  onMat : ∀ x b m, s.Row competitionId weightIds x b m → m.matchNumber ≠ none →
    ∃ matNo last, s.matOf competitionId b.scope.weightCategory = some matNo ∧
      m.matNo = some matNo ∧ (matNo, last) ∈ counters
  /-- The numbers on a mat are those up to its counter. -/
  upTo : ∀ matNo last, (matNo, last) ∈ counters → ∀ number,
    (∃ x b m, s.Row competitionId weightIds x b m ∧ m.matNo = some matNo ∧
      m.matchNumber = some number) ↔ 1 ≤ number ∧ number ≤ last
  /-- Each of them is used once. -/
  once : ∀ x b m x' b' m', s.Row competitionId weightIds x b m →
    s.Row competitionId weightIds x' b' m' → m.matNo = m'.matNo → m.matchNumber ≠ none →
      m.matchNumber = m'.matchNumber → x = x'
  /-- What has no number is a BYE of a first round or in a draw without two players. -/
  unnumbered : ∀ x b m, s.Row competitionId weightIds x b m →
    (m.matchNumber = none ↔ m.roundNo = 1 ∧ m.isBye = true ∨ b.realPlayersCount < 2)
  /-- The numbers of a mat are in order. -/
  ordered : ∀ x b m x' b' m' number number', s.Row competitionId weightIds x b m →
    s.Row competitionId weightIds x' b' m' → m.matNo = m'.matNo →
      m.matchNumber = some number → m'.matchNumber = some number' →
        NumberedBefore s.minWeight ((x.1, b), m) ((x'.1, b'), m') → number < number'
  /-- A later round of a draw has larger numbers. -/
  later : ∀ pk b i m i' m' number number', s.Row competitionId weightIds (pk, i) b m →
    s.Row competitionId weightIds (pk, i') b m' → m.roundNo < m'.roundNo →
      m.matchNumber = some number → m'.matchNumber = some number' → number < number'

/-- A round before another is not the last. -/
theorem Bracket.not_isFinal_of_lt {b : Bracket} {m m' : Bout} (hm' : m' ∈ b.bouts)
    (hlt : m.roundNo < m'.roundNo) : ¬b.IsFinal m := by
  intro hfinal
  have hsorted : b.roundsOf.Pairwise (· ≤ ·) := List.pairwise_insertionSort _ _
  obtain ⟨rounds, hrounds⟩ := List.getLast?_eq_some_iff.mp hfinal
  have hmem := Bracket.mem_roundsOf hm'
  rw [hrounds, List.mem_append, List.mem_singleton] at hmem
  rw [hrounds, List.pairwise_append] at hsorted
  rcases hmem with hearlier | hlast
  · exact absurd (hsorted.2.2 _ hearlier _ List.mem_cons_self) (Nat.not_le.mpr hlt)
  · omega

section Call

variable {s s' : NumberingState} {competitionId : ℕ} {weightIds : List ℕ} {clearPrev : Bool}
  {w2m : ℕ → Option ℕ} {x x' : ℕ × ℕ} {matNo number number' : ℕ} {b b' : Bracket} {m m' : Bout}

/-- The match that was numbered, as the loops found it. -/
theorem exists_ready_of_issued
    (h : (x, matNo, number) ∈ s.issued competitionId weightIds clearPrev w2m)
    (hrow : (s.numbered competitionId weightIds clearPrev w2m).Row competitionId weightIds x b m) :
    ∃ b₀ m₀, (x.1, b₀) ∈ s.readyDraws competitionId weightIds clearPrev ∧
      b₀.bouts[x.2]? = some m₀ ∧ b.scope = b₀.scope ∧ b.lastRoundNo = b₀.lastRoundNo ∧
        m = m₀.stamp matNo number := by
  obtain ⟨b₁, hb₁, hsel, -, hreal, -⟩ := numbers_of_issued h
  obtain ⟨m₀, hm₀, rfl⟩ : ∃ m₀, (b₁.prepare clearPrev).bouts[x.2]? = some m₀ ∧
      m = m₀.stamp matNo number := by
    have hafter := boutAt_numbered_of_issued h
    rw [boutAt_of_get hrow.get, hrow.bout, boutAt_prepared hb₁ hsel, eq_comm,
      Option.map_eq_some_iff] at hafter
    obtain ⟨m₀, hm₀, heq⟩ := hafter
    exact ⟨m₀, hm₀, heq.symm⟩
  have houtline : ((s.numbered competitionId weightIds clearPrev w2m).draws.get x.1).map
      Bracket.outline = _ := outline_numbered w2m hb₁
  rw [hrow.get, Option.map_some, Option.some.injEq, if_pos hsel] at houtline
  refine ⟨b₁.prepare clearPrev, m₀, ?_, hm₀, ?_, ?_, rfl⟩
  · exact mem_readyDraws_iff.mpr ⟨b₁, hb₁, hsel, rfl, by rwa [Bracket.hasRealMatch_prepare]⟩
  · rw [← Bracket.scope_outline, houtline, Bracket.scope_outline]
  · rw [← Bracket.lastRoundNo_outline, houtline, Bracket.lastRoundNo_outline]

/-- A number that was issued is on a match. -/
theorem exists_row_of_issued
    (h : (x, matNo, number) ∈ s.issued competitionId weightIds clearPrev w2m) :
    ∃ b m, (s.numbered competitionId weightIds clearPrev w2m).Row competitionId weightIds x b m ∧
      w2m b.scope.weightCategory = some matNo := by
  have hnumbers := numbers_of_issued h
  obtain ⟨m₀, hm₀⟩ := boutAt_prepared_of_numbers clearPrev hnumbers
  have hafter := boutAt_numbered_of_issued h
  rw [hm₀, Option.map_some, boutAt, Option.bind_eq_some_iff] at hafter
  obtain ⟨b, hb, hm⟩ := hafter
  obtain ⟨b₀, hb₀, hsel, hmat, -⟩ := hnumbers
  obtain ⟨b₁, hb₁, hscope⟩ := scope_numbered hb
  obtain rfl := Option.some.inj (hb₀.symm.trans hb₁)
  refine ⟨b, _, ⟨hb, ?_, hm⟩, hscope ▸ hmat⟩
  rw [Selects, ← hscope]
  exact hsel

/-- **Matches are numbered in order.** -/
theorem number_lt_of_numberedBefore
    (h : (x, matNo, number) ∈ s.issued competitionId weightIds clearPrev w2m)
    (h' : (x', matNo, number') ∈ s.issued competitionId weightIds clearPrev w2m)
    (hrow : (s.numbered competitionId weightIds clearPrev w2m).Row competitionId weightIds x b m)
    (hrow' : (s.numbered competitionId weightIds clearPrev w2m).Row competitionId weightIds
      x' b' m')
    (hbefore : NumberedBefore s.minWeight ((x.1, b), m) ((x'.1, b'), m')) : number < number' := by
  obtain ⟨b₀, m₀, hb₀, hm₀, hscope, hlast, rfl⟩ := exists_ready_of_issued h hrow
  obtain ⟨b₀', m₀', hb₀', hm₀', hscope', hlast', rfl⟩ := exists_ready_of_issued h' hrow'
  have hsorted : (s.readyDraws competitionId weightIds clearPrev).Pairwise
      (drawOrder s.minWeight) :=
    List.Pairwise.filter _ (pairwise_drawsOf (s := s.prepared competitionId weightIds clearPrev))
  have hvisits : (s.schedule competitionId weightIds clearPrev w2m).Pairwise _ :=
    pairwise_tickets w2m nodup_matsOf hsorted nodup_readyDraws
  apply number_lt_of_before hvisits (not_ticketBefore_self nodup_readyDraws) h h'
  refine ⟨b₀, m₀, b₀', m₀', hb₀, hm₀, hb₀', hm₀', ?_⟩
  simpa only [NumberedBefore, Bracket.IsFinal, drawBefore, hscope, hscope', hlast, hlast',
    Bout.stamp] using hbefore

/-- **A match after a call that clears old numbers**, if it was on no mat before: what it got
from the counter of its mat. -/
theorem matchNumber_row_iff (hmats : ∀ w ∈ weightIds, ∃ matNo, w2m w = some matNo)
    (hfresh : ∀ pk b, s.draws.get pk = some b → Selects competitionId weightIds b →
      ∀ m ∈ b.bouts, m.matNo = none)
    (hrow : (s.numbered competitionId weightIds true w2m).Row competitionId weightIds x b m) :
    ∃ matNo, w2m b.scope.weightCategory = some matNo ∧
      (∀ number, m.matchNumber = some number ↔
        (x, matNo, number) ∈ s.issued competitionId weightIds true w2m) ∧
      (m.matchNumber ≠ none → m.matNo = some matNo) := by
  obtain ⟨matNo, hmat⟩ := hmats _ hrow.selects.2
  obtain ⟨b₀, hb₀, hscope⟩ := scope_numbered hrow.get
  have hsel₀ : Selects competitionId weightIds b₀ := by
    rw [Selects, hscope]
    exact hrow.selects
  have hbout : boutAt (s.numbered competitionId weightIds true w2m).draws (x.1, x.2) = some m := by
    rw [boutAt_of_get hrow.get, hrow.bout]
  have hnumber : ∀ number, m.matchNumber = some number ↔
      (x, matNo, number) ∈ s.issued competitionId weightIds true w2m := fun number =>
    matchNumber_numbered_iff hb₀ hsel₀ (by rw [hscope]; exact hmat) (.inl rfl) hbout
  refine ⟨matNo, hmat, hnumber, fun hsome => ?_⟩
  obtain ⟨number, hsome⟩ := Option.ne_none_iff_exists'.mp hsome
  obtain ⟨b₁, m₀, hready, hm₀, -, -, rfl⟩ := exists_ready_of_issued ((hnumber number).mp hsome) hrow
  obtain ⟨b₂, hb₂, hsel₂, rfl, -⟩ := mem_readyDraws_iff.mp hready
  -- without a mat of its own the match takes that of the counter
  have hnone : m₀.matNo = none := by
    rcases Bracket.prepare_cases hm₀ with ⟨m₁, hm₁, rfl⟩ | ⟨-, hnone, -⟩
    · rw [Bout.matNo_cleared]
      exact hfresh _ _ hb₂ hsel₂ m₁ (List.mem_of_getElem? hm₁)
    · exact hnone
  exact matNo_stamp.mpr (.inl (by rw [hnone]; rfl))

/-- **Which matches of created draws have no number.** -/
theorem matchNumber_row_eq_none_iff (hmats : ∀ w ∈ weightIds, ∃ matNo, w2m w = some matNo)
    (hmade : ∀ pk b, s.draws.get pk = some b → Selects competitionId weightIds b →
      ∃ draw, b.MadeAs draw)
    (hrow : (s.numbered competitionId weightIds true w2m).Row competitionId weightIds x b m) :
    m.matchNumber = none ↔ m.roundNo = 1 ∧ m.isBye = true ∨ b.realPlayersCount < 2 := by
  obtain ⟨b₀, hb₀, hscope⟩ := scope_numbered hrow.get
  have hsel₀ : Selects competitionId weightIds b₀ := by
    rw [Selects, hscope]
    exact hrow.selects
  obtain ⟨matNo, hmat⟩ := hmats _ hsel₀.2
  have hbout : boutAt (s.numbered competitionId weightIds true w2m).draws (x.1, x.2) = some m := by
    rw [boutAt_of_get hrow.get, hrow.bout]
  obtain ⟨draw, hdraw₀⟩ := hmade _ _ hb₀ hsel₀
  have hdraw : b.MadeAs draw := madeAs_numbered hdraw₀ hb₀ hrow.get
  have hplayers : b.realPlayersCount = b₀.realPlayersCount :=
    hdraw.realPlayersCount.trans hdraw₀.realPlayersCount.symm
  have houtline : b.outline = b₀.ensureRoundsExist.outline := outline_of_selects hb₀ hsel₀ hrow.get
  have hcounts : b₀.ensureRoundsExist.Counts x.2 ↔ (m.roundNo = 1 → m.isBye = false) := by
    have hsame : b₀.ensureRoundsExist.Counts x.2 ↔ b.Counts x.2 := by
      rw [Bracket.Counts, Bracket.Counts, houtline]
    rw [hsame, Bracket.counts_iff, hrow.bout, hdraw.firstRoundNo]
    simp only [Option.some.injEq, exists_eq_left']
    exact ⟨fun h hround => h hround.symm, fun h hround => h hround.symm⟩
  rw [← Option.not_isSome_iff_eq_none,
    isSome_matchNumber_numbered_iff hb₀ hsel₀ hmat (.inl rfl) hbout, Bracket.counted_iff,
    hdraw₀.hasRealMatch_iff, hcounts, ← hplayers, not_and_or, Nat.not_le, or_comm, Classical.not_imp,
    Bool.not_eq_false]

/-- **One numbering pass is a schedule.** Take any competition and weights that all have a
mat, with a draw among them, where every draw of these weights was created by
`create_draw_for_group` and its matches are on no mat. A call that clears old numbers returns
the counters of a schedule. -/
theorem one_pass_isSchedule (s : NumberingState) (competitionId : ℕ) {weightIds : List ℕ}
    (hne : weightIds ≠ []) (hmats : ∀ w ∈ weightIds, ∃ matNo, s.matOf competitionId w = some matNo)
    (hdraws : ∃ pk b, s.draws.get pk = some b ∧ Selects competitionId weightIds b)
    (hmade : ∀ pk b, s.draws.get pk = some b → Selects competitionId weightIds b →
      ∃ draw, b.MadeAs draw)
    (hfresh : ∀ pk b, s.draws.get pk = some b → Selects competitionId weightIds b →
      ∀ m ∈ b.bouts, m.matNo = none) :
    ∃ counters s', numberMatchesForCompetition competitionId weightIds true s = .ok (counters, s') ∧
      IsSchedule s' competitionId weightIds counters := by
  obtain ⟨pk, b, hb, hsel⟩ := hdraws
  have hsome : s.drawsOf competitionId weightIds ≠ [] :=
    List.ne_nil_of_mem (mem_drawsOf_iff.mpr ⟨hb, hsel⟩)
  refine ⟨_, _, numberMatchesForCompetition_ok_iff.mpr
    ⟨⟨_, selection_eq_ok_iff.mpr ⟨hne, rfl, hmats, rfl, hsome⟩⟩, rfl⟩, ?_⟩
  -- a number on a row is one that its mat has issued to it, and all cases rest on that
  have hrows := fun x b m => matchNumber_row_iff (x := x) (b := b) (m := m) hmats hfresh
  constructor
  case nodup =>
    rw [List.map_map]
    exact nodup_matsOf.map fun _ _ h => h
  case onMat =>
    intro x b m hrow hnumber
    obtain ⟨matNo, hmat, hissued, hon⟩ := hrows x b m hrow
    obtain ⟨number, hsome⟩ := Option.ne_none_iff_exists'.mp hnumber
    have hnumbers := numbers_of_issued ((hissued number).mp hsome)
    refine ⟨matNo, _, ?_, hon hnumber,
      List.mem_map.mpr ⟨matNo, mem_matsOf_of_numbers hnumbers, rfl⟩⟩
    rw [NumberingState.matOf, events_numbered]
    exact hmat
  case upTo =>
    intro matNo last hlast number
    obtain ⟨matNo', -, heq⟩ := List.mem_map.mp hlast
    obtain ⟨rfl, rfl⟩ := Prod.mk.inj heq
    constructor
    · rintro ⟨x, b, m, hrow, hmat, hsome⟩
      obtain ⟨matNo, -, hissued, hon⟩ := hrows x b m hrow
      obtain rfl := Option.some.inj (hmat.symm.trans (hon (by simp [hsome])))
      have hgiven := (hissued number).mp hsome
      have hbounds := bounds_of_mem_issue hgiven
      exact hbounds
    · -- every number up to the counter was issued, and is on a row afterwards
      rintro ⟨hpos, hle⟩
      obtain ⟨x, hx⟩ := exists_issue (c := fun _ => 0) hpos hle
      obtain ⟨b, m, hrow, hmat⟩ := exists_row_of_issued hx
      obtain ⟨matNo', hmat', hissued, hon⟩ := hrows x b m hrow
      obtain rfl := Option.some.inj (hmat.symm.trans hmat')
      have hsome := (hissued number).mpr hx
      exact ⟨x, b, m, hrow, hon (by simp [hsome]), hsome⟩
  case once =>
    intro x b m x' b' m' hrow hrow' hmat hnumber heq
    obtain ⟨matNo, -, hissued, hon⟩ := hrows x b m hrow
    obtain ⟨matNo', -, hissued', hon'⟩ := hrows x' b' m' hrow'
    obtain ⟨number, hsome⟩ := Option.ne_none_iff_exists'.mp hnumber
    -- both rows are on one mat, which issues a number once
    obtain rfl := Option.some.inj ((hon hnumber).symm.trans (hmat.trans (hon' (heq ▸ hnumber))))
    exact issue_injective ((hissued number).mp hsome) ((hissued' number).mp (heq ▸ hsome))
  case unnumbered => exact fun x b m hrow => matchNumber_row_eq_none_iff hmats hmade hrow
  case ordered =>
    intro x b m x' b' m' number number' hrow hrow' hmat hsome hsome' hbefore
    obtain ⟨matNo, -, hissued, hon⟩ := hrows x b m hrow
    obtain ⟨matNo', -, hissued', hon'⟩ := hrows x' b' m' hrow'
    obtain rfl := Option.some.inj
      ((hon (by simp [hsome])).symm.trans (hmat.trans (hon' (by simp [hsome']))))
    rw [minWeight_numbered] at hbefore
    exact number_lt_of_numberedBefore ((hissued number).mp hsome) ((hissued' number').mp hsome')
      hrow hrow' hbefore
  case later =>
    intro pk b i m i' m' number number' hrow hrow' hlt hsome hsome'
    obtain ⟨matNo, hmat, hissued, -⟩ := hrows _ b m hrow
    obtain ⟨matNo', hmat', hissued', -⟩ := hrows _ b m' hrow'
    obtain rfl := Option.some.inj (hmat.symm.trans hmat')
    -- two rows of one draw, so on one mat, and the earlier round is not the final
    have hnonfinal := Bracket.not_isFinal_of_lt (List.mem_of_getElem? hrow'.bout) hlt
    have hbefore : NumberedBefore s.minWeight ((pk, b), m) ((pk, b), m') :=
      ⟨hnonfinal, .inr (.inl hlt)⟩
    exact number_lt_of_numberedBefore ((hissued number).mp hsome) ((hissued' number').mp hsome')
      hrow hrow' hbefore

end Call

/-- Draws of three and of five players are made. -/
def twoGroupCalls : List DrawAction :=
  [.draw (groupCall (some 3) [5, 6, 7] (1, 2)), .draw (groupCall (some 4) [8, 9, 10, 11, 12] (1, 2))]

/-- A competition with these draws, whose weight is on mat 1. -/
def twoGroups : NumberingState :=
  drawnState (run drawActionStep .empty twoGroupCalls)
    (fun competitionId => if competitionId = 1 then some ⟨[⟨1, [2]⟩], none⟩ else none) fun _ => 0

/-- Their matches are numbered in one pass. -/
theorem one_pass_two_groups :
    ∃ counters s', numberMatchesForCompetition 1 [2] true twoGroups = .ok (counters, s') ∧
      IsSchedule s' 1 [2] counters := by
  have hdraw : ∀ pk b, twoGroups.draws.get pk = some b → ∃ draw : Draw, draw.Drawn ∧
      b = draw.bracket := by
    intro pk b hb
    obtain ⟨draw, hget, rfl⟩ := Option.map_eq_some_iff.mp hb
    exact ⟨draw, allDrawn_run twoGroupCalls pk draw hget, rfl⟩
  have hmats : ∀ w ∈ [2], twoGroups.matOf 1 w = some 1 := by
    decide +kernel
  have hfirst : (twoGroups.draws.get 1).map (fun b => (b.scope.competition,
      b.scope.weightCategory)) = some (1, 2) := by
    decide +kernel
  obtain ⟨b, hb, hscope⟩ := Option.map_eq_some_iff.mp hfirst
  obtain ⟨hcomp, hweight⟩ := Prod.mk.inj hscope
  apply one_pass_isSchedule twoGroups 1 (by decide) (fun w hw => ⟨1, hmats w hw⟩)
  · exact ⟨1, b, hb, hcomp, by rw [hweight]; decide⟩
  · intro pk b hb _
    obtain ⟨draw, hdrawn, rfl⟩ := hdraw pk b hb
    exact ⟨draw, Bracket.madeAs_bracket hdrawn⟩
  · intro pk b hb _ m hm
    obtain ⟨draw, -, rfl⟩ := hdraw pk b hb
    obtain ⟨m, -, rfl⟩ := List.mem_map.mp hm
    rfl

end Tkdchb
