import Tkdchb.Draws.CreateDraw
import Tkdchb.Lib.Transition

/-!
# What the history remembers

The history of first-round pairs is what later draws avoid. A call records the pairs of
the draw it makes, and then runs the cleanup that empties the history on 1 Farvardin. It
does not take back the pairs of the draw it discards.

## Main definitions

* `Remembered` — every pair of the first round has one row, in order, and is penalised
* `DrawState.lastDraw` — the draw that was made last
* `ThrowsAwayKnown` — the draw that is about to be thrown away paired only players whose
  pair had been recorded before

## Main results

* `remembered_iff` — when a call remembers the pairs of its draw
* `redraws_forget` — redraws that throw away only recorded pairs leave no trace
-/

namespace Tkdchb

open Transition

/-! ### One draw -/

/-- The row is of these two players. -/
def PlayerPair.IsOf (pair : PlayerPair) (p q : ℤ) : Prop :=
  (pair.playerA = p ∧ pair.playerB = q) ∨ (pair.playerA = q ∧ pair.playerB = p)

instance (pair : PlayerPair) (p q : ℤ) : Decidable (pair.IsOf p q) :=
  inferInstanceAs (Decidable (_ ∨ _))

theorem PlayerPair.isOf_iff {pair : PlayerPair} {p q : ℤ} :
    pair.IsOf p q ↔ pair = PlayerPair.of p q := by
  obtain ⟨a, b, hab⟩ := pair
  unfold PlayerPair.IsOf PlayerPair.of
  split_ifs with h
  · simp only [PlayerPair.mk.injEq]
    exact ⟨fun hor => by omega, Or.inl⟩
  · simp only [PlayerPair.mk.injEq]
    exact ⟨fun hor => by omega, Or.inr⟩

/-- Whoever meet in the first round of the draw have exactly one row in the history of its
scope, the smaller number first, and a pairing of the two in a later draw costs the
penalty. -/
def Remembered (draw : Draw) (h : PairHistory) : Prop :=
  ∀ m ∈ draw.matchRows, m.roundNo = 1 → ∀ p q, m.playerA = some p → m.playerB = some q →
    (∃ row, (h.rows.filter fun row =>
        some row.scope = draw.scope.pairScope ∧ row.pair.IsOf p q) = [row] ∧
      row.pair.playerA < row.pair.playerB) ∧
    ∀ n t (a b : Entry), a.playerId = p → b.playerId = q →
      repeatPairPenalty ≤ pairCost n t (pairsIn h draw.scope.pairScope) a b

theorem mem_firstRoundPairs_iff {draw : Draw} {pair : PlayerPair} :
    pair ∈ draw.firstRoundPairs ↔ ∃ m ∈ draw.matchRows, m.roundNo = 1 ∧
      ∃ p q, m.playerA = some p ∧ m.playerB = some q ∧ PlayerPair.of p q = pair := by
  simp only [Draw.firstRoundPairs, List.mem_filterMap, List.mem_filter, decide_eq_true_eq,
    Match.pair_eq_some_iff, and_assoc]

/-- A recorded pair has exactly one row. -/
theorem exists_row_of_mem_pairsIn {h : PairHistory} {pscope : Option PairScope} {p q : ℤ}
    (hpair : PlayerPair.of p q ∈ pairsIn h pscope) :
    ∃ row, (h.rows.filter fun row => some row.scope = pscope ∧ row.pair.IsOf p q) = [row] ∧
      row.pair = PlayerPair.of p q := by
  cases pscope with
  | none => cases hpair
  | some scope =>
    obtain ⟨row, hkey, hrows⟩ := KeyedRows.exists_filter_key_eq (mem_pairsIn_iff.mp hpair)
    refine ⟨row, ?_, congrArg Prod.fst hkey⟩
    rw [← hrows]
    apply List.filter_congr
    intro row' _
    simp only [Option.some.injEq, PlayerPair.isOf_iff, FirstRoundPairHistory.key, Prod.mk.injEq,
      decide_eq_decide]
    exact and_comm

/-- A pair that has a row is recorded. -/
theorem mem_pairsIn_of_row {h : PairHistory} {pscope : Option PairScope} {p q : ℤ}
    {row : FirstRoundPairHistory}
    (hrow : row ∈ h.rows.filter fun row => some row.scope = pscope ∧ row.pair.IsOf p q) :
    PlayerPair.of p q ∈ pairsIn h pscope := by
  obtain ⟨hmem, hof⟩ := List.mem_filter.mp hrow
  obtain ⟨hscope, hpair⟩ := of_decide_eq_true hof
  subst hscope
  rw [mem_pairsIn_iff, ← PlayerPair.isOf_iff.mp hpair]
  exact List.mem_map_of_mem hmem

/-- A draw is remembered if its pairs are recorded and are pairs of two players. -/
theorem remembered_iff_pairs {draw : Draw} {h : PairHistory} :
    Remembered draw h ↔ ∀ pair ∈ draw.firstRoundPairs,
      pair ∈ pairsIn h draw.scope.pairScope ∧ pair.playerA < pair.playerB := by
  constructor
  · intro hrem pair hpair
    obtain ⟨m, hm, hround, p, q, hp, hq, rfl⟩ := mem_firstRoundPairs_iff.mp hpair
    obtain ⟨⟨row, hrows, hlt⟩, -⟩ := hrem m hm hround p q hp hq
    have hrow : row ∈ h.rows.filter fun row =>
        some row.scope = draw.scope.pairScope ∧ row.pair.IsOf p q := by
      rw [hrows]
      exact List.mem_singleton_self row
    have hof := (of_decide_eq_true (List.mem_filter.mp hrow).2).2
    rw [PlayerPair.isOf_iff.mp hof] at hlt
    exact ⟨mem_pairsIn_of_row hrow, hlt⟩
  · intro hpairs m hm hround p q hp hq
    obtain ⟨hrecorded, hlt⟩ := hpairs (PlayerPair.of p q)
      (mem_firstRoundPairs_iff.mpr ⟨m, hm, hround, p, q, hp, hq, rfl⟩)
    obtain ⟨row, hrows, hpair⟩ := exists_row_of_mem_pairsIn hrecorded
    refine ⟨⟨row, hrows, hpair ▸ hlt⟩, fun n t a b ha hb => ?_⟩
    subst ha hb
    rw [pairCost, if_pos hrecorded]
    exact Nat.le_add_right _ _

/-- The pairs that the chosen order puts into one match. -/
def DrawCall.drawnPairs (c : DrawCall) (h : PairHistory) : List PlayerPair :=
  match c.scope, c.size with
  | some scope, .ok size =>
    ((c.seeding (pairsIn h scope.pairScope) size).map realPairs).getD []
  | _, _ => []

/-- **When first-round meetings are remembered.** A call that returns remembers the pairs
of its draw exactly if it does not run on 1 Farvardin with an open match in the table, and
does not put a player against himself. -/
theorem remembered_iff {c : DrawCall} {s s' : DrawState} {pk : ℕ}
    (h : createDrawForGroup c s = .ok (pk, s')) :
    (∃ draw, s'.draws.get pk = some draw ∧ Remembered draw s'.history) ↔
      (c.today = some (1, 1) → c.opensMatch = false) ∧
        ∀ pair ∈ c.drawnPairs s.history, pair.playerA ≠ pair.playerB := by
  obtain ⟨scope, size, entriesFinal, hcreated⟩ := createDrawForGroup_ok h
  have hdrawn : c.drawnPairs s.history = realPairs entriesFinal := by
    simp only [DrawCall.drawnPairs, hcreated.scope_eq, hcreated.size_eq, hcreated.seeding_eq,
      Option.map_some, Option.getD_some]
  have hopen : c.opensMatch = false ↔ realPairs entriesFinal = [] := by
    simp only [DrawCall.opensMatch, hcreated.size_eq, realPairs_eq_nil_iff hcreated.seeding_eq]
  have hremembered : (∃ draw, s'.draws.get pk = some draw ∧ Remembered draw s'.history) ↔
      ∀ pair ∈ realPairs entriesFinal, c.today ≠ some (1, 1) ∧ pair.playerA < pair.playerB := by
    simp only [hcreated.get_pk, Option.some.injEq, exists_eq_left', remembered_iff_pairs,
      firstRoundPairs_newDraw]
    refine forall₂_congr fun pair hpair => and_congr_left fun _ => ?_
    exact (hcreated.mem_pairsIn pair).trans (and_iff_left (Or.inr hpair))
  rw [hremembered, hdrawn, hopen]
  constructor
  · intro hall
    refine ⟨fun hnewYear => ?_, fun pair hpair => (hall pair hpair).2.ne⟩
    exact List.eq_nil_iff_forall_not_mem.mpr fun pair hpair => (hall pair hpair).1 hnewYear
  · rintro ⟨hnewYear, hne⟩ pair hpair
    refine ⟨fun htoday => ?_, lt_of_le_of_ne pair.ordered (hne pair hpair)⟩
    rw [hnewYear htoday] at hpair
    cases hpair

/-- A call for players 5, 6 and 7 in age category 3. -/
def threePlayers (today : ℕ × ℕ) : DrawCall := groupCall (some 3) [5, 6, 7] today

/-- On 2 Farvardin the pair of 5 and 6 is remembered. -/
theorem remembered_threePlayers :
    ∃ s', createDrawForGroup (threePlayers (1, 2)) DrawState.empty = .ok (1, s') ∧
      ∃ draw, s'.draws.get 1 = some draw ∧ Remembered draw s'.history := by
  have hreturns : (createDrawForGroup (threePlayers (1, 2)) DrawState.empty).toOption.map Prod.fst =
      some 1 := by
    decide +kernel
  obtain ⟨s', hs'⟩ := exists_of_toOption hreturns
  refine ⟨s', hs', (remembered_iff hs').mpr ⟨?_, ?_⟩⟩ <;> decide +kernel

/-- On 1 Farvardin it is gone when the call returns. -/
theorem forgotten_on_new_year :
    (createDrawForGroup (threePlayers (1, 1)) DrawState.empty).toOption.map Prod.fst = some 1 ∧
      ¬ ∃ draw, (drawStep (threePlayers (1, 1)) DrawState.empty).draws.get 1 = some draw ∧
        Remembered draw (drawStep (threePlayers (1, 1)) DrawState.empty).history := by
  refine ⟨by decide +kernel, ?_⟩
  rintro ⟨draw, hdraw, hremembered⟩
  have hpairs :
      ((drawStep (threePlayers (1, 1)) DrawState.empty).draws.get 1).map Draw.firstRoundPairs =
      some [⟨5, 6, by decide⟩] := by
    decide +kernel
  have hscope : ((drawStep (threePlayers (1, 1)) DrawState.empty).draws.get 1).map
      (fun draw => pairsIn (drawStep (threePlayers (1, 1)) DrawState.empty).history draw.scope.pairScope) =
      some [] := by
    decide +kernel
  rw [hdraw, Option.map_some, Option.some.injEq] at hpairs hscope
  rw [remembered_iff_pairs, hpairs, hscope] at hremembered
  exact List.not_mem_nil (hremembered _ (List.mem_singleton_self _)).1

/-! ### Redraws -/

/-- The draw that was made last. -/
def DrawState.lastDraw (s : DrawState) : Option Draw := s.draws.get (s.draws.next - 1)

/-- The draw that was made last paired only players whose pair is among the given ones. -/
def ThrowsAwayKnown (known : List PlayerPair) (_ : DrawCall) (s : DrawState) : Prop :=
  ∀ draw, s.lastDraw = some draw → ∀ pair ∈ draw.firstRoundPairs, pair ∈ known

/-- The record is the given one and the pairs of the last draw. -/
def RecordsLastDraw (pscope : Option PairScope) (known : List PlayerPair) (s : DrawState) : Prop :=
  ∃ draw, s.lastDraw = some draw ∧
    ∀ pair, pair ∈ pairsIn s.history pscope ↔ pair ∈ known ∨ pair ∈ draw.firstRoundPairs

section Redraws

variable {c : DrawCall} {s s' : DrawState} {pk : ℕ} {scope : DrawScope} {known : List PlayerPair}

theorem DrawCall.Created.lastDraw {size : ℕ} {entriesFinal : List (Option Entry)}
    (h : c.Created s pk s' scope size entriesFinal) :
    s'.lastDraw = some (c.newDraw scope size entriesFinal) := by
  have hlast : s'.draws.next - 1 = pk := by
    rw [h.draws_eq, Table.next_insert, next_discardPrevious, h.pk_eq, Nat.add_sub_cancel]
  rw [DrawState.lastDraw, hlast]
  exact h.get_pk

/-- The record after a call on a day without cleanup. -/
theorem recordsLastDraw_of_ok (h : createDrawForGroup c s = .ok (pk, s'))
    (hscope : c.scope = some scope) (htoday : c.today ≠ some (1, 1))
    (hknown : ∀ pair, pair ∈ pairsIn s.history scope.pairScope ↔ pair ∈ known) :
    RecordsLastDraw scope.pairScope known s' := by
  obtain ⟨scope', size, entriesFinal, hcreated⟩ := createDrawForGroup_ok h
  obtain rfl : scope = scope' := Option.some.inj (hscope.symm.trans hcreated.scope_eq)
  refine ⟨_, hcreated.lastDraw, fun pair => ?_⟩
  rw [hcreated.mem_pairsIn, firstRoundPairs_newDraw, hknown, and_iff_right htoday]

/-- With nothing new to throw away, the record before a redraw is the given one. -/
theorem RecordsLastDraw.before_redraw (h : RecordsLastDraw scope.pairScope known s)
    (hthrow : ThrowsAwayKnown known c s) (pair : PlayerPair) :
    pair ∈ pairsIn s.history scope.pairScope ↔ pair ∈ known := by
  obtain ⟨draw, hlast, hrecord⟩ := h
  rw [hrecord]
  exact or_iff_left_of_imp (hthrow draw hlast pair)

theorem recordsLastDraw_step (hscope : c.scope = some scope) (htoday : c.today ≠ some (1, 1))
    (hthrow : ThrowsAwayKnown known c s) (h : RecordsLastDraw scope.pairScope known s) :
    RecordsLastDraw scope.pairScope known (drawStep c s) := by
  unfold drawStep
  split
  · next hok => exact recordsLastDraw_of_ok hok hscope htoday (h.before_redraw hthrow)
  · exact h

/-- **Redraws that throw away only known pairs.** Take a call that returns and any further
calls for the same group, on days without cleanup. If each draw that is thrown away paired
only players whose pair had been recorded before the first call, then after every call the
record of the scope is what it was before the first call and the pairs of the last draw,
and every redraw reads the record as it was before the first call. -/
theorem redraws_forget {calls : List DrawCall}
    (hscope : ∀ c' ∈ c :: calls, c'.scope = some scope)
    (htoday : ∀ c' ∈ c :: calls, c'.today ≠ some (1, 1))
    (hfirst : createDrawForGroup c s = .ok (pk, s'))
    (hthrow : Along drawStep (ThrowsAwayKnown (pairsIn s.history scope.pairScope)) s' calls) :
    (∀ t ∈ visited drawStep s' calls,
      RecordsLastDraw scope.pairScope (pairsIn s.history scope.pairScope) t) ∧
    Along drawStep (fun _ t => ∀ pair, pair ∈ pairsIn t.history scope.pairScope ↔
      pair ∈ pairsIn s.history scope.pairScope) s' calls := by
  have hstart : RecordsLastDraw scope.pairScope (pairsIn s.history scope.pairScope) s' :=
    recordsLastDraw_of_ok hfirst (hscope c List.mem_cons_self) (htoday c List.mem_cons_self)
      fun _ => Iff.rfl
  have hrest : ∀ c' ∈ calls, c'.scope = some scope ∧ c'.today ≠ some (1, 1) := by
    intro c' hc'
    exact ⟨hscope c' (List.mem_cons_of_mem _ hc'), htoday c' (List.mem_cons_of_mem _ hc')⟩
  have halong := (along_of_forall hrest).and hthrow
  have hstep : ∀ c' t,
      (c'.scope = some scope ∧ c'.today ≠ some (1, 1)) ∧
        ThrowsAwayKnown (pairsIn s.history scope.pairScope) c' t →
      RecordsLastDraw scope.pairScope (pairsIn s.history scope.pairScope) t →
      RecordsLastDraw scope.pairScope (pairsIn s.history scope.pairScope) (drawStep c' t) :=
    fun c' t h ht => recordsLastDraw_step h.1.1 h.1.2 h.2 ht
  exact ⟨halong.forall_visited hstep hstart,
    halong.imp_invariant hstep (fun c' t h ht => ht.before_redraw h.2) hstart⟩

end Redraws

/-- The scope of the history for the group of the example. -/
def threeScope : PairScope := ⟨"", 3, 1, 2⟩

/-- The pair of 5 and 6 is recorded, and two redraws in the same order repeat it. -/
theorem redraws_forget_repeated :
    ∃ s s', createDrawForGroup (threePlayers (1, 2)) s = .ok (2, s') ∧
      RecordsLastDraw (some threeScope) (pairsIn s.history (some threeScope))
        (drawStep (threePlayers (1, 2)) s') := by
  have hreturns : (createDrawForGroup (threePlayers (1, 2))
      (drawStep (threePlayers (1, 2)) DrawState.empty)).toOption.map Prod.fst = some 2 := by
    decide +kernel
  obtain ⟨s', hs'⟩ := exists_of_toOption hreturns
  refine ⟨drawStep (threePlayers (1, 2)) DrawState.empty, s', hs', ?_⟩
  have hthrow : ThrowsAwayKnown (pairsIn (drawStep (threePlayers (1, 2)) DrawState.empty).history
      (some threeScope)) (threePlayers (1, 2)) s' := by
    have hs : s' = drawStep (threePlayers (1, 2)) (drawStep (threePlayers (1, 2)) DrawState.empty) := by
      rw [drawStep.eq_def _ (drawStep _ _), hs']
    have hall : (s'.lastDraw.map Draw.firstRoundPairs).all (fun pairs => pairs.all
        (· ∈ pairsIn (drawStep (threePlayers (1, 2)) DrawState.empty).history (some threeScope))) = true := by
      rw [hs]
      decide +kernel
    intro draw hdraw pair hpair
    rw [hdraw] at hall
    exact of_decide_eq_true (List.all_eq_true.mp hall pair hpair)
  have hscope : ∀ c' ∈ [threePlayers (1, 2), threePlayers (1, 2)],
      c'.scope = some ⟨1, "", some 3, 1, 2⟩ := by
    decide +kernel
  exact (redraws_forget hscope (by decide +kernel) hs' ⟨hthrow, trivial⟩).1 _
    (run_mem_visited s' [threePlayers (1, 2)])

/-- A redraw for the same group in another order. -/
def reshuffled : DrawCall :=
  { threePlayers (1, 2) with shuffle := fun _ players => players.rotate 1 }

/-- The first draw is thrown away, but its pair of 5 and 6 stays in the history, which was
empty before, beside the pair of 6 and 7 of the second draw. -/
theorem thrown_away_pair_stays :
    (createDrawForGroup (threePlayers (1, 2)) DrawState.empty).toOption.map Prod.fst = some 1 ∧
      (createDrawForGroup reshuffled (drawStep (threePlayers (1, 2)) DrawState.empty)).toOption.map
        Prod.fst = some 2 ∧
      ((run drawStep DrawState.empty [threePlayers (1, 2), reshuffled]).draws.get 1).isNone = true ∧
      ¬ RecordsLastDraw (some threeScope) (pairsIn DrawState.empty.history (some threeScope))
        (run drawStep DrawState.empty [threePlayers (1, 2), reshuffled]) := by
  refine ⟨by decide +kernel, by decide +kernel, by decide +kernel, ?_⟩
  rintro ⟨draw, hdraw, hrecord⟩
  have hpairs : (run drawStep DrawState.empty [threePlayers (1, 2), reshuffled]).lastDraw.map
      Draw.firstRoundPairs = some [⟨6, 7, by decide⟩] := by
    decide +kernel
  rw [hdraw, Option.map_some, Option.some.injEq] at hpairs
  have hstays := (hrecord ⟨5, 6, by decide⟩).mp (by decide +kernel)
  rw [hpairs] at hstays
  revert hstays
  decide +kernel

end Tkdchb
