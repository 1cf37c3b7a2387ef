import Tkdchb.Draws.FullBracket

/-!
# A bracket of n players has n - 1 numbered bouts

Where no match of the first round has two BYEs, each empty slot of the table is one BYE
match, so of `n` players on `2 ^ k` slots `n - 2 ^ (k - 1)` matches of the first round are
played. The later rounds have `2 ^ (k - 1) - 1` matches, and a numbering numbers all of
these.

## Main definitions

* `Draw.NoDoubleBye` — each match of the first round has a player
* `Bracket.numberedBouts` — how many matches of a draw have a number

## Main results

* `length_seated` — players are counted by the matches that are played
* `numberedBouts_eq` — a call numbers one match less than there are players
-/

namespace Tkdchb

open Transition NumberingState

/-- No match of the first round has two BYEs. -/
def Draw.NoDoubleBye (draw : Draw) : Prop :=
  ∀ m ∈ draw.matchRows, m.playerA ≠ none ∨ m.playerB ≠ none

/-- How many matches of a draw have a number. -/
def Bracket.numberedBouts (b : Bracket) : ℕ := b.bouts.countP fun m => m.matchNumber.isSome

section Players

variable {draw : Draw} {rounds : ℕ}

/-- A match that is played seats two players, a BYE one. -/
theorem length_players {ms : List Match}
    (hbye : ∀ m ∈ ms, m.isBye = true ↔ m.playerA = none ∨ m.playerB = none)
    (hdouble : ∀ m ∈ ms, m.playerA ≠ none ∨ m.playerB ≠ none) :
    (ms.flatMap fun m => [m.playerA, m.playerB]).reduceOption.length =
      ms.length + ms.countP fun m => !m.isBye := by
  induction ms with
  | nil => rfl
  | cons m ms ih =>
    rw [List.forall_mem_cons] at hbye hdouble
    have hone : [m.playerA, m.playerB].reduceOption.length = 1 + if !m.isBye then 1 else 0 := by
      cases ha : m.playerA with
      | none =>
        cases hb : m.playerB with
        | none => exact absurd (hdouble.1.resolve_left fun h => h ha) fun h => h hb
        | some p => simp [List.reduceOption, hbye.1.mpr (.inl ha)]
      | some p =>
        cases hb : m.playerB with
        | none => simp [List.reduceOption, hbye.1.mpr (.inr hb)]
        | some q =>
          have hplayed : m.isBye = false := by
            rw [← Bool.not_eq_true, hbye.1, ha, hb]
            simp
          simp [List.reduceOption, hplayed]
    rw [List.flatMap_cons, List.reduceOption_append, List.length_append, hone,
      ih hbye.2 hdouble.2, List.length_cons, List.countP_cons]
    omega

/-- All matches of a created draw are in its first round. -/
theorem filter_matchRows (h : draw.Made rounds) :
    draw.matchRows.filter (fun m => m.roundNo = 1) = draw.matchRows := by
  rw [List.filter_eq_self]
  exact fun m hm => decide_eq_true (h.round m hm)

/-- **Players are counted by the matches that are played.** -/
theorem length_seated (h : draw.Made rounds) (hdouble : draw.NoDoubleBye) :
    draw.seated.length = 2 ^ (rounds - 1) + draw.matchRows.countP fun m => !m.isBye := by
  rw [Draw.seated, filter_matchRows h, length_players h.isBracket.isBye_iff hdouble,
    h.isBracket.length_matchRows, h.size_eq]
  congr 1
  exact Nat.pow_div h.rounds_pos Nat.two_pos

/-- Distinct players are all real. -/
theorem realPlayersCount_eq (h : draw.Made rounds) (hnodup : draw.seated.Nodup)
    (hids : 0 ∉ draw.seated) : draw.bracket.realPlayersCount = draw.seated.length := by
  have hplayers : (draw.bracket.bouts.flatMap fun m => m.playerA.toList ++ m.playerB.toList) =
      draw.seated := by
    rw [Draw.seated, filter_matchRows h, Draw.bracket, List.flatMap_map]
    induction draw.matchRows with
    | nil => rfl
    | cons m ms ih =>
      rw [List.flatMap_cons, List.flatMap_cons, List.reduceOption_append, ih]
      congr 1
      cases ha : m.playerA <;> cases hb : m.playerB <;> simp [Match.bout, ha, hb, List.reduceOption]
  have hreal : draw.seated.filter (fun p => p ≠ 0) = draw.seated := by
    rw [List.filter_eq_self]
    intro p hp
    exact decide_eq_true fun hzero => hids (hzero ▸ hp)
  rw [Bracket.realPlayersCount, hplayers, hreal, hnodup.dedup]

end Players

/-! ### A numbering call -/

section Called

variable {s s' : NumberingState} {competitionId : ℕ} {weightIds : List ℕ} {clearPrev : Bool}
  {pk : ℕ} {b b' : Bracket}

/-- A call numbers all matches but the BYEs of the first round, if the draw has two players. -/
theorem numberedBouts_numbered {w2m : ℕ → Option ℕ} {matNo : ℕ} (hb : s.draws.get pk = some b)
    (hsel : Selects competitionId weightIds b) (hmat : w2m b.scope.weightCategory = some matNo)
    (hreal : b.ensureRoundsExist.hasRealMatch = true)
    (hold : clearPrev = true ∨ ∀ m ∈ b.bouts, m.matchNumber = none)
    (hb' : (s.numbered competitionId weightIds clearPrev w2m).draws.get pk = some b') :
    b'.numberedBouts = b.ensureRoundsExist.numberedCount := by
  have houtline : b'.outline = b.ensureRoundsExist.outline := outline_of_selects hb hsel hb'
  rw [← Bracket.numberedCount_congr houtline, Bracket.numberedBouts, Bracket.numberedCount]
  apply List.countP_congr
  intro m hm
  obtain ⟨i, hi⟩ := List.getElem?_of_mem hm
  have hbout : boutAt (s.numbered competitionId weightIds clearPrev w2m).draws (pk, i) = some m := by
    rw [boutAt_of_get hb', hi]
  have hcounted : b.Counted i ↔ b'.Counts i := by
    rw [Bracket.counted_iff, and_iff_right hreal, Bracket.Counts, Bracket.Counts, houtline]
  rw [isSome_matchNumber_numbered_iff hb hsel hmat hold hbout, hcounted, Bracket.counts_iff, hi]
  simp only [Option.some.injEq, exists_eq_left', Bool.not_eq_true', Bool.and_eq_false_iff,
    decide_eq_false_iff_not]
  exact imp_iff_or_not

/-- **A bracket of n players has n - 1 numbered bouts.** Take any call of
`create_draw_for_group` whose draw has at least two players, all distinct, and no match with
two BYEs. In any state that holds the draw as it was created, a numbering of weights among
which is that of the draw gives a number to one match less than there are players. -/
theorem numberedBouts_eq {c : DrawCall} {d d' : DrawState} {key : ℕ} {draw : Draw}
    {counters : List (ℕ × ℕ)} (hcreate : createDrawForGroup c d = .ok (key, d'))
    (hdraw : d'.draws.get key = some draw) (hnodup : draw.seated.Nodup) (hids : 0 ∉ draw.seated)
    (hplayers : 2 ≤ draw.seated.length) (hdouble : draw.NoDoubleBye)
    (hb : s.draws.get pk = some draw.bracket)
    (hcomp : draw.scope.competition = competitionId)
    (hweight : draw.scope.weightCategory ∈ weightIds)
    (hcall : numberMatchesForCompetition competitionId weightIds clearPrev s = .ok (counters, s')) :
    ∃ b', s'.draws.get pk = some b' ∧ b'.numberedBouts = draw.seated.length - 1 := by
  obtain ⟨scope, size, l, hcreated⟩ := createDrawForGroup_ok hcreate
  obtain rfl := Option.some.inj (hcreated.get_pk.symm.trans hdraw)
  obtain ⟨rounds, hmade⟩ := hcreated.exists_made
  obtain ⟨⟨⟨w2m, allDraws⟩, hselection⟩, hresult⟩ := numberMatchesForCompetition_ok_iff.mp hcall
  obtain ⟨-, rfl⟩ := Prod.mk.inj hresult
  have hsel : Selects competitionId weightIds (c.newDraw scope size l).bracket := ⟨hcomp, hweight⟩
  obtain ⟨-, hmap, hmats, -⟩ := selection_eq_ok_iff.mp hselection
  obtain ⟨matNo, hmat⟩ := hmats _ hweight
  -- the call passes over a draw of fewer than two players
  have hreal : (c.newDraw scope size l).bracket.ensureRoundsExist.hasRealMatch = true := by
    rw [hmade.toDrawn.hasRealMatch_iff, realPlayersCount_eq hmade hnodup hids]
    exact hplayers
  have hfresh : ∀ m ∈ (c.newDraw scope size l).bracket.bouts, m.matchNumber = none := by
    intro m' hm'
    obtain ⟨m, -, rfl⟩ := List.mem_map.mp hm'
    rfl
  have hfollows : Follows s (s.numbered competitionId weightIds clearPrev (s.matOf competitionId)) :=
    follows_numbered _
  obtain ⟨b', hb', -⟩ := hfollows.exists_grown_of_get hb
  refine ⟨b', hb', ?_⟩
  -- the matches of the later rounds, and those of the first round that have two players
  rw [numberedBouts_numbered hb hsel (by rw [hmap]; exact hmat) hreal (.inr hfresh) hb',
    hmade.numberedCount_eq, length_seated hmade hdouble]
  have hpos : 0 < 2 ^ (rounds - 1) := Nat.two_pow_pos _
  omega

end Called

/-- The draw of three players, one of whom has a BYE: two matches get a number. -/
theorem numberedBouts_eq_three :
    ∃ d' draw b', createDrawForGroup (groupCall (some 3) [5, 6, 7] (1, 2)) .empty = .ok (1, d') ∧
      d'.draws.get 1 = some draw ∧ draw.seated.length = 3 ∧
      (numberedGroup [5, 6, 7]).draws.get 1 = some b' ∧
      b'.numberedBouts = draw.seated.length - 1 := by
  obtain ⟨d', draw, hcreate, hdraw, hb, hcomp, hweight⟩ := exists_drawnGroup
    (by decide +kernel : (createDrawForGroup (groupCall (some 3) [5, 6, 7] (1, 2))
      .empty).toOption.map Prod.fst = some 1)
  have hfacts : (createDrawForGroup (groupCall (some 3) [5, 6, 7] (1, 2)) .empty).toOption.map
      (fun r => (r.2.draws.get 1).map fun draw => (draw.seated,
        draw.matchRows.all fun m => m.playerA.isSome || m.playerB.isSome)) =
      some (some ([5, 6, 7], true)) := by
    decide +kernel
  rw [hcreate] at hfacts
  simp only [Except.toOption, Option.map_some, hdraw, Option.some.injEq, Prod.mk.injEq,
    List.all_eq_true, Bool.or_eq_true, Option.isSome_iff_ne_none] at hfacts
  obtain ⟨hseated, hdouble⟩ := hfacts
  obtain ⟨counters, hcall⟩ := exists_counters 1 [2] true (drawnGroup [5, 6, 7]) (by decide +kernel)
  obtain ⟨b', hb', hcount⟩ := numberedBouts_eq hcreate hdraw (by rw [hseated]; decide)
    (by rw [hseated]; decide) (by rw [hseated]; decide) hdouble hb hcomp (by rw [hweight]; decide)
    hcall
  exact ⟨d', draw, b', hcreate, hdraw, by rw [hseated]; rfl, hb', hcount⟩

end Tkdchb
