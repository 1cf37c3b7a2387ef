import Tkdchb.Draws.Rounds

/-!
# What a numbering call does

A call that passes its checks prepares the draws of its weights and numbers their matches
in the order of their tickets. Which matches these are can be read off the state before the
call.

## Main definitions

* `NumberingState.schedule` — the matches a call numbers, in order
* `NumberingState.Numbers` — a call numbers the match, on this mat
* `NumberingState.numbered` — the state after a call

## Main results

* `numberMatchesForCompetition_eq` — the counters and the draws after a call
* `mem_schedule_iff` — the matches of a call
* `boutAt_numbered_of_issued`, `boutAt_numbered_of_not` — each match after a call
-/

namespace Tkdchb

open Ticketing

namespace NumberingState

variable {s : NumberingState} {competitionId : ℕ} {weightIds : List ℕ} {clearPrev : Bool}
  {w2m : ℕ → Option ℕ} {allDraws : List (ℕ × Bracket)} {pk i matNo : ℕ} {b : Bracket}

/-- The draw belongs to the competition and one of the weights. -/
def Selects (competitionId : ℕ) (weightIds : List ℕ) (b : Bracket) : Prop :=
  b.scope.competition = competitionId ∧ b.scope.weightCategory ∈ weightIds

instance : DecidablePred (Selects competitionId weightIds) := fun _ =>
  inferInstanceAs (Decidable (_ ∧ _))

theorem mem_drawsOf_iff :
    (pk, b) ∈ s.drawsOf competitionId weightIds ↔
      s.draws.get pk = some b ∧ Selects competitionId weightIds b := by
  rw [drawsOf, List.mem_insertionSort, Table.mem_select_iff]
  simp [Selects]

theorem nodup_drawsOf (s : NumberingState) (competitionId : ℕ) (weightIds : List ℕ) :
    ((s.drawsOf competitionId weightIds).map Prod.fst).Nodup := by
  rw [drawsOf, ((List.perm_insertionSort _ _).map Prod.fst).nodup_iff]
  exact Table.nodup_select

/-- The mat `_weight_to_mat_map` gives a weight of the competition now. -/
def matOf (s : NumberingState) (competitionId : ℕ) : ℕ → Option ℕ :=
  match s.events competitionId with
  | none => fun _ => none
  | some event => weightToMatMap event.matAssignments

/-- **When a call passes its checks**, and what it goes on with. -/
theorem selection_eq_ok_iff :
    s.selection competitionId weightIds = .ok (w2m, allDraws) ↔
      weightIds ≠ [] ∧ s.matOf competitionId = w2m ∧
        (∀ w ∈ weightIds, ∃ matNo, w2m w = some matNo) ∧
        s.drawsOf competitionId weightIds = allDraws ∧ allDraws ≠ [] := by
  unfold selection matOf
  cases hevent : s.events competitionId with
  | none =>
    simp only [reduceCtorEq, false_iff, not_and]
    -- without an event no category has a mat
    rintro hne rfl hall
    obtain ⟨w, hw⟩ := List.exists_mem_of_ne_nil _ hne
    obtain ⟨matNo, hmat⟩ := hall w hw
    cases hmat
  | some event =>
    have hmissing : (weightIds.dedup.filter fun w =>
          (weightToMatMap event.matAssignments w).isNone) = [] ↔
        ∀ w ∈ weightIds, ∃ matNo, weightToMatMap event.matAssignments w = some matNo := by
      simp [List.filter_eq_nil_iff, Option.ne_none_iff_exists']
    simp only
    split_ifs with hnil hmiss hdraws
    · simp [hnil]
    · rw [Ne, hmissing] at hmiss
      simp only [false_iff, not_and]
      rintro - rfl hall
      exact absurd hall hmiss
    · simp only [false_iff, not_and]
      rintro - - - rfl hne
      exact hne hdraws
    · rw [Ne, not_not, hmissing] at hmiss
      simp only [Except.ok.injEq, Prod.mk.injEq]
      constructor
      · rintro ⟨rfl, rfl⟩
        exact ⟨hnil, rfl, hmiss, rfl, hdraws⟩
      · rintro ⟨-, rfl, -, rfl, -⟩
        exact ⟨rfl, rfl⟩

/-- The draws that are numbered, with all their rounds. -/
def readyDraws (s : NumberingState) (competitionId : ℕ) (weightIds : List ℕ) (clearPrev : Bool) :
    List (ℕ × Bracket) :=
  ((s.prepared competitionId weightIds clearPrev).drawsOf competitionId weightIds).filter fun d =>
    d.2.hasRealMatch

theorem get_prepared :
    (s.prepared competitionId weightIds clearPrev).draws.get pk =
      (s.draws.get pk).map fun b =>
        if Selects competitionId weightIds b then b.prepare clearPrev else b := rfl

theorem mem_readyDraws_iff :
    (pk, b) ∈ s.readyDraws competitionId weightIds clearPrev ↔
      ∃ b₀, s.draws.get pk = some b₀ ∧ Selects competitionId weightIds b₀ ∧
        b = b₀.prepare clearPrev ∧ b.hasRealMatch = true := by
  rw [readyDraws, List.mem_filter, mem_drawsOf_iff, get_prepared]
  simp only [Option.map_eq_some_iff]
  constructor
  · rintro ⟨⟨⟨b₀, hb₀, rfl⟩, hsel⟩, hreal⟩
    by_cases hsel₀ : Selects competitionId weightIds b₀
    · rw [if_pos hsel₀] at hreal ⊢
      exact ⟨b₀, hb₀, hsel₀, rfl, hreal⟩
    · rw [if_neg hsel₀] at hsel
      exact absurd hsel hsel₀
  · rintro ⟨b₀, hb₀, hsel₀, rfl, hreal⟩
    refine ⟨⟨⟨b₀, hb₀, if_pos hsel₀⟩, ?_⟩, hreal⟩
    simpa [Selects] using hsel₀

theorem nodup_readyDraws :
    ((s.readyDraws competitionId weightIds clearPrev).map Prod.fst).Nodup :=
  (List.filter_sublist.map _).nodup (nodup_drawsOf _ _ _)

/-- The matches a call numbers, with their mats, in the order of the numbering. -/
def schedule (s : NumberingState) (competitionId : ℕ) (weightIds : List ℕ) (clearPrev : Bool)
    (w2m : ℕ → Option ℕ) : List (ℕ × ℕ × ℕ) :=
  tickets w2m (matsOf w2m (s.drawsOf competitionId weightIds))
    (s.readyDraws competitionId weightIds clearPrev)

theorem nodup_matsOf : (matsOf w2m allDraws).Nodup :=
  (List.perm_insertionSort _ _).nodup_iff.mpr (List.nodup_dedup _)

theorem nodup_schedule :
    ((s.schedule competitionId weightIds clearPrev w2m).map Prod.snd).Nodup :=
  nodup_tickets nodup_matsOf nodup_readyDraws

/-- The call numbers the match at this position of the draw, on this mat: the draw is one
of its draws and has a real match once its rounds are filled up, and the match is no BYE of
its first round. -/
def Numbers (s : NumberingState) (competitionId : ℕ) (weightIds : List ℕ) (w2m : ℕ → Option ℕ)
    (matNo pk i : ℕ) : Prop :=
  ∃ b, s.draws.get pk = some b ∧ Selects competitionId weightIds b ∧
    w2m b.scope.weightCategory = some matNo ∧ b.ensureRoundsExist.hasRealMatch = true ∧
      b.ensureRoundsExist.Counts i

/-- **The matches of a call.** -/
theorem mem_schedule_iff (clearPrev : Bool) :
    (matNo, pk, i) ∈ s.schedule competitionId weightIds clearPrev w2m ↔
      s.Numbers competitionId weightIds w2m matNo pk i := by
  rw [schedule, mem_tickets_iff]
  constructor
  · rintro ⟨-, _, hready, hw, hcount⟩
    obtain ⟨b, hb, hsel, rfl, hmatch⟩ := mem_readyDraws_iff.mp hready
    exact ⟨b, hb, hsel, by simpa using hw, by rwa [← Bracket.hasRealMatch_prepare clearPrev],
      (Bracket.counts_prepare clearPrev).mp hcount⟩
  · rintro ⟨b, hb, hsel, hw, hmatch, hcount⟩
    refine ⟨?_, b.prepare clearPrev, ?_, by simpa using hw,
      (Bracket.counts_prepare clearPrev).mpr hcount⟩
    · rw [matsOf, List.mem_insertionSort, List.mem_dedup, List.mem_filterMap]
      exact ⟨(pk, b), mem_drawsOf_iff.mpr ⟨hb, hsel⟩, hw⟩
    · exact mem_readyDraws_iff.mpr ⟨b, hb, hsel, rfl, by rwa [Bracket.hasRealMatch_prepare]⟩

/-- The numbers a call gives, in order. -/
def issued (s : NumberingState) (competitionId : ℕ) (weightIds : List ℕ) (clearPrev : Bool)
    (w2m : ℕ → Option ℕ) : List ((ℕ × ℕ) × ℕ × ℕ) :=
  issue (fun _ => 0) (s.schedule competitionId weightIds clearPrev w2m)

/-- The state after a call. -/
def numbered (s : NumberingState) (competitionId : ℕ) (weightIds : List ℕ) (clearPrev : Bool)
    (w2m : ℕ → Option ℕ) : NumberingState :=
  { s with
    draws := (stampAll writeNumber
      (fun _ => 0, (s.prepared competitionId weightIds clearPrev).draws)
      (s.schedule competitionId weightIds clearPrev w2m)).2 }

@[simp] theorem events_numbered :
    (s.numbered competitionId weightIds clearPrev w2m).events = s.events := by
  rw [numbered]

@[simp] theorem minWeight_numbered :
    (s.numbered competitionId weightIds clearPrev w2m).minWeight = s.minWeight := by
  rw [numbered]

/-- **The counters and the state after a call.** -/
theorem numberMatchesForCompetition_eq
    (hsel : s.selection competitionId weightIds = .ok (w2m, allDraws)) :
    numberMatchesForCompetition competitionId weightIds clearPrev s =
      .ok ((matsOf w2m allDraws).map fun matNo =>
          (matNo, advance (fun _ => 0) (s.schedule competitionId weightIds clearPrev w2m) matNo),
        s.numbered competitionId weightIds clearPrev w2m) := by
  have hdraws : s.drawsOf competitionId weightIds = allDraws :=
    (selection_eq_ok_iff.mp hsel).2.2.2.1
  have hready : ∀ d ∈ s.readyDraws competitionId weightIds clearPrev,
      outlineAt (s.prepared competitionId weightIds clearPrev).draws d.1 = some d.2.outline := by
    rintro ⟨pk, b⟩ hd
    obtain ⟨hget, -⟩ := mem_drawsOf_iff.mp (List.mem_filter.mp hd).1
    rw [outlineAt, hget, Option.map_some]
  have hreal : ∀ d ∈ s.readyDraws competitionId weightIds clearPrev, d.2.hasRealMatch = true :=
    fun d hd => (List.mem_filter.mp hd).2
  let st : (ℕ → ℕ) × Table Bracket := (fun _ => 0, (s.prepared competitionId weightIds clearPrev).draws)
  have hphases := numberPhases_eq w2m (matsOf w2m allDraws) st hready hreal
  unfold numberMatchesForCompetition numbered
  simp only [hsel, bind, Except.bind, pure, Except.pure]
  rw [schedule, hdraws, ← stampAll_fst writeNumber st, ← hphases]
  rfl

theorem numberMatchesForCompetition_eq_error {e : NumberingError}
    (hsel : s.selection competitionId weightIds = .error e) :
    numberMatchesForCompetition competitionId weightIds clearPrev s = .error e := by
  unfold numberMatchesForCompetition
  simp only [hsel, bind, Except.bind]

/-! ### Each match -/

/-- A draw after a call has the outline it was prepared with. -/
theorem outlineAt_numbered (pk : ℕ) :
    outlineAt (s.numbered competitionId weightIds clearPrev w2m).draws pk =
      outlineAt (s.prepared competitionId weightIds clearPrev).draws pk := by
  simp only [numbered]
  rw [outlineAt_stampAll]
  rintro ⟨matNo, pk, i⟩ ht
  obtain ⟨-, b, hready, -, hcounts⟩ := mem_tickets_iff.mp ht
  obtain ⟨hget, -⟩ := mem_drawsOf_iff.mp (List.mem_filter.mp hready).1
  exact ⟨b, by rw [outlineAt, hget, Option.map_some], hcounts⟩

/-- A draw after a call belongs to the group it belonged to. -/
theorem scope_numbered
    (h : (s.numbered competitionId weightIds clearPrev w2m).draws.get pk = some b) :
    ∃ b₀, s.draws.get pk = some b₀ ∧ b₀.scope = b.scope := by
  have houtline : outlineAt (s.numbered competitionId weightIds clearPrev w2m).draws pk = _ :=
    outlineAt_numbered pk
  rw [outlineAt, outlineAt, h, get_prepared, Option.map_some, Option.map_map] at houtline
  obtain ⟨b₀, hb₀, heq⟩ := Option.map_eq_some_iff.mp houtline.symm
  refine ⟨b₀, hb₀, ?_⟩
  have hscope := congrArg Bracket.scope heq
  simp only [Function.comp_apply, Bracket.scope_outline] at hscope
  rw [← hscope]
  split_ifs <;> simp

section Bouts

variable {x : ℕ × ℕ} {number : ℕ}

theorem boutAt_numbered_of_issued
    (h : (x, matNo, number) ∈ s.issued competitionId weightIds clearPrev w2m) :
    boutAt (s.numbered competitionId weightIds clearPrev w2m).draws x =
      (boutAt (s.prepared competitionId weightIds clearPrev).draws x).map
        (Bout.stamp matNo number) := by
  have hcell := cell_stampAll_of_mem
    (fun _ => 0, (s.prepared competitionId weightIds clearPrev).draws) boutAt_writeNumber
    nodup_schedule h
  simpa only [numbered] using hcell

theorem boutAt_numbered_of_not (clearPrev : Bool)
    (h : ∀ matNo, ¬ s.Numbers competitionId weightIds w2m matNo x.1 x.2) :
    boutAt (s.numbered competitionId weightIds clearPrev w2m).draws x =
      boutAt (s.prepared competitionId weightIds clearPrev).draws x := by
  have hrest : ∀ matNo, (matNo, x) ∉ s.schedule competitionId weightIds clearPrev w2m :=
    fun matNo hmem => h matNo ((mem_schedule_iff _).mp hmem)
  have hcell := cell_stampAll_of_not_mem
    (fun _ => 0, (s.prepared competitionId weightIds clearPrev).draws) boutAt_writeNumber hrest
  simpa only [numbered] using hcell

theorem numbers_of_issued
    (h : (x, matNo, number) ∈ s.issued competitionId weightIds clearPrev w2m) :
    s.Numbers competitionId weightIds w2m matNo x.1 x.2 :=
  (mem_schedule_iff _).mp (mem_of_mem_issue h)

theorem exists_issued (clearPrev : Bool) (h : s.Numbers competitionId weightIds w2m matNo x.1 x.2) :
    ∃ number, (x, matNo, number) ∈ s.issued competitionId weightIds clearPrev w2m :=
  exists_number_of_mem _ ((mem_schedule_iff _).mpr h)

end Bouts

end NumberingState

end Tkdchb
