import Tkdchb.Rankings.ServiceHistory

/-!
# The medals on the enrollments

`apply_results_and_points` writes the medal of each place on its enrollment, where it differs.
It does not look at the enrollments that held a place before. So a medal, once written, can
change its colour, but is never taken away.

## Main definitions

* `Podium` — the rankings, with the medal column of the enrollments
* `ResultChange`, `changeStep` — a result is saved and then applied
* `held` — the medal of the place an enrollment holds in the current result
* `MedalsFollow` — every enrollment of a category carries the medal it holds
* `medalsForPlayer` — the report

## Main results

* `medal_changeStep` — what one change does to the medal of an enrollment
* `medal_run` — and what any number of changes does
* `medals_follow_iff` — when the medals follow the result
* `medalsForPlayer_eq` — the report counts medals held where they do
-/

namespace Tkdchb

open Transition

/-! ### Places -/

/-- The medal of the place an enrollment holds in a result. -/
def KyorugiResult.medalOf (row : KyorugiResult ℕ) (k : ℕ) : Option Medal :=
  if row.gold = some k then some .gold
  else if row.silver = some k then some .silver
  else if row.bronze1 = some k ∨ row.bronze2 = some k then some .bronze
  else none

/-- The rankings with `Enrollment.medal`, by the number of the enrollment. -/
structure Podium where
  rankings : RankingState
  medal : ℕ → Option Medal

/-- An enrollment as it is in the database. -/
def Podium.load (s : Podium) (pk : ℕ) : Option Medalist :=
  (s.rankings.enrollments.get pk).map fun e => ⟨pk, e, s.medal pk⟩

/-- An optional foreign key is followed; one that leads nowhere cannot be. -/
def Podium.loadPlace (s : Podium) : Option ℕ → Option (Option Medalist)
  | none => some none
  | some pk => (s.load pk).map some

/-- A version of a result with the enrollments in its places. -/
def Podium.loadResult (s : Podium) (row : KyorugiResult ℕ) : Option (KyorugiResult Medalist) := do
  let gold ← s.loadPlace row.gold
  let silver ← s.loadPlace row.silver
  let bronze1 ← s.loadPlace row.bronze1
  let bronze2 ← s.loadPlace row.bronze2
  return { row with gold, silver, bronze1, bronze2 }

/-- `if e.medal != medal: …` for one place. The comparison is with the copy. -/
def writeMedal (medal : ℕ → Option Medal) (entry : Option Medalist × Place) : ℕ → Option Medal :=
  match entry.1 with
  | none => medal
  | some e =>
    if e.medal ≠ some (medalOfPlace entry.2) then
      Function.update medal e.pk (some (medalOfPlace entry.2))
    else medal

/-- `apply_results_and_points` with the medals it saves. -/
def serviceMedals (c : ServiceCall) (s : Podium) : Podium :=
  if c.accepted s.rankings then
    ⟨serviceStep c s.rankings, c.mapping.foldl writeMedal s.medal⟩
  else s

/-- A new version of a result, saved and applied. -/
structure ResultChange where
  pk : ℕ
  version : KyorugiResult ℕ
  catalogue : Catalogue
  roster : Roster

/-- The version that is saved, if its places can be loaded and it passes validation. -/
def ResultChange.saved (c : ResultChange) (s : Podium) : Option SaveCall :=
  ((s.loadResult c.version).map fun result => SaveCall.mk c.pk result c.catalogue).filter
    fun call => call.accepted s.rankings

/-- `KyorugiResult.save`, then `apply_results_and_points`. A version that is not saved is not
applied. -/
def changeStep (c : ResultChange) (s : Podium) : Podium :=
  match c.saved s with
  | none => s
  | some call =>
    serviceMedals ⟨c.pk, call.result, c.catalogue, c.roster⟩
      { s with rankings := saveStep call s.rankings }

/-! ### Validation -/

/-- A loop of checks ends exactly if each of them passes. -/
theorem forM_eq_ok_iff {α ε : Type} {check : α → Except ε Unit} {xs : List α} :
    xs.forM check = .ok () ↔ ∀ x ∈ xs, check x = .ok () := by
  induction xs with
  | nil => exact iff_of_true rfl fun _ hmem => by cases hmem
  | cons x xs ih =>
    rw [List.forall_mem_cons, ← ih, List.forM_eq_forM, List.forM_cons]
    cases hfirst : check x with
    | error e => exact iff_of_false (fun h => by cases h) (fun h => by cases h.1)
    | ok u => exact ⟨fun h => ⟨rfl, h⟩, fun h => h.2⟩

/-- Comparing with the length without repetitions is how the source looks for repetitions. -/
theorem length_eq_length_dedup_iff {α : Type*} [DecidableEq α] {l : List α} :
    l.length = l.dedup.length ↔ l.Nodup := by
  rw [← List.dedup_eq_self]
  constructor
  · intro h
    exact (List.dedup_sublist l).eq_of_length h.symm
  · intro h
    rw [h]

/-- The results that pass `clean`. -/
theorem clean_eq_ok_iff {result : KyorugiResult Medalist} :
    result.clean = .ok () ↔
      (result.places.filterMap fun place => place.2.map Medalist.pk).Nodup ∧
        ∀ place ∈ result.places, ∀ en, place.2 = some en →
          en.enrollment.competition = result.competition ∧
            en.enrollment.weightCategory = some result.weightCategory := by
  rw [← length_eq_length_dedup_iff]
  unfold KyorugiResult.clean
  simp only [bind, Except.bind, throw, throwThe, MonadExceptOf.throw, pure, Except.pure]
  split_ifs with hlength
  · exact iff_of_false (fun h => by cases h) fun h => hlength h.1
  · rw [forM_eq_ok_iff, not_not.mp hlength, eq_self_iff_true, true_and]
    apply forall₂_congr
    rintro ⟨fld, en⟩ _
    cases en with
    | none => exact iff_of_true rfl fun _ h => by cases h
    | some en =>
      dsimp only
      constructor
      · intro hcheck
        split_ifs at hcheck with hcomp hweight
        rintro _ ⟨⟩
        exact ⟨not_not.mp hcomp, not_not.mp hweight⟩
      · intro hcategory
        obtain ⟨hcomp, hweight⟩ := hcategory en rfl
        rw [if_neg (not_not.mpr hcomp), if_neg (not_not.mpr hweight)]

/-- The saves that pass validation. -/
theorem accepted_iff {c : SaveCall} {s : RankingState} :
    c.accepted s = true ↔
      c.result.missing c.catalogue s.enrollments = [] ∧ c.result.clean = .ok () ∧
        ∀ j row, j ≠ c.pk → s.results.get j = some row →
          ¬ (row.competition = c.result.competition ∧
            row.weightCategory = c.result.weightCategory) := by
  have hclean : (fullClean c.catalogue c.pk c.result s).clean.isNone = true ↔
      c.result.clean = .ok () := by
    dsimp only [fullClean]
    cases c.result.clean with
    | ok u => exact iff_of_true rfl rfl
    | error e => exact iff_of_false (by simp) (fun h => by cases h)
  have hunique : ((s.results.erase c.pk).oldest fun other =>
      other.competition == c.result.competition &&
        other.weightCategory == c.result.weightCategory).isSome = false ↔
      ∀ j row, j ≠ c.pk → s.results.get j = some row →
        ¬ (row.competition = c.result.competition ∧
          row.weightCategory = c.result.weightCategory) := by
    rw [Option.isSome_eq_false_iff, Option.isNone_iff_eq_none, Table.oldest_eq_none_iff]
    simp only [Bool.and_eq_false_iff, beq_eq_false_iff_ne, not_and_or, Table.get_erase]
    constructor
    · intro h j row hj hrow
      exact h j row (by rw [if_neg hj]; exact hrow)
    · intro h j row hrow
      split_ifs at hrow with hj
      exact h j row hj hrow
  rw [SaveCall.accepted, Rejection.isEmpty, Bool.and_eq_true, Bool.and_eq_true, hclean, and_assoc,
    List.isEmpty_iff]
  apply and_congr_right
  intro hmissing
  replace hmissing : c.result.missing c.catalogue s.enrollments = [] := hmissing
  -- with no key missing the uniqueness check is made
  rw [← hunique, Bool.not_eq_true']
  dsimp only [fullClean]
  rw [hmissing]
  rfl

theorem hasCompetition_of_missing {result : KyorugiResult Medalist} {catalogue : Catalogue}
    {enrollments : Table Enrollment} (h : result.missing catalogue enrollments = []) :
    catalogue.hasCompetition result.competition = true := by
  by_contra hno
  simp [KyorugiResult.missing, hno] at h

/-! ### What a change writes -/

section Writes

variable {s : Podium} {c : ResultChange} {call : SaveCall} {k : ℕ}

/-- A loaded place. -/
theorem loadPlace_spec {p : Option ℕ} {q : Option Medalist} (h : s.loadPlace p = some q) :
    q.map Medalist.pk = p ∧ ∀ en, q = some en → s.load en.pk = some en := by
  cases p with
  | none =>
    cases h
    exact ⟨rfl, fun en hen => by cases hen⟩
  | some pk =>
    obtain ⟨en, hen, rfl⟩ := Option.map_eq_some_iff.mp h
    obtain ⟨e, he, rfl⟩ := Option.map_eq_some_iff.mp hen
    refine ⟨rfl, ?_⟩
    rintro _ ⟨⟩
    exact hen

/-- A loaded result is its row, with enrollments as they are in the database. -/
theorem loadResult_spec {row : KyorugiResult ℕ} {result : KyorugiResult Medalist}
    (h : s.loadResult row = some result) :
    result.toRow = row ∧ ∀ place ∈ result.places, ∀ en, place.2 = some en →
      s.load en.pk = some en := by
  simp only [Podium.loadResult, bind, Option.bind_eq_some_iff, pure, Option.some.injEq] at h
  obtain ⟨gold, hgold, silver, hsilver, bronze1, hbronze1, bronze2, hbronze2, rfl⟩ := h
  refine ⟨?_, ?_⟩
  · simp only [KyorugiResult.toRow, (loadPlace_spec hgold).1, (loadPlace_spec hsilver).1,
      (loadPlace_spec hbronze1).1, (loadPlace_spec hbronze2).1]
  · intro place hplace en hen
    simp only [KyorugiResult.places, List.mem_cons, List.not_mem_nil, or_false] at hplace
    rcases hplace with rfl | rfl | rfl | rfl
    · exact (loadPlace_spec hgold).2 en hen
    · exact (loadPlace_spec hsilver).2 en hen
    · exact (loadPlace_spec hbronze1).2 en hen
    · exact (loadPlace_spec hbronze2).2 en hen

theorem saved_spec (h : c.saved s = some call) :
    call.pk = c.pk ∧ call.catalogue = c.catalogue ∧ s.loadResult c.version = some call.result ∧
      call.accepted s.rankings = true := by
  obtain ⟨hload, hacc⟩ := Option.filter_eq_some_iff.mp h
  obtain ⟨result, hresult, rfl⟩ := Option.map_eq_some_iff.mp hload
  exact ⟨rfl, rfl, hresult, hacc⟩

/-- The entries of `mapping` are the places of the result. -/
theorem exists_place {call : ServiceCall} {entry : Option Medalist × Place}
    (h : entry ∈ call.mapping) : ∃ fld, (fld, entry.1) ∈ call.result.places := by
  simp only [ServiceCall.mapping, List.mem_cons, List.not_mem_nil, or_false] at h
  rcases h with rfl | rfl | rfl | rfl
  · exact ⟨"gold_enrollment", by simp [KyorugiResult.places]⟩
  · exact ⟨"silver_enrollment", by simp [KyorugiResult.places]⟩
  · exact ⟨"bronze1_enrollment", by simp [KyorugiResult.places]⟩
  · exact ⟨"bronze2_enrollment", by simp [KyorugiResult.places]⟩

/-- The service accepts what has just been saved. -/
theorem service_accepted (h : c.saved s = some call) :
    (ServiceCall.mk c.pk call.result c.catalogue c.roster).accepted
      (saveStep call s.rankings) = true := by
  obtain ⟨hpk, hcatalogue, hload, hacc⟩ := saved_spec h
  have hcomp := hasCompetition_of_missing (accepted_iff.mp hacc).1
  obtain ⟨-, hfresh⟩ := loadResult_spec hload
  -- the places are of loaded enrollments, and the row of the result is the one just put
  rw [saveStep_of_accepted hacc]
  simp only [ServiceCall.accepted, Bool.and_eq_true, Bool.or_eq_true, List.all_eq_true]
  refine ⟨?_, Or.inr ⟨?_, hcatalogue ▸ hcomp⟩⟩
  · intro en hen
    obtain ⟨⟨q, place⟩, hmem, hq⟩ := List.mem_filterMap.mp hen
    obtain rfl : q = some en := (Option.filter_eq_some_iff.mp hq).1
    obtain ⟨fld, hplace⟩ := exists_place hmem
    obtain ⟨e, he, -⟩ := Option.map_eq_some_iff.mp (hfresh _ hplace en rfl)
    rw [he]
    rfl
  · rw [hpk]
    simp [Table.put]

/-- A loop over places with different enrollments, each copy up to date: an enrollment ends with
the medal of its place, if it has one. -/
theorem foldl_writeMedal {entries : List (Option Medalist × Place)} {medal : ℕ → Option Medal}
    (hfresh : ∀ entry ∈ entries, ∀ en, entry.1 = some en → en.medal = medal en.pk)
    (hnodup : (entries.filterMap fun entry => entry.1.map Medalist.pk).Nodup) (k : ℕ) :
    entries.foldl writeMedal medal k =
      ((entries.find? fun entry => entry.1.map Medalist.pk == some k).map fun entry =>
        medalOfPlace entry.2).or (medal k) := by
  -- the copies of the later places stay up to date, as they are of other enrollments
  induction entries generalizing medal with
  | nil => rfl
  | cons entry entries ih =>
    obtain ⟨q, place⟩ := entry
    rw [List.foldl_cons]
    cases q with
    | none =>
      rw [List.find?_cons_of_neg (by simp)]
      exact ih (fun entry hmem => hfresh entry (List.mem_cons_of_mem _ hmem)) hnodup
    | some en =>
      have hcons : (((some en, place) :: entries).filterMap fun entry =>
          entry.1.map Medalist.pk) =
            en.pk :: entries.filterMap fun entry => entry.1.map Medalist.pk := rfl
      rw [hcons, List.nodup_cons] at hnodup
      have hothers : ∀ entry ∈ entries, ∀ en', entry.1 = some en' → en'.pk ≠ en.pk := by
        intro entry hmem en' hen' heq
        exact hnodup.1 (List.mem_filterMap.mpr ⟨entry, hmem, by rw [hen', ← heq]; rfl⟩)
      -- writing the medal of this place, or finding it there, is the same
      have hwrite : writeMedal medal (some en, place) =
          Function.update medal en.pk (some (medalOfPlace place)) := by
        have hen := hfresh _ List.mem_cons_self en rfl
        unfold writeMedal
        dsimp only
        split_ifs with hmedal
        · rfl
        · rw [← not_not.mp hmedal, hen, Function.update_eq_self]
      rw [hwrite, ih _ hnodup.2]
      · by_cases hk : en.pk = k
        · subst hk
          have hnone : (entries.find? fun entry => entry.1.map Medalist.pk == some en.pk) =
              none := by
            rw [List.find?_eq_none]
            intro entry hmem heq
            obtain ⟨en', hen', hpk⟩ := Option.map_eq_some_iff.mp (beq_iff_eq.mp heq)
            exact hothers entry hmem en' hen' hpk
          rw [hnone, List.find?_cons_of_pos (by simp), Function.update_self]
          rfl
        · rw [List.find?_cons_of_neg (by simpa using hk), Function.update_of_ne (Ne.symm hk)]
      · intro entry hmem en' hen'
        rw [Function.update_of_ne (hothers entry hmem en' hen')]
        exact hfresh entry (List.mem_cons_of_mem _ hmem) en' hen'

/-- The loop over the places looks for an enrollment in the order of the places. -/
theorem find_entry {q : Option Medalist} {place : Place}
    {entries : List (Option Medalist × Place)} :
    ((((q, place) :: entries).find? fun entry => entry.1.map Medalist.pk == some k).map fun entry =>
      medalOfPlace entry.2) =
        if q.map Medalist.pk = some k then some (medalOfPlace place)
        else (entries.find? fun entry => entry.1.map Medalist.pk == some k).map fun entry =>
          medalOfPlace entry.2 := by
  split_ifs with hq
  · rw [List.find?_cons_of_pos (by simp [hq])]
    rfl
  · rw [List.find?_cons_of_neg (by simp [hq])]

/-- The first entry with an enrollment is its place in the result. -/
theorem find_mapping (call : ServiceCall) (k : ℕ) :
    ((call.mapping.find? fun entry => entry.1.map Medalist.pk == some k).map fun entry =>
      medalOfPlace entry.2) = call.result.toRow.medalOf k := by
  rw [ServiceCall.mapping, find_entry, find_entry, find_entry, find_entry]
  unfold KyorugiResult.medalOf KyorugiResult.toRow
  by_cases hbronze1 : call.result.bronze1.map Medalist.pk = some k
  · simp [hbronze1, medalOfPlace]
  · simp [hbronze1, medalOfPlace]

/-- **What one change does to a medal**: an enrollment with a place in the new version carries
its medal; the others keep what they carry. -/
theorem medal_changeStep (c : ResultChange) (s : Podium) (k : ℕ) :
    (changeStep c s).medal k =
      if (c.saved s).isSome then (c.version.medalOf k).or (s.medal k) else s.medal k := by
  unfold changeStep
  cases hsaved : c.saved s with
  | none => rfl
  | some call =>
    obtain ⟨-, -, hload, hacc⟩ := saved_spec hsaved
    obtain ⟨hrow, hfresh⟩ := loadResult_spec hload
    obtain ⟨hnodup, -⟩ := clean_eq_ok_iff.mp (accepted_iff.mp hacc).2.1
    dsimp only [serviceMedals]
    rw [if_pos (service_accepted hsaved), Option.isSome_some, if_pos rfl, ← hrow,
      ← find_mapping ⟨c.pk, call.result, c.catalogue, c.roster⟩ k]
    apply foldl_writeMedal
    · intro entry hmem en hen
      obtain ⟨fld, hplace⟩ := exists_place hmem
      obtain ⟨e, -, hen'⟩ := Option.map_eq_some_iff.mp (hfresh _ hplace en hen)
      rw [← hen']
    · exact hnodup

end Writes

/-! ### Any number of changes -/

/-- The versions that were saved and applied. -/
def appliedVersions (s : Podium) : List ResultChange → List (KyorugiResult ℕ)
  | [] => []
  | c :: changes =>
    (if (c.saved s).isSome then [c.version] else []) ++ appliedVersions (changeStep c s) changes

/-- The result of a category. -/
def Podium.currentResult (s : Podium) (competition weightCategory : ℕ) :
    Option (ℕ × KyorugiResult ℕ) :=
  s.rankings.results.oldest fun row =>
    row.competition == competition && row.weightCategory == weightCategory

/-- The enrollment is one of the category. -/
def InCategory (competition weightCategory : ℕ) (e : Enrollment) : Prop :=
  e.competition = competition ∧ e.weightCategory = some weightCategory

/-- The medal of the place an enrollment holds in the current result of its category. -/
def Podium.held (s : Podium) (k : ℕ) (e : Enrollment) : Option Medal :=
  e.weightCategory.bind fun weightCategory =>
    (s.currentResult e.competition weightCategory).bind fun result => result.2.medalOf k

/-- Every enrollment of the category carries the medal it holds, or none. -/
def MedalsFollow (competition weightCategory : ℕ) (s : Podium) : Prop :=
  ∀ k e, s.rankings.enrollments.get k = some e → InCategory competition weightCategory e →
    s.medal k = s.held k e

/-- Who has a place in the result of the category carries its medal: the result has been
applied. -/
def PlacesCarry (competition weightCategory : ℕ) (s : Podium) : Prop :=
  ∀ j row, s.rankings.results.get j = some row →
    row.competition = competition ∧ row.weightCategory = weightCategory →
    ∀ k e, s.rankings.enrollments.get k = some e → InCategory competition weightCategory e →
      ∀ m, row.medalOf k = some m → s.medal k = some m

/-- The medals of a player in the report: the enrollments that carry one. -/
def medalsForPlayer (s : Podium) (player : ℤ) (m : Medal) : ℕ :=
  ((List.range s.rankings.enrollments.next).filter fun k =>
    (s.rankings.enrollments.get k).any (·.player == player) && s.medal k == some m).length

section Runs

variable {s : Podium} {c : ResultChange} {changes : List ResultChange}
  {competition weightCategory k : ℕ} {e : Enrollment}

/-- The service writes no enrollment but its medal, and no result. -/
theorem tables_serviceStep (c : ServiceCall) (s : RankingState) :
    (serviceStep c s).enrollments = s.enrollments ∧ (serviceStep c s).results = s.results := by
  obtain ⟨given, hgiven⟩ := serviceStep_eq c s
  rw [hgiven]
  unfold applyStep
  split
  · exact ⟨rfl, rfl⟩
  · exact ⟨rfl, rfl⟩

/-- The tables after a change. -/
theorem tables_changeStep (c : ResultChange) (s : Podium) :
    (changeStep c s).rankings.enrollments = s.rankings.enrollments ∧
      (changeStep c s).rankings.results =
        if (c.saved s).isSome then s.rankings.results.put c.pk c.version
        else s.rankings.results := by
  unfold changeStep
  cases hsaved : c.saved s with
  | none => exact ⟨rfl, rfl⟩
  | some call =>
    obtain ⟨hpk, -, hload, hacc⟩ := saved_spec hsaved
    dsimp only [serviceMedals]
    rw [if_pos (service_accepted hsaved)]
    obtain ⟨henrollments, hresults⟩ := tables_serviceStep
      ⟨c.pk, call.result, c.catalogue, c.roster⟩ (saveStep call s.rankings)
    rw [henrollments, hresults, saveStep_of_accepted hacc, hpk, (loadResult_spec hload).1]
    exact ⟨rfl, rfl⟩

theorem enrollments_run (s : Podium) (changes : List ResultChange) :
    (run changeStep s changes).rankings.enrollments = s.rankings.enrollments := by
  induction changes generalizing s with
  | nil => rfl
  | cons c changes ih => rw [run_cons, ih, (tables_changeStep c s).1]

/-- **A medal is never taken away**: after any changes, an enrollment carries one exactly if it
did before or had a place in a version that was applied. -/
theorem medal_run (s : Podium) (changes : List ResultChange) (k : ℕ) :
    (run changeStep s changes).medal k ≠ none ↔
      s.medal k ≠ none ∨ ∃ row ∈ appliedVersions s changes, row.medalOf k ≠ none := by
  induction changes generalizing s with
  | nil => simp [appliedVersions]
  | cons c changes ih =>
    have hstep : (changeStep c s).medal k ≠ none ↔ s.medal k ≠ none ∨
        ∃ row ∈ if (c.saved s).isSome then [c.version] else [], row.medalOf k ≠ none := by
      rw [medal_changeStep]
      by_cases hsaved : (c.saved s).isSome = true
      · cases hplace : c.version.medalOf k with
        | none => simp [hsaved, hplace]
        | some m => simp [hsaved, hplace]
      · simp [hsaved]
    rw [run_cons, ih, hstep, appliedVersions]
    simp only [List.mem_append, or_and_right, exists_or, or_assoc]

/-- The enrollments in the places of a version that is applied are of its category. -/
theorem inCategory_of_saved (hsaved : (c.saved s).isSome = true)
    (hget : s.rankings.enrollments.get k = some e) (hplace : c.version.medalOf k ≠ none) :
    InCategory c.version.competition c.version.weightCategory e := by
  obtain ⟨call, hcall⟩ := Option.isSome_iff_exists.mp hsaved
  obtain ⟨-, -, hload, hacc⟩ := saved_spec hcall
  obtain ⟨hrow, hfresh⟩ := loadResult_spec hload
  obtain ⟨-, hclean⟩ := clean_eq_ok_iff.mp (accepted_iff.mp hacc).2.1
  -- without such a place the version would have no medal for the enrollment
  have hentry : ∃ fld en, (fld, some en) ∈ call.result.places ∧ en.pk = k := by
    by_contra hno
    apply hplace
    have hnot : ∀ fld q, (fld, q) ∈ call.result.places → q.map Medalist.pk ≠ some k := by
      intro fld q hmem hq
      obtain ⟨en, rfl, hpk⟩ := Option.map_eq_some_iff.mp hq
      exact hno ⟨fld, en, hmem, hpk⟩
    rw [← hrow]
    unfold KyorugiResult.medalOf KyorugiResult.toRow
    rw [if_neg (hnot "gold_enrollment" _ (by simp [KyorugiResult.places])),
      if_neg (hnot "silver_enrollment" _ (by simp [KyorugiResult.places])), if_neg]
    rintro (hbronze1 | hbronze2)
    · exact hnot "bronze1_enrollment" _ (by simp [KyorugiResult.places]) hbronze1
    · exact hnot "bronze2_enrollment" _ (by simp [KyorugiResult.places]) hbronze2
  obtain ⟨fld, en, hmem, hpk⟩ := hentry
  obtain ⟨e', he', hen⟩ := Option.map_eq_some_iff.mp (hfresh _ hmem en rfl)
  rw [hpk, hget] at he'
  cases he'
  rw [← hrow]
  obtain ⟨hcomp, hweight⟩ := hclean _ hmem en rfl
  rw [← hen] at hcomp hweight
  exact ⟨hcomp, hweight⟩

/-- A change keeps the results of a category applied. -/
theorem placesCarry_changeStep (c : ResultChange) (s : Podium)
    (h : PlacesCarry competition weightCategory s) :
    PlacesCarry competition weightCategory (changeStep c s) := by
  obtain ⟨henrollments, hresults⟩ := tables_changeStep c s
  intro j row hrow hcategory k e hget he m hplace
  rw [henrollments] at hget
  rw [hresults] at hrow
  rw [medal_changeStep]
  by_cases hsaved : (c.saved s).isSome = true
  · rw [if_pos hsaved] at hrow ⊢
    have hput : (s.rankings.results.put c.pk c.version).get j =
        if j = c.pk then some c.version else s.rankings.results.get j := rfl
    rw [hput] at hrow
    split_ifs at hrow with hj
    · cases hrow
      rw [hplace, Option.some_or]
    · -- another result of the category: the version is of another one
      have hother : c.version.medalOf k = none := by
        by_contra hmedal
        obtain ⟨hcomp, hweight⟩ := inCategory_of_saved hsaved hget hmedal
        obtain ⟨call, hcall⟩ := Option.isSome_iff_exists.mp hsaved
        obtain ⟨hpk, -, hload, hacc⟩ := saved_spec hcall
        have hunique := (accepted_iff.mp hacc).2.2 j row (by rwa [hpk]) hrow
        have hversion := (loadResult_spec hload).1
        apply hunique
        rw [hcategory.1, hcategory.2]
        refine ⟨?_, ?_⟩
        · rw [← he.1, hcomp, ← hversion]
          rfl
        · have hsame := he.2.symm.trans hweight
          rw [Option.some.inj hsame, ← hversion]
          rfl
      rw [hother, Option.none_or]
      exact h j row hrow hcategory k e hget he m hplace
  · rw [if_neg hsaved] at hrow ⊢
    exact h j row hrow hcategory k e hget he m hplace

/-- Who holds a place in an applied result carries its medal. -/
theorem PlacesCarry.medal_of_held (h : PlacesCarry competition weightCategory s)
    (hget : s.rankings.enrollments.get k = some e)
    (he : InCategory competition weightCategory e) {m : Medal} (hheld : s.held k e = some m) :
    s.medal k = some m := by
  unfold Podium.held at hheld
  rw [he.2, Option.bind_some, he.1] at hheld
  obtain ⟨⟨j, row⟩, hcurrent, hplace⟩ := Option.bind_eq_some_iff.mp hheld
  obtain ⟨hrow, hcategory⟩ := Table.oldest_spec hcurrent
  simp only [Bool.and_eq_true, beq_iff_eq] at hcategory
  exact h j row hrow hcategory k e hget he m hplace

end Runs

/-- **When the medals follow the result**: after any changes, each applied, the enrollments of a
category carry exactly the medals they hold if and only if every one of them that carried a medal
at first, or had a place in a version that was applied, holds a place in the current result. -/
theorem medals_follow_iff (competition weightCategory : ℕ) (s : Podium)
    (hcarry : PlacesCarry competition weightCategory s) (changes : List ResultChange) :
    MedalsFollow competition weightCategory (run changeStep s changes) ↔
      ∀ k e, s.rankings.enrollments.get k = some e → InCategory competition weightCategory e →
        (s.medal k ≠ none ∨ ∃ row ∈ appliedVersions s changes, row.medalOf k ≠ none) →
          (run changeStep s changes).held k e ≠ none := by
  have hend : PlacesCarry competition weightCategory (run changeStep s changes) :=
    run_invariant placesCarry_changeStep hcarry changes
  constructor
  · intro hfollow k e hget he hcarried
    rw [← hfollow k e (by rwa [enrollments_run]) he]
    exact (medal_run s changes k).mpr hcarried
  · intro hplaced k e hget he
    have hget' := hget
    rw [enrollments_run] at hget'
    cases hheld : (run changeStep s changes).held k e with
    | none =>
      by_contra hmedal
      exact hplaced k e hget' he ((medal_run s changes k).mp hmedal) hheld
    | some m => exact hend.medal_of_held hget he hheld

/-- The medals a player holds in current results. -/
def heldByPlayer (s : Podium) (player : ℤ) (m : Medal) : ℕ :=
  ((List.range s.rankings.enrollments.next).filter fun k =>
    (s.rankings.enrollments.get k).any fun e => e.player == player && s.held k e == some m).length

/-- Where the medals of a player follow the results, the report counts the medals held. -/
theorem medalsForPlayer_eq {s : Podium} {player : ℤ}
    (hfollow : ∀ k e, s.rankings.enrollments.get k = some e → e.player = player →
      ∃ competition weightCategory, InCategory competition weightCategory e ∧
        MedalsFollow competition weightCategory s) (m : Medal) :
    medalsForPlayer s player m = heldByPlayer s player m := by
  unfold medalsForPlayer heldByPlayer
  congr 1
  apply List.filter_congr
  intro k _
  cases hget : s.rankings.enrollments.get k with
  | none => rfl
  | some e =>
    by_cases hplayer : e.player = player
    · obtain ⟨competition, weightCategory, he, hmedals⟩ := hfollow k e hget hplayer
      rw [hmedals k e hget he]
      simp
    · have hother : (e.player == player) = false := by simpa using hplayer
      simp [hother]

/-- Two enrollments of one category, without results. -/
def twoEnrolled : Podium where
  rankings := { unscoredRankings with
    enrollments := (Table.empty.insert coachedMedalist.enrollment).insert
      { coachedMedalist.enrollment with player := 6 } }
  medal _ := none

/-- Result 1 gets a new version. -/
def resultChange (version : KyorugiResult ℕ) : ResultChange :=
  ⟨1, version, ⟨fun _ => true, fun _ => true, fun _ => true⟩, default⟩

def emptyResult : KyorugiResult ℕ :=
  { (default : KyorugiResult ℕ) with competition := 1, weightCategory := 2 }

theorem placesCarry_twoEnrolled : PlacesCarry 1 2 twoEnrolled := by
  intro j row hrow
  cases hrow

/-- A silver medal is added beside the gold one. -/
def silverAdded : List ResultChange :=
  [resultChange { emptyResult with gold := some 1 },
    resultChange { emptyResult with gold := some 1, silver := some 2 }]

/-- The gold medal is given to another. -/
def goldPassedOn : List ResultChange :=
  [resultChange { emptyResult with gold := some 1 },
    resultChange { emptyResult with gold := some 2 }]

theorem medals_follow_iff_silverAdded :
    MedalsFollow 1 2 (run changeStep twoEnrolled silverAdded) := by
  refine (medals_follow_iff 1 2 twoEnrolled placesCarry_twoEnrolled silverAdded).mpr ?_
  intro k e hget _ _
  have hlt : k < 3 := Table.lt_next_of_get hget
  rcases (by omega : k = 0 ∨ k = 1 ∨ k = 2) with rfl | rfl | rfl
  · cases hget
  · cases hget
    decide +kernel
  · cases hget
    decide +kernel

/-- **The first enrollment keeps its gold medal**, and the report counts it. -/
theorem medal_kept :
    PlacesCarry 1 2 twoEnrolled ∧
      ¬ MedalsFollow 1 2 (run changeStep twoEnrolled goldPassedOn) ∧
      medalsForPlayer (run changeStep twoEnrolled goldPassedOn) 5 .gold = 1 ∧
      heldByPlayer (run changeStep twoEnrolled goldPassedOn) 5 .gold = 0 := by
  refine ⟨placesCarry_twoEnrolled, ?_, by decide +kernel, by decide +kernel⟩
  intro hfollow
  have hsame := hfollow 1 coachedMedalist.enrollment (by rw [enrollments_run]; rfl) ⟨rfl, rfl⟩
  revert hsame
  decide +kernel

end Tkdchb
