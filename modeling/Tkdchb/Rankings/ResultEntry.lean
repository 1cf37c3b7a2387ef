import Tkdchb.Rankings.EnrollmentMedals

/-!
# Entering a result

`kyorugi_results_view` reads a form, gets or creates the result of the category, saves it with
the places from the form and applies it, all in one transaction. The last step is given the
number of the result and not the result, so it always fails, and nothing is ever recorded.

## Main definitions

* `EntryTables`, `ResultEntryPost.clean` — the form
* `getOrCreateResult`, `ServiceArgument`, `applyTo` — the steps
* `recordResult`, `kyorugiResultsView` — the request
* `Recorded` — what a request is to leave behind

## Main results

* `recordResult_raises` — the request raises, whatever is in the tables
* `recordResult_attributeError` — a valid one at the last step
* `results_view_never_records` — nothing is recorded, and nothing is changed
-/

namespace Tkdchb

open Calendar Ledger Transition

/-! ### The form -/

/-- What the form looks up. -/
structure EntryTables where
  kyorugi : ℕ → Option KyorugiCompetition
  /-- the weight categories of a competition's mats -/
  matWeights : ℕ → List ℕ
  /-- `WeightCategory.gender` -/
  weightGender : ℕ → Option String
  catalogue : Catalogue
  today : Date
  roster : Roster

/-- The POST data of `KyorugiResultEntryForm`. The notes go into a column nothing reads. -/
structure ResultEntryPost where
  gender : String
  onlyUpcoming : Bool
  competition : Option ℕ
  weightCategory : Option ℕ
  gold : Option ℕ
  silver : Option ℕ
  bronze1 : Option ℕ
  bronze2 : Option ℕ
  deriving Inhabited

/-- The four medallists of a form. -/
def ResultEntryPost.picks (post : ResultEntryPost) : List (Option ℕ) :=
  [post.gold, post.silver, post.bronze1, post.bronze2]

/-- `qs.filter(id=…).first()` in the list of competitions the form offers. -/
def ResultEntryPost.comp (tables : EntryTables) (post : ResultEntryPost) :
    Option (ℕ × KyorugiCompetition) :=
  (post.competition.bind fun id => (tables.kyorugi id).map (Prod.mk id)).filter fun (_, comp) =>
    (post.gender = "" || comp.gender = post.gender) &&
      (!post.onlyUpcoming || tables.today.toOrdinal ≤ comp.competitionDate.toOrdinal)

/-- The weight category, if it is on a mat of the competition and of its gender. -/
def ResultEntryPost.wc (tables : EntryTables) (post : ResultEntryPost) : Option ℕ :=
  (post.comp tables).bind fun (id, comp) => post.weightCategory.filter fun wc =>
    (tables.matWeights id).contains wc && tables.weightGender wc == some comp.gender

/-- The enrollment is one of those offered for the places. -/
def ResultEntryPost.offers (tables : EntryTables) (post : ResultEntryPost)
    (enrollments : Table Enrollment) (k : ℕ) : Bool :=
  match post.comp tables, post.wc tables with
  | some (id, _), some wc => (enrollments.get k).any fun e =>
      e.competition == id && e.weightCategory == some wc && eligibleStatuses.contains e.status
  | _, _ => false

/-- `form.is_valid()`. Every field may be left out; a value must be among those offered. -/
def ResultEntryPost.isValid (tables : EntryTables) (post : ResultEntryPost)
    (enrollments : Table Enrollment) : Bool :=
  ["", "male", "female"].contains post.gender &&
    (post.competition.isNone || (post.comp tables).isSome) &&
    (post.weightCategory.isNone || (post.wc tables).isSome) &&
    (post.picks.all fun pick => pick.all (post.offers tables enrollments)) &&
    (post.picks.filterMap id).length == (post.picks.filterMap id).dedup.length

/-! ### The steps -/

/-- What a request raises. -/
inductive EntryError where
  /-- the competition or the weight category is null -/
  | nullKey
  | validationError (rejection : Rejection)
  | doesNotExist
  | integrityError
  | attributeError (type name : String)

/-- `KyorugiResult.objects.get_or_create` -/
def getOrCreateResult (catalogue : Catalogue) (user competition weightCategory : ℕ) (s : Podium) :
    Except EntryError (ℕ × KyorugiResult ℕ × Podium) :=
  match s.currentResult competition weightCategory with
  | some (pk, row) => .ok (pk, row, s)
  | none =>
    let pk := s.rankings.results.next
    let result : KyorugiResult Medalist :=
      { competition, weightCategory, gold := none, silver := none, bronze1 := none,
        bronze2 := none, createdBy := some user }
    match saveResult ⟨pk, result, catalogue⟩ s.rankings with
    | .ok rankings => .ok (pk, result.toRow, { s with rankings })
    | .error rejection => .error (.validationError rejection)

/-- What `apply_results_and_points` may be given. -/
inductive ServiceArgument where
  | result (c : ServiceCall)
  | number (pk : ℕ)

/-- `apply_results_and_points` on any argument. The rows of a number are found and taken back
like those of a result, but a number has no places to read. -/
def applyTo : ServiceArgument → Podium → Except EntryError Podium
  | .result c, s => if c.accepted s.rankings then .ok (serviceMedals c s) else .error .integrityError
  | .number _, _ => .error (.attributeError "int" "gold_enrollment")

/-- The part of the view after a valid form. -/
def recordResult (tables : EntryTables) (user : ℕ) (post : ResultEntryPost) (s : Podium) :
    Except EntryError Podium :=
  match post.competition, post.weightCategory with
  | some competition, some weightCategory => do
    let (pk, row, s) ← getOrCreateResult tables.catalogue user competition weightCategory s
    let version : KyorugiResult ℕ := { row with
      gold := post.gold, silver := post.silver, bronze1 := post.bronze1, bronze2 := post.bronze2 }
    match s.loadResult version with
    | none => .error .doesNotExist
    | some result =>
      match saveResult ⟨pk, result, tables.catalogue⟩ s.rankings with
      | .error rejection => .error (.validationError rejection)
      | .ok rankings => applyTo (.number pk) { s with rankings }
  | _, _ => .error .nullKey

/-- What a request answers. -/
inductive EntryAnswer where
  /-- the form again, with its errors -/
  | page
  | redirect
  | raised (e : EntryError)

/-- A POST to `kyorugi_results_view`. An exception rolls the transaction back. -/
def kyorugiResultsView (tables : EntryTables) (user : ℕ) (post : ResultEntryPost) (s : Podium) :
    EntryAnswer × Podium :=
  if post.isValid tables s.rankings.enrollments then
    match recordResult tables user post s with
    | .ok s' => (.redirect, s')
    | .error e => (.raised e, s)
  else (.page, s)

/-- The request succeeds, the result of the category holds exactly the medallists of the form,
its ledger rows are those of this version, its points and medals are booked in place of those
of the rows before, and the enrollments carry the medals. -/
structure Recorded (tables : EntryTables) (post : ResultEntryPost) (before : Podium)
    (out : EntryAnswer × Podium) : Prop where
  answer : out.1 = .redirect
  result : ∃ competition weightCategory pk row result,
    post.competition = some competition ∧ post.weightCategory = some weightCategory ∧
    out.2.currentResult competition weightCategory = some (pk, row) ∧
    [row.gold, row.silver, row.bronze1, row.bronze2] = post.picks ∧
    out.2.loadResult row = some result ∧
    out.2.rankings.rowsOf pk = (ServiceCall.mk pk result tables.catalogue tables.roster).rows ∧
    (∀ a, out.2.rankings.totals a = before.rankings.totals a -
      booked ((before.rankings.rowsOf pk).flatMap RankingTransaction.postings) a +
      booked ((out.2.rankings.rowsOf pk).flatMap RankingTransaction.postings) a) ∧
    (∀ counter, out.2.rankings.medalTotals counter = before.rankings.medalTotals counter -
      booked ((before.rankings.rowsOf pk).flatMap RankingTransaction.medalPostings) counter +
      booked ((out.2.rankings.rowsOf pk).flatMap RankingTransaction.medalPostings) counter) ∧
    ∀ k m, row.medalOf k = some m → out.2.medal k = some m

/-! ### What a request leaves behind -/

section Requests

variable {tables : EntryTables} {user : ℕ} {post : ResultEntryPost} {s : Podium}

/-- **Every request with a valid form raises.** -/
theorem recordResult_raises (tables : EntryTables) (user : ℕ) (post : ResultEntryPost)
    (s : Podium) : ∃ e, recordResult tables user post s = .error e := by
  unfold recordResult
  split
  · next competition weightCategory _ _ =>
    cases hget : getOrCreateResult tables.catalogue user competition weightCategory s with
    | error e => exact ⟨e, rfl⟩
    | ok found =>
      obtain ⟨pk, row, s'⟩ := found
      simp only [bind, Except.bind]
      split
      · exact ⟨_, rfl⟩
      · split
        · exact ⟨_, rfl⟩
        · exact ⟨_, rfl⟩
  · exact ⟨_, rfl⟩

/-- A save that is accepted returns. -/
theorem saveResult_of_accepted {c : SaveCall} {t : RankingState} (h : c.accepted t = true) :
    saveResult c t = .ok (saveStep c t) := by
  unfold SaveCall.accepted at h
  simp only [saveStep, saveResult, if_pos h]

/-- The keys of a result all lead somewhere. -/
theorem missing_eq_nil {result : KyorugiResult Medalist} {catalogue : Catalogue}
    {enrollments : Table Enrollment} (hcomp : catalogue.hasCompetition result.competition = true)
    (hweight : catalogue.hasWeightCategory result.weightCategory = true)
    (hplaces : ∀ place ∈ result.places, ∀ en, place.2 = some en →
      (enrollments.get en.pk).isSome = true)
    (huser : result.createdBy.all catalogue.hasUser = true) :
    result.missing catalogue enrollments = [] := by
  have hnone : (result.places.filter fun place =>
      place.2.any fun en => (enrollments.get en.pk).isNone) = [] := by
    rw [List.filter_eq_nil_iff]
    intro place hmem hany
    obtain ⟨en, hen, hgone⟩ := (Option.any_eq_true _ _).mp hany
    have hthere := hplaces place hmem en hen
    rw [Option.isNone_iff_eq_none] at hgone
    rw [hgone] at hthere
    cases hthere
  unfold KyorugiResult.missing
  rw [if_pos hcomp, if_pos hweight, if_pos huser, hnone]
  rfl

/-- The keys in the tables lead somewhere, and each category has one result. -/
structure EntryReady (tables : EntryTables) (user competition weightCategory : ℕ) (s : Podium) :
    Prop where
  competition : tables.catalogue.hasCompetition competition = true
  weightCategory : tables.catalogue.hasWeightCategory weightCategory = true
  user : tables.catalogue.hasUser user = true
  createdBy : ∀ j row, s.rankings.results.get j = some row →
    row.createdBy.all tables.catalogue.hasUser = true
  unique : ∀ i j row row', s.rankings.results.get i = some row →
    s.rankings.results.get j = some row' → row.competition = row'.competition →
    row.weightCategory = row'.weightCategory → i = j

/-- The row is the result of the category, and there is no other one. -/
structure OnlyResult (tables : EntryTables) (competition weightCategory pk : ℕ)
    (row : KyorugiResult ℕ) (results : Table (KyorugiResult ℕ)) : Prop where
  competition_eq : row.competition = competition
  weightCategory_eq : row.weightCategory = weightCategory
  createdBy : row.createdBy.all tables.catalogue.hasUser = true
  others : ∀ j other, j ≠ pk → results.get j = some other →
    ¬ (other.competition = competition ∧ other.weightCategory = weightCategory)

section Ready

variable {competition weightCategory : ℕ}

/-- A result without places passes validation if the category has none yet. -/
theorem accepted_new (hready : EntryReady tables user competition weightCategory s)
    (hfresh : ∀ j other, s.rankings.results.get j = some other →
      ¬ (other.competition = competition ∧ other.weightCategory = weightCategory)) (pk : ℕ) :
    SaveCall.accepted ⟨pk, ⟨competition, weightCategory, none, none, none, none, some user⟩,
      tables.catalogue⟩ s.rankings = true := by
  have hempty : ∀ place ∈ KyorugiResult.places (⟨competition, weightCategory, none, none, none,
      none, some user⟩ : KyorugiResult Medalist), place.2 = none := by
    intro place hplace
    simp only [KyorugiResult.places, List.mem_cons, List.not_mem_nil, or_false] at hplace
    rcases hplace with rfl | rfl | rfl | rfl <;> rfl
  refine accepted_iff.mpr ⟨?_, rfl, fun j other _ hother => hfresh j other hother⟩
  refine missing_eq_nil hready.competition hready.weightCategory ?_ hready.user
  intro place hplace en hen
  rw [hempty place hplace] at hen
  cases hen

/-- The result of the category is there after `get_or_create`, and no other one is. -/
theorem getOrCreateResult_ok (hready : EntryReady tables user competition weightCategory s) :
    ∃ pk row s', getOrCreateResult tables.catalogue user competition weightCategory s =
        .ok (pk, row, s') ∧
      OnlyResult tables competition weightCategory pk row s'.rankings.results ∧
      s'.rankings.enrollments = s.rankings.enrollments := by
  unfold getOrCreateResult
  cases hcurrent : s.currentResult competition weightCategory with
  | some found =>
    obtain ⟨pk, row⟩ := found
    obtain ⟨hrow, hcategory⟩ := Table.oldest_spec hcurrent
    simp only [Bool.and_eq_true, beq_iff_eq] at hcategory
    refine ⟨pk, row, s, rfl, ⟨hcategory.1, hcategory.2, hready.createdBy pk row hrow, ?_⟩, rfl⟩
    intro j other hj hother hsame
    apply hj
    exact hready.unique j pk other row hother hrow (hsame.1.trans hcategory.1.symm)
      (hsame.2.trans hcategory.2.symm)
  | none =>
    have hfresh : ∀ j other, s.rankings.results.get j = some other →
        ¬ (other.competition = competition ∧ other.weightCategory = weightCategory) := by
      intro j other hother hcategory
      have hno := Table.oldest_eq_none_iff.mp hcurrent j other hother
      simp [hcategory.1, hcategory.2] at hno
    have hacc := accepted_new hready hfresh s.rankings.results.next
    dsimp only
    rw [saveResult_of_accepted hacc, saveStep_of_accepted hacc]
    refine ⟨_, _, _, rfl, ⟨rfl, rfl, hready.user, ?_⟩, rfl⟩
    -- the row that was put is the new one, the others were there before
    intro j other hj hother
    have hput : (s.rankings.results.put s.rankings.results.next
        (KyorugiResult.toRow ⟨competition, weightCategory, none, none, none, none,
          some user⟩)).get j = s.rankings.results.get j := if_neg hj
    rw [hput] at hother
    exact hfresh j other hother

/-- The medallists of a valid form are enrollments of its category. -/
theorem exists_of_pick (hvalid : post.isValid tables s.rankings.enrollments = true)
    (hcomp : post.competition = some competition)
    (hweight : post.weightCategory = some weightCategory) {k : ℕ} (hpick : some k ∈ post.picks) :
    ∃ e, s.rankings.enrollments.get k = some e ∧ e.competition = competition ∧
      e.weightCategory = some weightCategory := by
  simp only [ResultEntryPost.isValid, Bool.and_eq_true, List.all_eq_true] at hvalid
  have hoffered : post.offers tables s.rankings.enrollments k = true := hvalid.1.2 _ hpick
  unfold ResultEntryPost.offers at hoffered
  split at hoffered
  · next id comp wc hfound hwc =>
    obtain rfl : id = competition := by
      unfold ResultEntryPost.comp at hfound
      rw [hcomp, Option.bind_some] at hfound
      obtain ⟨comp', -, hpair⟩ := Option.map_eq_some_iff.mp (Option.filter_eq_some_iff.mp hfound).1
      cases hpair
      rfl
    obtain rfl : wc = weightCategory := by
      unfold ResultEntryPost.wc at hwc
      rw [hfound, Option.bind_some, hweight] at hwc
      exact (Option.some.inj (Option.filter_eq_some_iff.mp hwc).1).symm
    obtain ⟨e, hget, hcategory⟩ := (Option.any_eq_true _ _).mp hoffered
    simp only [Bool.and_eq_true, beq_iff_eq] at hcategory
    exact ⟨e, hget, hcategory.1.1, hcategory.1.2⟩
  · cases hoffered

/-- The places of a valid form can be loaded. -/
theorem exists_loadPlace {t : Podium} {p : Option ℕ}
    (h : ∀ k, p = some k → ∃ e, t.rankings.enrollments.get k = some e) :
    ∃ q, t.loadPlace p = some q := by
  cases p with
  | none => exact ⟨none, rfl⟩
  | some k =>
    obtain ⟨e, he⟩ := h k rfl
    exact ⟨some ⟨k, e, t.medal k⟩, by simp [Podium.loadPlace, Podium.load, he]⟩

/-- A row can be loaded if the enrollments in its places are there. -/
theorem exists_loadResult {t : Podium} {row : KyorugiResult ℕ}
    (h : ∀ place ∈ row.places, ∀ k, place.2 = some k →
      ∃ e, t.rankings.enrollments.get k = some e) :
    ∃ result, t.loadResult row = some result := by
  have hplace : ∀ place ∈ row.places, ∃ q, t.loadPlace place.2 = some q := by
    intro place hmem
    exact exists_loadPlace (h place hmem)
  obtain ⟨gold, hgold⟩ := hplace ("gold_enrollment", row.gold) (by simp [KyorugiResult.places])
  obtain ⟨silver, hsilver⟩ :=
    hplace ("silver_enrollment", row.silver) (by simp [KyorugiResult.places])
  obtain ⟨bronze1, hbronze1⟩ :=
    hplace ("bronze1_enrollment", row.bronze1) (by simp [KyorugiResult.places])
  obtain ⟨bronze2, hbronze2⟩ :=
    hplace ("bronze2_enrollment", row.bronze2) (by simp [KyorugiResult.places])
  exact ⟨_, by simp [Podium.loadResult, hgold, hsilver, hbronze1, hbronze2]; rfl⟩

/-- The medallists of a loaded result are those of its row. -/
theorem map_pk_places_loadResult {t : Podium} {row : KyorugiResult ℕ}
    {result : KyorugiResult Medalist} (h : t.loadResult row = some result) :
    result.places.map (fun place => place.2.map Medalist.pk) = row.places.map Prod.snd := by
  rw [← (loadResult_spec h).1]
  rfl

/-- No enrollment is chosen twice on a valid form. -/
theorem nodup_picks (hvalid : post.isValid tables s.rankings.enrollments = true) :
    (post.picks.filterMap id).Nodup := by
  simp only [ResultEntryPost.isValid, Bool.and_eq_true, beq_iff_eq] at hvalid
  exact length_eq_length_dedup_iff.mp hvalid.2

/-- The version with the places of the form. -/
def ResultEntryPost.version (post : ResultEntryPost) (row : KyorugiResult ℕ) : KyorugiResult ℕ :=
  { row with
    gold := post.gold, silver := post.silver, bronze1 := post.bronze1, bronze2 := post.bronze2 }

/-- The result of the category passes validation with the places of a valid form. -/
theorem accepted_version (hready : EntryReady tables user competition weightCategory s)
    (hvalid : post.isValid tables s.rankings.enrollments = true)
    (hcomp : post.competition = some competition)
    (hweight : post.weightCategory = some weightCategory) {pk : ℕ} {row : KyorugiResult ℕ}
    {t : Podium} (hrow : OnlyResult tables competition weightCategory pk row t.rankings.results)
    (henrollments : t.rankings.enrollments = s.rankings.enrollments) :
    ∃ result, t.loadResult (post.version row) = some result ∧
      SaveCall.accepted ⟨pk, result, tables.catalogue⟩ t.rankings = true := by
  have hpick : ∀ k, some k ∈ post.picks → ∃ e, t.rankings.enrollments.get k = some e ∧
      e.competition = competition ∧ e.weightCategory = some weightCategory := by
    intro k hk
    rw [henrollments]
    exact exists_of_pick hvalid hcomp hweight hk
  have hpicks : (post.version row).places.map Prod.snd = post.picks := rfl
  have hload : ∃ result, t.loadResult (post.version row) = some result := by
    apply exists_loadResult
    intro place hmem k hk
    have hchosen : some k ∈ post.picks := by
      rw [← hpicks, ← hk]
      exact List.mem_map_of_mem hmem
    obtain ⟨e, he, -⟩ := hpick k hchosen
    exact ⟨e, he⟩
  obtain ⟨result, hresult⟩ := hload
  refine ⟨result, hresult, ?_⟩
  obtain ⟨hversion, hfresh⟩ := loadResult_spec hresult
  have hplaces := (map_pk_places_loadResult hresult).trans hpicks
  -- the loaded medallists are enrollments of the category
  have hentry : ∀ place ∈ result.places, ∀ en, place.2 = some en →
      t.rankings.enrollments.get en.pk = some en.enrollment ∧
        en.enrollment.competition = competition ∧
        en.enrollment.weightCategory = some weightCategory := by
    intro place hmem en hen
    have hchosen : some en.pk ∈ post.picks := by
      rw [← hplaces]
      exact List.mem_map.mpr ⟨place, hmem, by rw [hen]; rfl⟩
    obtain ⟨e, he, hcategory⟩ := hpick en.pk hchosen
    obtain ⟨e', he', hen'⟩ := Option.map_eq_some_iff.mp (hfresh place hmem en hen)
    rw [he] at he'
    cases he'
    rw [← hen']
    exact ⟨he, hcategory⟩
  -- the rest of the version is as it was in the row
  have hresultComp : result.competition = competition :=
    (congrArg KyorugiResult.competition hversion).trans hrow.competition_eq
  have hresultWeight : result.weightCategory = weightCategory :=
    (congrArg KyorugiResult.weightCategory hversion).trans hrow.weightCategory_eq
  have hresultBy : result.createdBy = row.createdBy := congrArg KyorugiResult.createdBy hversion
  refine accepted_iff.mpr ⟨missing_eq_nil ?_ ?_ ?_ ?_, clean_eq_ok_iff.mpr ⟨?_, ?_⟩, ?_⟩
  · rw [hresultComp]
    exact hready.competition
  · rw [hresultWeight]
    exact hready.weightCategory
  · intro place hmem en hen
    rw [(hentry place hmem en hen).1]
    rfl
  · rw [hresultBy]
    exact hrow.createdBy
  · have hnodup := nodup_picks hvalid
    rw [← hplaces, List.filterMap_map] at hnodup
    exact hnodup
  · intro place hmem en hen
    rw [hresultComp, hresultWeight]
    exact (hentry place hmem en hen).2
  · rw [hresultComp, hresultWeight]
    exact hrow.others

/-- **A request with a valid form fails at the last step**, and not before: both saves pass
validation. -/
theorem recordResult_attributeError (hready : EntryReady tables user competition weightCategory s)
    (hvalid : post.isValid tables s.rankings.enrollments = true)
    (hcomp : post.competition = some competition)
    (hweight : post.weightCategory = some weightCategory) :
    recordResult tables user post s = .error (.attributeError "int" "gold_enrollment") := by
  obtain ⟨pk, row, s', hget, hrow, henrollments⟩ := getOrCreateResult_ok hready
  obtain ⟨result, hresult, hacc⟩ :=
    accepted_version hready hvalid hcomp hweight hrow henrollments
  rw [ResultEntryPost.version] at hresult
  unfold recordResult
  rw [hcomp, hweight]
  simp only [hget, bind, Except.bind, hresult, saveResult_of_accepted hacc]
  rfl

end Ready

/-- **Recording a result never works**: a request with a valid form raises, none leaves the
result recorded, and none changes anything. -/
theorem results_view_never_records (tables : EntryTables) (user : ℕ) (post : ResultEntryPost)
    (s : Podium) :
    (post.isValid tables s.rankings.enrollments = true →
      ∃ e, (kyorugiResultsView tables user post s).1 = .raised e) ∧
    ¬ Recorded tables post s (kyorugiResultsView tables user post s) ∧
    (kyorugiResultsView tables user post s).2 = s := by
  obtain ⟨e, he⟩ := recordResult_raises tables user post s
  unfold kyorugiResultsView
  rw [he]
  by_cases hvalid : post.isValid tables s.rankings.enrollments = true
  · rw [if_pos hvalid]
    exact ⟨fun _ => ⟨e, rfl⟩, fun h => (by cases h.answer), rfl⟩
  · rw [if_neg hvalid]
    exact ⟨fun h => absurd h hvalid, fun h => (by cases h.answer), rfl⟩

end Requests

/-- One competition with one weight category, in which everything can be looked up. -/
def entryTables : EntryTables where
  kyorugi _ := some { (default : KyorugiCompetition) with gender := "male" }
  matWeights _ := [2]
  weightGender _ := some "male"
  catalogue := ⟨fun _ => true, fun _ => true, fun _ => true⟩
  today := default
  roster := default

/-- One paid enrollment. -/
def onePaid : Podium where
  rankings := { unscoredRankings with
    enrollments := Table.empty.insert { coachedMedalist.enrollment with status := .paid } }
  medal _ := none

/-- The enrollment wins gold. -/
def goldPost : ResultEntryPost :=
  { (default : ResultEntryPost) with
    competition := some 1, weightCategory := some 2, gold := some 1 }

theorem gold_not_recorded :
    goldPost.isValid entryTables onePaid.rankings.enrollments = true ∧
      kyorugiResultsView entryTables 1 goldPost onePaid =
        (.raised (.attributeError "int" "gold_enrollment"), onePaid) ∧
      ¬ Recorded entryTables goldPost onePaid (kyorugiResultsView entryTables 1 goldPost onePaid) := by
  have hraised : kyorugiResultsView entryTables 1 goldPost onePaid =
      (.raised (.attributeError "int" "gold_enrollment"), onePaid) := by
    rfl
  refine ⟨by decide +kernel, hraised, ?_⟩
  rw [hraised]
  intro h
  cases h.answer

end Tkdchb
