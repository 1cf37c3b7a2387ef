import Tkdchb.Competitions.Belts
import Tkdchb.Competitions.SelfRegister
import Tkdchb.Lib.KeyedRows

/-!
# Who is eligible

Three pages tell who may take part: the list of a coach's students, the page of a kyorugi
competition and the page of a poomsae competition. Each looks at gender, age and belt, the
list also at the coach, with helpers of its own.

## Main definitions

* `ProfileRows` — the profiles, at most one for each user
* `EligibilityTables` — what the pages read
* `Jdatetime` — the conversions of the calendar library
* `EligibilityTables.coachStudentsEligible` — the rows of `CoachStudentsEligibleListView.get`
* `EligibilityTables.getUserEligibleSelf` — of a kyorugi competition
* `EligibilityTables.poomsaeUserEligible` — `_poomsae_user_eligible`
* `EligibilityTables.registry`, `EligibilityTables.selfRegistry` — the lookups of the handlers

## Main results

* `ProfileRows.getPlayerLikeProfile_eq`, `ProfileRows.getProfile_eq`,
  `ProfileRows.profileOf_of_firstOf` — all lookups find the profile of the user
-/

namespace Tkdchb

open Calendar Web

/-! ### Rows -/

/-- The columns of a profile that eligibility reads besides those of registration. -/
structure PlayerProfile extends UserProfile where
  user : Option ℕ
  coach : Option ℤ
  birthDate : String
  beltGrade : String
  deriving Inhabited

structure AgeCategory where
  fromDate : Date
  toDate : Date
  deriving DecidableEq

/-- `from_date <= bd <= to_date` -/
def AgeCategory.covers (cat : AgeCategory) (bd : Date) : Bool :=
  decide (cat.fromDate.toOrdinal ≤ bd.toOrdinal) && decide (bd.toOrdinal ≤ cat.toDate.toOrdinal)

/-- A kyorugi competition with what eligibility reads. -/
structure KyorugiSettings where
  competition : KyorugiCompetition
  belts : BeltRules
  ageCategory : Option ℕ
  beltGroups_eq : competition.beltGroups = belts.groups.map BeltGroup.pk

/-- A poomsae competition. -/
structure PoomsaeSettings where
  gender : String
  belts : BeltRules
  ageCategory : Option ℕ
  ageCategories : List ℕ
  entryFee : ℕ
  startDate : Date
  competitionDate : Option Date
  registrationManual : Option Bool
  registrationStart : Date
  registrationEnd : Date

/-- The columns that both kinds of competition have, for the helpers that take either. The
date is `competition_date or start_date`. -/
def PoomsaeSettings.shared (comp : PoomsaeSettings) : KyorugiCompetition where
  entryFee := comp.entryFee
  gender := comp.gender
  beltGroups := comp.belts.groups.map BeltGroup.pk
  competitionDate := comp.competitionDate.getD comp.startDate
  registrationManual := comp.registrationManual
  registrationStart := comp.registrationStart
  registrationEnd := comp.registrationEnd

theorem KyorugiSettings.beltGroups_ne_nil_iff {comp : KyorugiSettings} :
    comp.competition.beltGroups ≠ [] ↔ comp.belts.groups ≠ [] := by
  rw [comp.beltGroups_eq, ne_eq, List.map_eq_nil_iff]

/-! ### Profiles -/

/-- The profiles by primary key. `user` is a one-to-one field. -/
structure ProfileRows extends KeyedRows (Prod.fst : ℤ × PlayerProfile → ℤ) where
  oneToOne : ∀ x ∈ rows, ∀ y ∈ rows, ∀ user, x.2.user = some user → y.2.user = some user → x = y

namespace ProfileRows

variable {R : ProfileRows} {user : ℕ} {roles : List String} {x : ℤ × PlayerProfile} {pid : ℤ}

/-- `UserProfile.objects.filter(id=pid).first()` -/
def get (R : ProfileRows) (pid : ℤ) : Option PlayerProfile := (R.find pid).map Prod.snd

/-- `UserProfile.objects.filter(user=user).first()`, which is also `user.profile`. -/
def profileOf (R : ProfileRows) (user : ℕ) : Option (ℤ × PlayerProfile) :=
  R.rows.find? fun x => x.2.user == some user

/-- `UserProfile.objects.filter(user=user, role__in=roles).first()` -/
def firstOf (R : ProfileRows) (user : ℕ) (roles : List String) : Option (ℤ × PlayerProfile) :=
  R.rows.find? fun x => x.2.user == some user && roles.contains x.2.role

/-- `_get_player_like_profile` -/
def getPlayerLikeProfile (R : ProfileRows) (user : ℕ) : Option (ℤ × PlayerProfile) :=
  match (R.profileOf user).filter fun x => ["player", "coach"].contains x.2.role with
  | some x => some x
  | none => ((R.firstOf user ["player"]).or (R.firstOf user ["coach"])).or (R.profileOf user)

/-- `_get_profile` of the page of a kyorugi competition. -/
def getProfile (R : ProfileRows) (user : ℕ) : Option (ℤ × PlayerProfile) :=
  match (R.profileOf user).filter fun x => x.2.role == "player" with
  | some x => some x
  | none => (R.firstOf user ["player"]).or (R.profileOf user)

theorem get_eq_some_iff {p : PlayerProfile} : R.get pid = some p ↔ (pid, p) ∈ R.rows := by
  unfold get
  rw [Option.map_eq_some_iff]
  constructor
  · rintro ⟨⟨key, p⟩, hfind, rfl⟩
    obtain ⟨hmem, rfl⟩ := KeyedRows.find_eq_some_iff.mp hfind
    exact hmem
  · intro hmem
    exact ⟨(pid, p), KeyedRows.find_eq_some_iff.mpr ⟨hmem, rfl⟩, rfl⟩

theorem profileOf_eq_some_iff :
    R.profileOf user = some x ↔ x ∈ R.rows ∧ x.2.user = some user := by
  unfold profileOf
  constructor
  · intro h
    exact ⟨List.mem_of_find?_eq_some h, by simpa using List.find?_some h⟩
  · rintro ⟨hmem, huser⟩
    cases hy : R.rows.find? fun x => x.2.user == some user with
    | none => exact absurd (List.find?_eq_none.mp hy x hmem) (by simp [huser])
    | some y =>
      have hyuser : y.2.user = some user := by simpa using List.find?_some hy
      rw [R.oneToOne y (List.mem_of_find?_eq_some hy) x hmem user hyuser huser]

/-- A search by role finds the profile of the user, or nothing. -/
theorem profileOf_of_firstOf (h : R.firstOf user roles = some x) :
    R.profileOf user = some x ∧ x.2.role ∈ roles := by
  have hfound : x.2.user = some user ∧ x.2.role ∈ roles := by simpa using List.find?_some h
  exact ⟨profileOf_eq_some_iff.mpr ⟨List.mem_of_find?_eq_some h, hfound.1⟩, hfound.2⟩

/-- **The lookups agree**: searches by role in between change nothing. -/
theorem firstOf_or_profileOf : (R.firstOf user roles).or (R.profileOf user) = R.profileOf user := by
  cases h : R.firstOf user roles with
  | none => rfl
  | some x => rw [(profileOf_of_firstOf h).1, Option.some_or]

theorem getPlayerLikeProfile_eq : R.getPlayerLikeProfile user = R.profileOf user := by
  unfold getPlayerLikeProfile
  split
  · next x hx => exact (Option.filter_eq_some_iff.mp hx).1.symm
  · rw [Option.or_assoc, firstOf_or_profileOf, firstOf_or_profileOf]

theorem getProfile_eq : R.getProfile user = R.profileOf user := by
  unfold getProfile
  split
  · next x hx => exact (Option.filter_eq_some_iff.mp hx).1.symm
  · exact firstOf_or_profileOf

/-- Two profiles of different users. -/
theorem oneToOne_pair {x y : ℤ × PlayerProfile} (h : x.2.user ≠ y.2.user) :
    ∀ a ∈ [x, y], ∀ b ∈ [x, y], ∀ user, a.2.user = some user → b.2.user = some user → a = b := by
  intro a ha b hb user hauser hbuser
  simp only [List.mem_cons, List.not_mem_nil, or_false] at ha hb
  rcases ha with rfl | rfl <;> rcases hb with rfl | rfl
  · rfl
  · exact absurd (hauser.trans hbuser.symm) h
  · exact absurd (hbuser.trans hauser.symm) h
  · rfl

end ProfileRows

/-! ### Birth dates -/

/-- A date of the Jalali calendar. -/
structure Jalali where
  year : ℕ
  month : ℕ
  day : ℕ
  deriving DecidableEq

/-- `a <= b` -/
def Jalali.le (a b : Jalali) : Bool :=
  a.year < b.year || a.year == b.year &&
    (a.month < b.month || a.month == b.month && a.day ≤ b.day)

/-- The calendar library `jdatetime`; `none` is its `ValueError`. -/
structure Jdatetime where
  /-- `jdatetime.date(y, m, d)` -/
  date : ℤ → ℤ → ℤ → Option Jalali
  togregorian : Jalali → Option Date
  fromgregorian : Date → Option Jalali

/-- The direction marks that `re.sub` removes. -/
def isMark (c : Char) : Bool :=
  c.toNat == 0x200e || c.toNat == 0x200f || c.toNat == 0x200c ||
    0x202a ≤ c.toNat && c.toNat ≤ 0x202e

/-- `re.fullmatch(r"(\d{4})/(\d{1,2})/(\d{1,2})", t)`, with the groups as numbers. -/
def matchYmd (t : List Char) : Option (ℕ × ℕ × ℕ) :=
  match t.splitOn '/' with
  | [y, m, d] =>
    if (y ++ m ++ d).all Text.isDecimal && y.length == 4 && (m.length == 1 || m.length == 2) &&
        (d.length == 1 || d.length == 2) then
      some (Text.intOfDigits y, Text.intOfDigits m, Text.intOfDigits d)
    else none
  | _ => none

/-- `_parse_jalali_ymd` -/
def parseJalaliYmd (jd : Jdatetime) (s : String) : Option Date :=
  if s = "" then none
  else
    let t := String.ofList (s.toList.filter fun c => !isMark c)
    let t := toEnDigits (Text.replaceChar '-' '/' t)
    (matchYmd t.toList).bind fun (y, m, d) => (jd.date y m d).bind jd.togregorian

/-- `_player_birthdate_to_gregorian` -/
def playerBirthdateToGregorian (jd : Jdatetime) (p : PlayerProfile) : Option Date :=
  parseJalaliYmd jd p.birthDate

/-- `_date(y, m, d)` of integers. A negative one is as bad as zero. -/
def dateOfInts (y m d : ℤ) : Option Date := date? y.toNat m.toNat d.toNat

/-- `y, m, d = [int(x) for x in t.split("/")[:3]]` -/
def splitYmd (t : String) : Option (ℤ × ℤ × ℤ) :=
  match (t.toList.splitOn '/').take 3 with
  | [y, m, d] => do
    let y ← Text.int? (String.ofList y)
    let m ← Text.int? (String.ofList m)
    let d ← Text.int? (String.ofList d)
    return (y, m, d)
  | _ => none

/-- `_parse_jalali_str` of a text. -/
def parseJalaliStr (jd : Jdatetime) (s : String) : Option Jalali :=
  if s = "" then none
  else
    let t := Text.stripChar '\u0027' (Text.stripChar '\u0022' (Text.strip (toEnDigits s)))
    (splitYmd (Text.replaceChar '-' '/' t)).bind fun (y, m, d) =>
      if 1700 ≤ y then (dateOfInts y m d).bind jd.fromgregorian else jd.date y m d

/-! ### Genders -/

/-- `_GENDER_MAP` -/
def genderMap : List (String × String) :=
  [("male", "male"), ("m", "male"), ("man", "male"), ("آقا", "male"), ("اقا", "male"),
    ("مرد", "male"), ("آقایان", "male"), ("آقايان", "male"), ("اقایان", "male"),
    ("both", "both"), ("mixed", "both"), ("مختلط", "both"), ("هردو", "both"), ("هر دو", "both"),
    ("female", "female"), ("f", "female"), ("woman", "female"), ("زن", "female"),
    ("خانم", "female"), ("بانو", "female"), ("بانوان", "female"), ("خانم\u200cها", "female"),
    ("خانمها", "female")]

/-- `_norm_gender` -/
def normGender (v : String) : String :=
  let t := Text.replaceChar 'ك' 'ک' (Text.replaceChar 'ي' 'ی' (Text.lower (Text.strip v)))
  let t := String.ofList (t.toList.filter fun c => c != '\u200c' && c != '-')
  (genderMap.lookup t).getD t

/-! ### The pages -/

/-- `_player_belt_code_from_profile`. A profile has none of the columns it tries next. -/
def playerBeltCodeFromProfile (p : PlayerProfile) : Option BeltCode := normBelt p.beltGrade

/-- The tables behind the pages and the handlers. -/
structure EligibilityTables where
  profiles : ProfileRows
  kyorugi : ℕ → Option KyorugiSettings
  poomsae : ℕ → Option PoomsaeSettings
  ageCategories : Table AgeCategory

namespace EligibilityTables

variable (T : EligibilityTables) (jd : Jdatetime)

/-- `comp.age_category` -/
def ageCategory (fk : Option ℕ) : Option AgeCategory := fk.bind T.ageCategories.get

/-- `_age_ok_for_comp` -/
def ageOkForComp (p : PlayerProfile) (comp : KyorugiSettings) : Bool :=
  match playerBirthdateToGregorian jd p with
  | none => false
  | some bd =>
    match T.ageCategory comp.ageCategory with
    | none => true
    | some cat => cat.covers bd

/-- The students that `CoachStudentsEligibleListView.get` lists for a coach. -/
def coachStudentsEligible (coach : ℤ) (comp : KyorugiSettings) : List (ℤ × PlayerProfile) :=
  let reqGender := requiredGenderForComp comp.competition
  T.profiles.rows.filter fun (_, s) =>
    s.coach == some coach && ["player", "both", "coach", "referee"].contains s.role &&
      (if reqGender = some "male" ∨ reqGender = some "female" then some s.gender == reqGender
        else true) &&
      comp.belts.listed (playerBeltCodeFromProfile s) && T.ageOkForComp jd s comp

/-- `gender_ok` of `get_user_eligible_self`. -/
def genderOkSelf (prof : PlayerProfile) (comp : KyorugiSettings) : Bool :=
  let rg := normGender comp.competition.gender
  let pg := normGender prof.gender
  if rg = "" ∨ rg = "both" then true else if pg ≠ "" then rg == pg else false

/-- `age_ok` of `get_user_eligible_self`, with `none` for an exception of `_g2j`. -/
def ageOkSelf (prof : PlayerProfile) (comp : KyorugiSettings) : Option Bool :=
  match T.ageCategory comp.ageCategory with
  | none => some true
  | some cat => do
    let fromJ ← jd.fromgregorian cat.fromDate
    let toJ ← jd.fromgregorian cat.toDate
    return (parseJalaliStr jd prof.birthDate).any fun dobJ => fromJ.le dobJ && dobJ.le toJ

/-- `get_user_eligible_self` for a user who is logged in. -/
def getUserEligibleSelf (user : ℕ) (comp : KyorugiSettings) : Option Bool :=
  match T.profiles.getProfile user with
  | none => some false
  | some (_, prof) => do
    let ageOk ← T.ageOkSelf jd prof comp
    return genderOkSelf prof comp && ageOk && comp.belts.allows (playerBeltCodeFromProfile prof)

/-- `gender_ok` of `_poomsae_user_eligible`. -/
def genderOkPoomsae (prof : PlayerProfile) (comp : PoomsaeSettings) : Bool :=
  let reqGender := requiredGenderForComp comp.shared
  [none, some "", some "both"].contains reqGender || genderNorm prof.gender == reqGender

/-- The age windows of a poomsae competition: those of `age_categories`, or else that of
`age_category`. -/
def ageWindows (comp : PoomsaeSettings) : List AgeCategory :=
  let wins := comp.ageCategories.filterMap T.ageCategories.get
  if wins.isEmpty then (T.ageCategory comp.ageCategory).toList else wins

/-- `age_ok` of `_poomsae_user_eligible`. -/
def ageOkPoomsae (prof : PlayerProfile) (comp : PoomsaeSettings) : Bool :=
  let wins := T.ageWindows comp
  wins.isEmpty || (playerBirthdateToGregorian jd prof).any fun bd => wins.any fun cat =>
    cat.covers bd

/-- `_poomsae_user_eligible` -/
def poomsaeUserEligible (user : ℕ) (comp : PoomsaeSettings) : Bool :=
  match T.profiles.profileOf user with
  | none => false
  | some (_, prof) =>
    genderOkPoomsae prof comp && T.ageOkPoomsae jd prof comp &&
      comp.belts.allows (playerBeltCodeFromProfile prof)

/-! ### The lookups of registration -/

/-- `_belt_group_for_player_in_comp`, by keys. -/
def beltGroupForPlayerInComp (pid : ℤ) (compId : ℕ) : Option ℕ := do
  let player ← T.profiles.get pid
  let comp ← T.kyorugi compId
  comp.belts.findBeltGroupObj (playerBeltCodeFromProfile player)

/-- The lookups of registration, over the tables. -/
def registry (base : Registry) : Registry :=
  { base with
    kyorugi := fun id => (T.kyorugi id).map KyorugiSettings.competition
    poomsae := fun id => (T.poomsae id).map fun comp => ⟨some comp.shared.competitionDate⟩
    profile := fun pid => (T.profiles.get pid).map PlayerProfile.toUserProfile
    beltGroupForPlayerInComp := T.beltGroupForPlayerInComp }

/-- The lookups of a player registering alone, over the tables. -/
def selfRegistry (base : SelfRegistry) : SelfRegistry :=
  { base with
    playerProfile := fun user => (T.profiles.firstOf user ["player", "both"]).map Prod.fst
    getPlayerLikeProfile := fun user => (T.profiles.getPlayerLikeProfile user).map Prod.fst
    findBeltGroupObj := T.beltGroupForPlayerInComp }

variable {T}

theorem beltGroupForPlayerInComp_eq {pid : ℤ} {compId : ℕ} {player : PlayerProfile}
    {comp : KyorugiSettings} (hplayer : T.profiles.get pid = some player)
    (hcomp : T.kyorugi compId = some comp) :
    T.beltGroupForPlayerInComp pid compId =
      comp.belts.findBeltGroupObj (playerBeltCodeFromProfile player) := by
  simp only [beltGroupForPlayerInComp, hplayer, hcomp, Option.bind_eq_bind, Option.bind_some]

end EligibilityTables

end Tkdchb
