import Tkdchb.Accounts.EditApproval
import Tkdchb.Lib.Text
import Tkdchb.Lib.Transition

/-!
# The request for a profile edit

The form of a profile is saved as a pending copy, in two writes that no transaction joins. The
first is the serializer's. What the view checks only afterwards, that nobody is their own coach
and that the clubs exist, it checks with the first write already done, and a request that is
refused there can still be approved.

## Main definitions

* `EditRequest`, `EditEnv` — the form, and what the view only reads
* `EditRequest.errors`, `EditRequest.saved` — `PendingEditProfileSerializer`
* `EditRequest.finished` — what the view writes over it
* `saveChangeHistory` — the rows of the history after a save
* `EditState.post`, `editStep` — `UpdateProfilePendingAPIView.post`, and the two approvals
* `NoSelfCoach`, `RolesFit` — what every state should satisfy

## Main results

* `noSelfCoach_iff_never_refused` — somebody becomes their own coach exactly in the runs in
  which the view has refused it
* `rolesFit_iff` — every role fits its flags exactly in the runs in which each request that was
  cut short had sent the role of its flags
* `history_run` — no row of the history has an old value, and each save adds all its columns
-/

namespace Tkdchb.EditApproval

open Transition

/-! ### The form -/

/-- A file that was sent with the form. -/
structure Upload where
  name : String
  size : ℕ

/-- An entry of `refereeTypes`. -/
structure RefereeType where
  selected : Bool
  gradeNational : Option String
  gradeIntl : Option String

/-- The form. A key that was not sent is `none`. -/
structure EditRequest where
  coach : Option String
  club : Option String
  /-- `selectedClubs[]` or `selectedClubs`, each entry as `str` prints it -/
  selectedClubs : List String
  isCoach : Option Bool
  isReferee : Option Bool
  role : Option String
  coachLevel : Option String
  coachLevelInternational : Option String
  coachGradeNational : Option String
  coachGradeIntl : Option String
  kyorogi : RefereeType
  poomseh : RefereeType
  hanmadang : RefereeType
  /-- the board that the field of the framework has read -/
  tkdBoard : Option (Option ℕ)
  address : Option String
  profileImage : Option Upload
  /-- The columns that neither the view nor the serializer looks at, as the fields of the
  framework have read them. -/
  others : ProfileFields → ProfileFields

/-- What the view reads and does not change, the checks of the framework among it. -/
structure EditEnv where
  phone : ℕ → String
  /-- `UserProfile.phone` is unique. -/
  phone_injective : Function.Injective phone
  /-- the names of the clubs -/
  clubs : Table String
  /-- the names of the boards -/
  boards : ℕ → Option String
  /-- The errors of the fields for a profile, as the framework alone finds them: missing and
  overlong texts, choices, numbers that are taken. -/
  fieldErrors : EditTables → ℕ → EditRequest → List (String × String)
  doesNotExist : String → String
  incorrectType : String
  /-- `str` of a board, of a profile, of a club and of the names of clubs -/
  strBoard : ℕ → String
  strProfile : ℕ → String
  strClub : ℕ → String
  strNames : List String → String

/-- `_is_junk_str` -/
def isJunkStr (v : String) : Bool :=
  ["", "null", "none", "undefined"].contains (Text.lower (Text.strip v))

/-- `int` of a text for which `isdigit` holds. A superscript is a digit and no number. -/
def intOfDigitText (t : String) : Option ℕ :=
  if t.toList.all Text.isDecimal then some (Text.intOfDigits t.toList) else none

/-- `x or None` -/
def truthy (x : Option String) : Option String := x.filter fun t => t ≠ ""

namespace EditRequest

/-- `club_ids`, with `none` for the exception of `int`. -/
def clubIds (r : EditRequest) : Option (List ℕ) :=
  (r.selectedClubs.filter Text.allDigits).mapM intOfDigitText

/-- `data["coach"]` after the view has looked at it: not sent, cleared or a number. The outer
`none` is the exception of `int`. -/
def sentCoach (r : EditRequest) : Option (Option (Option ℕ)) :=
  match r.coach with
  | none => some none
  | some t =>
    if t = "other" ∨ isJunkStr t then some (some none)
    else if Text.allDigits t then (intOfDigitText t).map fun id => some (some id)
    else some none

/-- `data["club"]` as the serializer reads it; the outer `none` is no number. -/
def sentClub (r : EditRequest) : Option (Option (Option ℤ)) :=
  match r.club with
  | none => some none
  | some t => if t = "" then some (some none) else (Text.int? t).map fun id => some (some id)

/-- `data["coach_level"]` after the view has looked at it. -/
def level (r : EditRequest) : Option String := (truthy r.coachGradeNational).or r.coachLevel

def levelInternational (r : EditRequest) : Option String :=
  (truthy r.coachGradeIntl).or r.coachLevelInternational

end EditRequest

/-- The levels of a kind of referee that is not selected are cleared. -/
def RefereeType.level (t : RefereeType) : Option String :=
  if t.selected then truthy t.gradeNational else none

def RefereeType.levelInternational (t : RefereeType) : Option String :=
  if t.selected then truthy t.gradeIntl else none

/-! ### The serializer -/

/-- `[؀-ۿ0-9\s،.\-]` -/
def isAddressChar (c : Char) : Bool :=
  (0x600 ≤ c.toNat && c.toNat ≤ 0x6ff) || ('0' ≤ c && c ≤ '9') || Text.isSpace c || c == '.' ||
    c == '-'

/-- `validate_address` -/
def addressErrors (address : String) : List (String × String) :=
  let v := Text.strip address
  if v.length < 10 ∨ 300 < v.length then [("address", "آدرس باید بین ۱۰ تا ۳۰۰ کاراکتر باشد.")]
  else if v.toList.all isAddressChar then []
  else [("address", "آدرس شامل کاراکترهای غیرمجاز است.")]

/-- `validate_profile_image` -/
def imageErrors (image : Upload) : List (String × String) :=
  if 200 * 1024 < image.size then [("profile_image", "حجم عکس باید کمتر از ۲۰۰ کیلوبایت باشد.")]
  else if (Text.lower image.name).endsWith ".jpg" || (Text.lower image.name).endsWith ".jpeg" then
    []
  else [("profile_image", "فرمت عکس باید JPG باشد.")]

/-- A level that is missing. -/
def levelError (needed : Bool) (level : Option String) (field text : String) :
    List (String × String) :=
  if needed ∧ truthy level = none then [(field, text)] else []

/-- `validate` -/
def EditRequest.levelErrors (r : EditRequest) : List (String × String) :=
  levelError (r.isCoach = some true) r.level "coach_level" "درجه ملی مربیگری الزامی است." ++
    if r.isReferee = some true then
      levelError r.kyorogi.selected r.kyorogi.level "kyorogi_level"
          "درجه ملی کیوروگی الزامی است." ++
        levelError r.poomseh.selected r.poomseh.level "poomseh_level"
          "درجه ملی پومسه الزامی است." ++
        levelError r.hanmadang.selected r.hanmadang.level "hanmadang_level"
          "درجه ملی هانمادانگ الزامی است."
    else []

section Serializer

variable (env : EditEnv) (t : EditTables)

/-- The coach has to be a coach (`limit_choices_to`). -/
def coachErrors : Option (Option ℕ) → List (String × String)
  | some (some id) =>
    if (t.profiles.get id).any fun u => u.isCoach then []
    else [("coach", env.doesNotExist (toString id))]
  | some none | none => []

/-- The club, if it is one, or the errors of the field. -/
def readClub : Option (Option (Option ℤ)) → Except (List (String × String)) (Option (Option ℕ))
  | none => .error [("club", env.incorrectType)]
  | some none => .ok none
  | some (some none) => .ok (some none)
  | some (some (some id)) =>
    if (env.clubs.get id.toNat).isSome ∧ 0 ≤ id then .ok (some (some id.toNat))
    else .error [("club", env.doesNotExist (toString id))]

/-- `serializer.errors`; `validate` is only reached if every field is valid. -/
def EditRequest.errors (r : EditRequest) (owner : ℕ) (coach : Option (Option ℕ)) :
    List (String × String) :=
  let clubErrors := match readClub env r.sentClub with
    | .error e => e
    | .ok _ => []
  let fields := env.fieldErrors t owner r ++ coachErrors env t coach ++ clubErrors ++
    (r.address.map addressErrors).getD [] ++ (r.profileImage.map imageErrors).getD []
  if fields = [] then r.levelErrors else fields

end Serializer

/-- The defaults of a new request. -/
def newPending (owner : ℕ) : PendingEditProfile :=
  { (default : ProfileFields) with
    role := "player", originalUser := owner, profileImage := none }

/-- The row that the serializer writes: what was sent over what was there. -/
def EditRequest.saved (r : EditRequest) (coach club : Option (Option ℕ))
    (old : PendingEditProfile) : PendingEditProfile :=
  { r.others old.toProfileFields with
    originalUser := old.originalUser
    profileImage := (r.profileImage.map Upload.name).or old.profileImage
    coach := coach.getD old.coach
    club := club.getD old.club
    address := (r.address.map Text.strip).getD old.address
    role := r.role.getD old.role
    tkdBoard := r.tkdBoard.getD old.tkdBoard
    isCoach := r.isCoach.getD old.isCoach
    coachLevel := r.level.or old.coachLevel
    coachLevelInternational := r.levelInternational.or old.coachLevelInternational
    isReferee := r.isReferee.getD old.isReferee
    kyorogi := r.kyorogi.selected
    kyorogiLevel := r.kyorogi.level
    kyorogiLevelInternational := r.kyorogi.levelInternational
    poomseh := r.poomseh.selected
    poomsehLevel := r.poomseh.level
    poomsehLevelInternational := r.poomseh.levelInternational
    hanmadang := r.hanmadang.selected
    hanmadangLevel := r.hanmadang.level
    hanmadangLevelInternational := r.hanmadang.levelInternational }

/-! ### The history -/

/-- A row of `ProfileChangeHistory`. -/
structure ChangeRow where
  userProfile : ℕ
  fieldName : String
  oldValue : String
  newValue : String
  deriving DecidableEq

/-- `str` of a Boolean. -/
def strBool (b : Bool) : String := if b then "True" else "False"

/-- The columns of an instance with their values as text, `none` for `None`. -/
def PendingEditProfile.columns (env : EditEnv) (p : PendingEditProfile) :
    List (String × Option String) :=
  [("first_name", some p.firstName), ("last_name", some p.lastName),
    ("father_name", some p.fatherName), ("birth_date", some p.birthDate), ("role", some p.role),
    ("gender", some p.gender), ("address", some p.address), ("province", some p.province),
    ("county", some p.county), ("city", some p.city),
    ("tkd_board", p.tkdBoard.map env.strBoard), ("tkd_board_name", some p.tkdBoardName),
    ("profile_image", p.profileImage), ("belt_grade", some p.beltGrade),
    ("belt_certificate_number", some p.beltCertificateNumber),
    ("belt_certificate_date", some p.beltCertificateDate), ("coach_name", some p.coachName),
    ("club_names", some (env.strNames p.clubNames)), ("is_coach", some (strBool p.isCoach)),
    ("coach_level", p.coachLevel), ("coach_level_International", p.coachLevelInternational),
    ("is_referee", some (strBool p.isReferee)), ("kyorogi", some (strBool p.kyorogi)),
    ("poomseh", some (strBool p.poomseh)), ("hanmadang", some (strBool p.hanmadang)),
    ("kyorogi_level", p.kyorogiLevel),
    ("kyorogi_level_International", p.kyorogiLevelInternational),
    ("poomseh_level", p.poomsehLevel),
    ("poomseh_level_International", p.poomsehLevelInternational),
    ("hanmadang_level", p.hanmadangLevel),
    ("hanmadang_level_International", p.hanmadangLevelInternational),
    ("confirm_info", some (strBool p.confirmInfo)), ("coach", p.coach.map env.strProfile),
    ("club", p.club.map env.strClub),
    -- the manager of a relation prints the same whatever is related
    ("coaching_clubs", some "accounts.TkdClub.None")]

/-- The attributes of an instance whose names begin with `original_`. -/
def originalAttributes (env : EditEnv) (p : PendingEditProfile) : List (String × String) :=
  [("original_user", env.strProfile p.originalUser),
    ("original_user_id", toString p.originalUser)]

/-- `getattr(instance, f"original_{field.name}", None)` -/
def oldValue (env : EditEnv) (p : PendingEditProfile) (field : String) : Option String :=
  (originalAttributes env p).lookup ("original_" ++ field)

/-- `save_change_history`: the rows that a save adds. -/
def saveChangeHistory (env : EditEnv) (p : PendingEditProfile) : List ChangeRow :=
  (p.columns env).filterMap fun (field, new) =>
    let old := oldValue env p field
    if old = new then none
    else some ⟨p.originalUser, field, (truthy old).getD "ندارد", new.getD "None"⟩

/-! ### The view -/

namespace EditTables

/-- The request of a profile. -/
def requestOf (t : EditTables) (owner : ℕ) : Option (ℕ × PendingEditProfile) :=
  t.pendings.oldest fun p => p.originalUser = owner

/-- An overwritten request stays with its profile. -/
theorem owner_of_get_modify {pendings : Table PendingEditProfile} {k pk : ℕ}
    {row p : PendingEditProfile}
    (h : (pendings.modify k fun p => { row with originalUser := p.originalUser }).get pk =
      some p) :
    ∃ p', pendings.get pk = some p' ∧ p'.originalUser = p.originalUser := by
  rcases Table.get_modify_cases h with hold | ⟨-, p', hold, rfl⟩
  · exact ⟨p, hold, rfl⟩
  · exact ⟨p', hold, rfl⟩

/-- Write the request of a profile, which is new if there is none. -/
def savePending (t : EditTables) (owner : ℕ) (row : PendingEditProfile) : EditTables :=
  match howner : t.profiles.get owner, hold : t.requestOf owner with
  | none, _ => t
  | some _, some (pk, _) =>
    { t with
      pendings := t.pendings.modify pk fun p => { row with originalUser := p.originalUser }
      original := fun pk' p h => by
        obtain ⟨p', hget, howner'⟩ := owner_of_get_modify h
        exact howner' ▸ t.original pk' p' hget
      oneToOne := fun pk₁ pk₂ p₁ p₂ h₁ h₂ heq => by
        obtain ⟨p₁', hget₁, howner₁⟩ := owner_of_get_modify h₁
        obtain ⟨p₂', hget₂, howner₂⟩ := owner_of_get_modify h₂
        exact t.oneToOne pk₁ pk₂ p₁' p₂' hget₁ hget₂ (howner₁.trans (heq.trans howner₂.symm)) }
  | some _, none =>
    { t with
      pendings := t.pendings.insert { row with originalUser := owner }
      original := fun pk p h => by
        rcases Table.get_insert_cases h with h | ⟨-, rfl⟩
        · exact t.original pk p h
        · exact Option.isSome_of_eq_some howner
      oneToOne := fun pk₁ pk₂ p₁ p₂ h₁ h₂ heq => by
        -- the profile has no request yet
        have hnone := Table.oldest_eq_none_iff.mp hold
        rcases Table.get_insert_cases h₁ with hget₁ | ⟨hpk₁, rfl⟩
        · rcases Table.get_insert_cases h₂ with hget₂ | ⟨-, rfl⟩
          · exact t.oneToOne pk₁ pk₂ p₁ p₂ hget₁ hget₂ heq
          · exact absurd heq (by simpa using hnone pk₁ p₁ hget₁)
        · rcases Table.get_insert_cases h₂ with hget₂ | ⟨hpk₂, -⟩
          · exact absurd heq.symm (by simpa using hnone pk₂ p₂ hget₂)
          · rw [hpk₁, hpk₂] }

end EditTables

structure EditState where
  tables : EditTables
  history : List ChangeRow

/-- A save of the request of a profile, with the handler that follows it. -/
def EditState.save (env : EditEnv) (s : EditState) (owner : ℕ) (row : PendingEditProfile) :
    EditState where
  tables := s.tables.savePending owner row
  history := s.history ++ saveChangeHistory env { row with originalUser := owner }

inductive EditAnswer where
  | noProfile
  /-- an exception before anything is written -/
  | raised
  | invalid (errors : List (String × String))
  | selfCoach
  /-- the `IntegrityError` of a club that does not exist -/
  | noClub
  | sent
  deriving DecidableEq

def EditAnswer.status : EditAnswer → ℕ
  | .noProfile => 404
  | .invalid _ | .selfCoach => 400
  | .raised | .noClub => 500
  | .sent => 200

def EditAnswer.message : EditAnswer → String
  | .noProfile => "پروفایل یافت نشد."
  | .selfCoach => "مربی نمی‌تواند خودش باشد."
  | .sent => "درخواست ویرایش شما ثبت و در انتظار تایید است."
  | .raised | .invalid _ | .noClub => ""

/-- The answer leaves the first write without the second. -/
def EditAnswer.isCutShort : EditAnswer → Bool
  | .selfCoach | .noClub => true
  | .noProfile | .raised | .invalid _ | .sent => false

/-- The role that the two flags say. -/
def roleOfFlags (isCoach isReferee : Bool) : String :=
  match isCoach, isReferee with
  | true, true => "both"
  | true, false => "coach"
  | false, true => "referee"
  | false, false => "player"

section View

variable (env : EditEnv) (t : EditTables)

/-- `coach_obj`, if the form has the number of a profile. -/
def EditTables.coachOf (coach : Option (Option ℕ)) : Option (ℕ × UserProfile) := do
  let id ← coach.join
  let user ← t.profiles.get id
  return (id, user)

/-- `coach_obj.phone == original.phone` -/
def isSelfCoach (owner : ℕ) (coach : Option (Option ℕ)) : Bool :=
  (t.coachOf coach).any fun c => env.phone c.1 = env.phone owner

/-- The club that the view chooses, and the names of the clubs. -/
def EditRequest.chosenClub (r : EditRequest) (clubIds : List ℕ) (old : Option ℕ) :
    Option ℕ × List String :=
  let clubNames := (env.clubs.select fun _ => true).filterMap fun (id, name) =>
    if id ∈ clubIds then some name else none
  let sent := (r.club.filter fun t => Text.allDigits t).map fun t => Text.intOfDigits t.toList
  match sent, clubIds with
  | some id, _ =>
    match env.clubs.get id with
    | some name => (some id, if name ∈ clubNames then clubNames else clubNames ++ [name])
    | none => (old, clubNames)
  | none, first :: _ => (if (env.clubs.get first).isSome then some first else old, clubNames)
  | none, [] => (old, clubNames)

/-- The row after everything that the view writes over it. -/
def EditRequest.finished (r : EditRequest) (coach : Option (Option ℕ)) (clubIds : List ℕ)
    (row : PendingEditProfile) : PendingEditProfile :=
  let (club, clubNames) := r.chosenClub env clubIds row.club
  { row with
    coach := match coach.join with
      | some _ => (t.coachOf coach).map Prod.fst
      | none => row.coach
    coachName := match t.coachOf coach with
      | some (_, user) => Text.strip (user.firstName ++ " " ++ user.lastName)
      | none => row.coachName
    coachingClubs := clubIds.toFinset
    club, clubNames
    role := roleOfFlags row.isCoach row.isReferee
    tkdBoardName := (row.tkdBoard.bind env.boards).getD row.tkdBoardName }

end View

/-- A valid form: the clubs, the coach and the row that the serializer writes. -/
structure ValidEdit where
  clubIds : List ℕ
  coach : Option (Option ℕ)
  row : PendingEditProfile

/-- The view up to `serializer.is_valid`. -/
def EditState.read (env : EditEnv) (owner : ℕ) (r : EditRequest) (s : EditState) :
    Except EditAnswer ValidEdit :=
  match s.tables.profiles.get owner with
  | none => .error .noProfile
  | some _ =>
    match r.clubIds, r.sentCoach with
    | some clubIds, some coach =>
      match r.errors env s.tables owner coach, readClub env r.sentClub with
      | [], .ok club =>
        let old := ((s.tables.requestOf owner).map Prod.snd).getD (newPending owner)
        .ok ⟨clubIds, coach, r.saved coach club old⟩
      | errors, _ => .error (.invalid errors)
    | _, _ => .error .raised

/-- `UpdateProfilePendingAPIView.post` -/
def EditState.post (env : EditEnv) (owner : ℕ) (r : EditRequest) (s : EditState) :
    EditAnswer × EditState :=
  match s.read env owner r with
  | .error answer => (answer, s)
  | .ok v =>
    -- `serializer.save(original_user=original)`
    let saved := s.save env owner v.row
    if isSelfCoach env s.tables owner v.coach then (.selfCoach, saved)
    else if v.clubIds.all fun id => (env.clubs.get id).isSome then
      (.sent, saved.save env owner (r.finished env s.tables v.coach v.clubIds v.row))
    else (.noClub, saved)

inductive EditAction where
  /-- `UpdateProfilePendingAPIView.post` of a profile -/
  | post (owner : ℕ) (r : EditRequest)
  /-- `approve_edited_profile` -/
  | approvePage (pk : ℕ)
  /-- `PendingEditsAdmin.approve` -/
  | approveAction (queryset : List ℕ)

def editStep (env : EditEnv) : EditAction → EditState → EditState
  | .post owner r, s => (s.post env owner r).2
  | .approvePage pk, s => { s with tables := s.tables.approveEditedProfile pk }
  | .approveAction queryset, s => { s with tables := (s.tables.pendingEditsApprove queryset).1 }

/-- The answer of the view, if the action is a request to it. -/
def editAnswer (env : EditEnv) : EditAction → EditState → Option EditAnswer
  | .post owner r, s => some (s.post env owner r).1
  | .approvePage _, _ | .approveAction _, _ => none

/-! ### Saved requests -/

section Saved

variable {t : EditTables} {owner pk : ℕ} {row row' p : PendingEditProfile}

theorem requestOf_spec {x : ℕ × PendingEditProfile} (h : t.requestOf owner = some x) :
    t.pendings.get x.1 = some x.2 ∧ x.2.originalUser = owner := by
  obtain ⟨hget, howner⟩ := Table.oldest_spec h
  exact ⟨hget, by simpa using howner⟩

/-- The request of a profile is the only one. -/
theorem requestOf_eq_some (hget : t.pendings.get pk = some p) (howner : p.originalUser = owner) :
    t.requestOf owner = some (pk, p) := by
  apply Table.oldest_eq_some_of_unique hget (by simpa using howner)
  intro pk' p' hget' howner'
  refine t.oneToOne pk' pk p' p hget' hget ?_
  rw [howner]
  simpa using howner'

@[simp] theorem profiles_savePending :
    (t.savePending owner row).profiles = t.profiles := by
  unfold EditTables.savePending
  split <;> rfl

theorem pendings_savePending_of_some (hprofile : (t.profiles.get owner).isSome = true)
    (h : t.requestOf owner = some (pk, p)) :
    (t.savePending owner row).pendings =
      t.pendings.modify pk fun p => { row with originalUser := p.originalUser } := by
  unfold EditTables.savePending
  split
  · next hnone => simp [hnone] at hprofile
  · next hsome =>
    rw [h] at hsome
    obtain ⟨rfl, -⟩ := Prod.mk.inj (Option.some.inj hsome)
    rfl
  · next hnone => simp [h] at hnone

theorem pendings_savePending_of_none (hprofile : (t.profiles.get owner).isSome = true)
    (h : t.requestOf owner = none) :
    (t.savePending owner row).pendings =
      t.pendings.insert { row with originalUser := owner } := by
  unfold EditTables.savePending
  split
  · next hnone => simp [hnone] at hprofile
  · next hsome => simp [h] at hsome
  · rfl

/-- After a save the profile has the request that was saved. -/
theorem requestOf_savePending (hprofile : (t.profiles.get owner).isSome = true) :
    ∃ pk, (t.savePending owner row).requestOf owner =
      some (pk, { row with originalUser := owner }) := by
  cases h : t.requestOf owner with
  | none =>
    refine ⟨t.pendings.next, requestOf_eq_some ?_ rfl⟩
    rw [pendings_savePending_of_none hprofile h, Table.get_insert_next]
  | some x =>
    obtain ⟨pk, p⟩ := x
    obtain ⟨hget, rfl⟩ := requestOf_spec h
    refine ⟨pk, requestOf_eq_some ?_ rfl⟩
    rw [pendings_savePending_of_some hprofile h, Table.get_modify_self, hget, Option.map_some]

/-- A request after a save is another one that was there, or the one saved. -/
theorem get_savePending (hprofile : (t.profiles.get owner).isSome = true)
    (h : (t.savePending owner row).pendings.get pk = some p) :
    t.pendings.get pk = some p ∧ p.originalUser ≠ owner ∨
      p = { row with originalUser := owner } := by
  by_cases howner : p.originalUser = owner
  · have hfound : ∃ pk', (t.savePending owner row).requestOf owner =
        some (pk', { row with originalUser := owner }) := requestOf_savePending hprofile
    obtain ⟨pk', hnew⟩ := hfound
    obtain ⟨-, rfl⟩ := Prod.mk.inj (Option.some.inj ((requestOf_eq_some h howner).symm.trans hnew))
    exact Or.inr rfl
  · refine Or.inl ⟨?_, howner⟩
    cases hold : t.requestOf owner with
    | none =>
      rw [pendings_savePending_of_none hprofile hold] at h
      rcases Table.get_insert_cases h with hget | ⟨-, rfl⟩
      · exact hget
      · exact absurd rfl howner
    | some x =>
      obtain ⟨pk', p'⟩ := x
      rw [pendings_savePending_of_some hprofile hold] at h
      obtain ⟨hget', rfl⟩ := requestOf_spec hold
      rcases Table.get_modify_cases h with hget | ⟨rfl, p'', hget'', rfl⟩
      · exact hget
      · obtain rfl : p' = p'' := Option.some.inj (hget'.symm.trans hget'')
        exact absurd rfl howner

end Saved

/-! ### What is kept -/

/-- What every request and every profile satisfies. -/
structure Holds (P : PendingEditProfile → Prop) (Q : ℕ → UserProfile → Prop)
    (t : EditTables) : Prop where
  request : ∀ pk p, t.pendings.get pk = some p → P p
  profile : ∀ pk u, t.profiles.get pk = some u → Q pk u

/-- What a request satisfies passes to the profile it is approved for. -/
structure CopyRule (P : PendingEditProfile → Prop) (Q : ℕ → UserProfile → Prop) : Prop where
  page : ∀ u p, P p → Q p.originalUser u → Q p.originalUser (approvePageFields u p)
  action : ∀ u p, P p → Q p.originalUser u → Q p.originalUser (diffFields u p)

section Kept

variable {P : PendingEditProfile → Prop} {Q : ℕ → UserProfile → Prop} {t : EditTables}
  {env : EditEnv} {s : EditState} {owner : ℕ} {r : EditRequest} {v : ValidEdit}
  {row : PendingEditProfile}

/-- An approved request is gone, and its profile is what it was approved for. -/
theorem Holds.approve (h : Holds P Q t) {pk : ℕ} {user : UserProfile} (huser : Q owner user) :
    Holds P Q (t.save pk owner user) where
  request pk' p hp := h.request pk' p (Table.get_of_get_erase hp)
  profile pk' u hu := by
    rcases Table.get_modify_cases hu with hold | ⟨rfl, u', -, rfl⟩
    · exact h.profile pk' u hold
    · exact huser

theorem CopyRule.approveEditedProfile (rule : CopyRule P Q) (h : Holds P Q t) (pk : ℕ) :
    Holds P Q (t.approveEditedProfile pk) := by
  unfold EditTables.approveEditedProfile
  split
  · exact h
  · next p hp =>
    split
    · exact h
    · next u hu => exact h.approve (rule.page u p (h.request pk p hp) (h.profile _ u hu))

/-- The action loads its rows before its loop, so each is still as it was when it is copied. -/
theorem CopyRule.pendingEditsApprove (rule : CopyRule P Q) (h : Holds P Q t)
    (queryset : List ℕ) : Holds P Q (t.pendingEditsApprove queryset).1 := by
  have hloaded : ∀ row ∈ t.loadEdits queryset, Q row.2.1.originalUser
      (diffFields row.2.2 row.2.1) := by
    rintro ⟨pk, p, u⟩ hmem
    obtain ⟨-, hp, hu⟩ := EditTables.mem_loadEdits_iff.mp hmem
    exact rule.action u p (h.request pk p hp) (h.profile _ u hu)
  have hloop : ∀ (rows : List (ℕ × PendingEditProfile × UserProfile)) (acc : EditTables × ℕ),
      Holds P Q acc.1 → (∀ row ∈ rows, Q row.2.1.originalUser (diffFields row.2.2 row.2.1)) →
        Holds P Q (rows.foldl EditTables.applyEdit acc).1 := by
    intro rows
    induction rows with
    | nil => exact fun acc hacc _ => hacc
    | cons row rows ih =>
      intro acc hacc hrows
      rw [List.forall_mem_cons] at hrows
      exact ih _ (hacc.approve hrows.1) hrows.2
  exact hloop _ (t, 0) h hloaded

/-- After a save, what held of the other requests and of the profiles holds exactly if the
saved request satisfies it. -/
theorem holds_savePending_iff (hprofile : (t.profiles.get owner).isSome = true)
    (hothers : ∀ pk p, t.pendings.get pk = some p → p.originalUser ≠ owner → P p)
    (hQ : ∀ pk u, t.profiles.get pk = some u → Q pk u) :
    Holds P Q (t.savePending owner row) ↔ P { row with originalUser := owner } := by
  constructor
  · intro h
    have hfound : ∃ pk, (t.savePending owner row).requestOf owner =
        some (pk, { row with originalUser := owner }) := requestOf_savePending hprofile
    obtain ⟨pk, hnew⟩ := hfound
    exact h.request pk _ (requestOf_spec hnew).1
  · intro hrow
    refine ⟨fun pk p hp => ?_, fun pk u hu => hQ pk u (by simpa using hu)⟩
    rcases get_savePending hprofile hp with ⟨hold, hne⟩ | rfl
    · exact hothers pk p hold hne
    · exact hrow

/-- What a valid form was made of. -/
structure ValidEdit.IsOf (v : ValidEdit) (env : EditEnv) (owner : ℕ) (r : EditRequest)
    (s : EditState) : Prop where
  profile : (s.tables.profiles.get owner).isSome = true
  coach : ∀ id, v.coach = some (some id) → ∃ u, s.tables.profiles.get id = some u
  row : ∃ club, v.row =
    r.saved v.coach club (((s.tables.requestOf owner).map Prod.snd).getD (newPending owner))

theorem read_eq_ok (h : s.read env owner r = .ok v) : v.IsOf env owner r s := by
  unfold EditState.read at h
  split at h
  · cases h
  · next user huser =>
    split at h
    · next clubIds coach _ hcoach =>
      split at h
      · next club herrors hclub =>
        obtain rfl := Except.ok.inj h
        refine ⟨by rw [huser, Option.isSome_some], fun id hid => ?_, club, rfl⟩
        -- the coach is no error of the serializer
        have hnone : coachErrors env s.tables coach = [] := by
          simp only [EditRequest.errors] at herrors
          split_ifs at herrors with hfields
          · simp only [List.append_eq_nil_iff] at hfields
            exact hfields.1.1.1.2
          · exact absurd herrors hfields
        dsimp only at hid
        rw [hid, coachErrors] at hnone
        cases hget : s.tables.profiles.get id with
        | none => simp [hget] at hnone
        | some u => exact ⟨u, rfl⟩
      · cases h
    · cases h

/-- An answer before the first write changes nothing. -/
theorem post_of_error {answer : EditAnswer} (h : s.read env owner r = .error answer) :
    s.post env owner r = (answer, s) ∧ answer ≠ .selfCoach ∧ answer.isCutShort = false := by
  refine ⟨by rw [EditState.post, h], ?_⟩
  unfold EditState.read at h
  split at h
  · obtain rfl := Except.error.inj h
    exact ⟨nofun, rfl⟩
  · split at h
    · split at h
      · cases h
      · obtain rfl := Except.error.inj h
        exact ⟨nofun, rfl⟩
    · obtain rfl := Except.error.inj h
      exact ⟨nofun, rfl⟩

/-- A valid form is cut short for its coach, cut short for its clubs, or sent. -/
theorem post_of_ok (h : s.read env owner r = .ok v) :
    isSelfCoach env s.tables owner v.coach = true ∧
        s.post env owner r = (.selfCoach, s.save env owner v.row) ∨
      isSelfCoach env s.tables owner v.coach = false ∧
        (s.post env owner r = (.noClub, s.save env owner v.row) ∨
          s.post env owner r = (.sent, (s.save env owner v.row).save env owner
            (r.finished env s.tables v.coach v.clubIds v.row))) := by
  simp only [EditState.post, h]
  split_ifs with hself hclubs
  · exact Or.inl ⟨hself, rfl⟩
  · exact Or.inr ⟨Bool.eq_false_iff.mpr hself, Or.inr rfl⟩
  · exact Or.inr ⟨Bool.eq_false_iff.mpr hself, Or.inl rfl⟩

/-- The request that a valid form leaves. -/
def ValidEdit.left (v : ValidEdit) (env : EditEnv) (owner : ℕ) (r : EditRequest)
    (s : EditState) : PendingEditProfile :=
  { (if (s.post env owner r).1.isCutShort then v.row
      else r.finished env s.tables v.coach v.clubIds v.row) with
    originalUser := owner }

/-- **What held before a post holds after it** exactly if the request that it leaves satisfies
it. -/
theorem holds_post_iff (h : Holds P Q s.tables) (hread : s.read env owner r = .ok v) :
    Holds P Q (s.post env owner r).2.tables ↔ P (v.left env owner r s) := by
  have hprofile := (read_eq_ok hread).profile
  have hfirst : Holds P Q (s.save env owner v.row).tables ↔
      P { v.row with originalUser := owner } :=
    holds_savePending_iff hprofile (fun pk p hp _ => h.request pk p hp) h.profile
  rcases post_of_ok hread with ⟨-, hpost⟩ | ⟨-, hpost | hpost⟩
  · rw [ValidEdit.left, hpost]
    exact hfirst
  · rw [ValidEdit.left, hpost]
    exact hfirst
  · rw [ValidEdit.left, hpost]
    -- the second save overwrites the request of the first one
    apply holds_savePending_iff
    · simpa [EditState.save] using hprofile
    · intro pk p hp hne
      rcases get_savePending hprofile hp with ⟨hold, -⟩ | rfl
      · exact h.request pk p hold
      · exact absurd rfl hne
    · intro pk u hu
      exact h.profile pk u (by simpa [EditState.save] using hu)

/-- The request that an action leaves, if it writes one. -/
def leftBy (env : EditEnv) : EditAction → EditState → Option PendingEditProfile
  | .post owner r, s => (s.read env owner r).toOption.map fun v => v.left env owner r s
  | .approvePage _, _ | .approveAction _, _ => none

/-- **What held before an action holds after it** exactly if the request that it leaves, if any,
satisfies it. -/
theorem holds_editStep_iff (rule : CopyRule P Q) (h : Holds P Q s.tables) (a : EditAction) :
    Holds P Q (editStep env a s).tables ↔ ∀ p ∈ leftBy env a s, P p := by
  cases a with
  | approvePage pk => exact iff_of_true (rule.approveEditedProfile h pk) (by simp [leftBy])
  | approveAction queryset =>
    exact iff_of_true (rule.pendingEditsApprove h queryset) (by simp [leftBy])
  | post owner r =>
    rw [editStep, leftBy]
    cases hread : s.read env owner r with
    | error answer =>
      rw [(post_of_error hread).1]
      exact iff_of_true h (by simp [Except.toOption])
    | ok v =>
      rw [holds_post_iff h hread]
      simp [Except.toOption]

end Kept

/-! ### Nobody is their own coach -/

/-- Nobody is their own coach, nor asks to be. -/
abbrev NoSelfCoach : EditTables → Prop :=
  Holds (fun p => p.coach ≠ some p.originalUser) fun pk u => u.coach ≠ some pk

section SelfCoach

variable {env : EditEnv} {s : EditState} {owner : ℕ} {r : EditRequest} {v : ValidEdit}

theorem copyRule_noSelfCoach :
    CopyRule (fun p => p.coach ≠ some p.originalUser) fun pk u => u.coach ≠ some pk where
  page u p hp hu := by
    rw [approvePageFields]
    dsimp only
    split_ifs
    · exact hp
    · exact hu
  action u p hp _ := hp

theorem coachOf_some {t : EditTables} {id : ℕ} {u : UserProfile} (h : t.profiles.get id = some u) :
    t.coachOf (some (some id)) = some (id, u) := by
  simp [EditTables.coachOf, h]

/-- Phones are unique, so the phone of the profile is the profile. -/
theorem isSelfCoach_iff {t : EditTables} {coach : Option (Option ℕ)} :
    isSelfCoach env t owner coach = true ↔
      coach = some (some owner) ∧ (t.profiles.get owner).isSome = true := by
  rcases coach with _ | _ | id
  · exact iff_of_false Bool.false_ne_true nofun
  · exact iff_of_false Bool.false_ne_true nofun
  · cases hget : t.profiles.get id with
    | none =>
      refine iff_of_false (by simp [isSelfCoach, EditTables.coachOf, hget]) ?_
      rintro ⟨heq, hsome⟩
      cases heq
      simp [hget] at hsome
    | some u =>
      rw [isSelfCoach, coachOf_some hget, Option.any_some, decide_eq_true_iff,
        env.phone_injective.eq_iff]
      constructor
      · rintro rfl
        exact ⟨rfl, Option.isSome_of_eq_some hget⟩
      · rintro ⟨heq, -⟩
        cases heq
        rfl

/-- The coach that the serializer has written is the one that the view finds. -/
theorem finished_coach (hread : s.read env owner r = .ok v) :
    (r.finished env s.tables v.coach v.clubIds v.row).coach = v.row.coach := by
  have hof := read_eq_ok hread
  obtain ⟨club, hrow⟩ := hof.row
  rcases hcoach : v.coach with _ | _ | id
  · simp [EditRequest.finished]
  · simp [EditRequest.finished]
  · obtain ⟨u, hu⟩ := hof.coach id hcoach
    have hfound : s.tables.coachOf (some (some id)) = some (id, u) := coachOf_some hu
    rw [hrow, hcoach]
    simp [EditRequest.finished, hfound, EditRequest.saved]

/-- The serializer writes a profile as its own coach exactly if the view then refuses it. -/
theorem row_coach_ne_iff (h : NoSelfCoach s.tables) (hread : s.read env owner r = .ok v) :
    v.row.coach ≠ some owner ↔ isSelfCoach env s.tables owner v.coach = false := by
  have hof := read_eq_ok hread
  obtain ⟨club, hrow⟩ := hof.row
  rw [hrow, EditRequest.saved]
  rcases hcoach : v.coach with _ | _ | id
  · -- the coach of the earlier request, if there is one
    refine iff_of_true ?_ rfl
    cases hold : s.tables.requestOf owner with
    | none => exact nofun
    | some x =>
      obtain ⟨hget, howner⟩ := requestOf_spec hold
      simpa [howner] using h.request x.1 x.2 hget
  · exact iff_of_true nofun rfl
  · rw [← Bool.not_eq_true, isSelfCoach_iff, and_iff_left hof.profile]
    simp

theorem coach_left (hread : s.read env owner r = .ok v) :
    (v.left env owner r s).coach = v.row.coach := by
  rw [ValidEdit.left]
  dsimp only
  split_ifs
  · rfl
  · exact finished_coach hread

/-- A post answers that the coach is the profile itself exactly if it is so. -/
theorem post_eq_selfCoach_iff (hread : s.read env owner r = .ok v) :
    (s.post env owner r).1 = .selfCoach ↔ isSelfCoach env s.tables owner v.coach = true := by
  rcases post_of_ok hread with ⟨hself, hpost⟩ | ⟨hself, hpost | hpost⟩
  · rw [hpost, hself]
    exact iff_of_true rfl rfl
  · rw [hpost, hself]
    exact iff_of_false nofun nofun
  · rw [hpost, hself]
    exact iff_of_false nofun nofun

theorem noSelfCoach_editStep_iff (h : NoSelfCoach s.tables) (a : EditAction) :
    NoSelfCoach (editStep env a s).tables ↔ editAnswer env a s ≠ some .selfCoach := by
  refine (holds_editStep_iff copyRule_noSelfCoach h a).trans ?_
  cases a with
  | approvePage pk => simp [leftBy, editAnswer]
  | approveAction queryset => simp [leftBy, editAnswer]
  | post owner r =>
    rw [editAnswer, leftBy, Ne, Option.some.injEq]
    cases hread : s.read env owner r with
    | error answer =>
      rw [(post_of_error hread).1]
      exact iff_of_true (by simp [Except.toOption]) (post_of_error hread).2.1
    | ok v =>
      rw [post_eq_selfCoach_iff hread, Bool.not_eq_true, ← row_coach_ne_iff h hread,
        ← coach_left hread]
      simp [Except.toOption, ValidEdit.left]

/-- **Somebody becomes or asks to be their own coach** exactly in the runs in which the view
has refused it. -/
theorem noSelfCoach_iff_never_refused (hs : NoSelfCoach s.tables) (acts : List EditAction) :
    (∀ t ∈ visited (editStep env) s acts, NoSelfCoach t.tables) ↔
      Along (editStep env) (fun a t => editAnswer env a t ≠ some .selfCoach) s acts :=
  forall_visited_iff (I := fun t : EditState => NoSelfCoach t.tables) (J := fun _ => True)
    (fun _ _ _ => trivial) (fun a _ _ h => noSelfCoach_editStep_iff h a) trivial hs acts

/-- The refused request waits with all others, and either approval makes the profile its own
coach. -/
theorem approved_selfCoach (hrefused : (s.post env owner r).1 = .selfCoach) :
    ∃ pk p, (s.post env owner r).2.tables.requestOf owner = some (pk, p) ∧
      (((s.post env owner r).2.tables.approveEditedProfile pk).profiles.get owner).bind
          (fun u => u.coach) = some owner ∧
      (((s.post env owner r).2.tables.pendingEditsApprove [pk]).1.profiles.get owner).bind
          (fun u => u.coach) = some owner := by
  cases hread : s.read env owner r with
  | error answer =>
    obtain ⟨hpost, hne, -⟩ := post_of_error hread
    rw [hpost] at hrefused
    exact absurd hrefused hne
  | ok v =>
    have hof := read_eq_ok hread
    have hself := (post_eq_selfCoach_iff hread).mp hrefused
    obtain ⟨club, hrow⟩ := hof.row
    have hcoach : v.row.coach = some owner := by
      rw [hrow, (isSelfCoach_iff.mp hself).1]
      rfl
    rcases post_of_ok hread with ⟨-, hpost⟩ | ⟨hnot, -⟩
    · rw [hpost]
      have hfound : ∃ pk, (s.tables.savePending owner v.row).requestOf owner =
          some (pk, { v.row with originalUser := owner }) := requestOf_savePending hof.profile
      obtain ⟨pk, hnew⟩ := hfound
      obtain ⟨hget, howner⟩ := requestOf_spec hnew
      obtain ⟨u, hu⟩ := Option.isSome_iff_exists.mp hof.profile
      have hprofile : (s.save env owner v.row).tables.profiles.get owner = some u := by
        simpa [EditState.save] using hu
      refine ⟨pk, _, hnew, ?_, ?_⟩
      · have hpage := (EditTables.get_approveEditedProfile hget hprofile).1
        rw [EditState.save, hpage]
        simp [approvePageFields, hcoach]
      · have hmem : pk ∈ [pk] := List.mem_cons_self
        have haction := (EditTables.get_pendingEditsApprove hmem hget hprofile).1
        rw [EditState.save, haction]
        simp [diffFields, hcoach]
    · rw [hself] at hnot
      cases hnot

/-- A coach without students and requests. -/
def soleCoach : EditState where
  tables :=
    { profiles := Table.empty.insert { (default : UserProfile) with role := "coach", isCoach := true }
      pendings := Table.empty
      original := fun _ _ h => by cases h
      oneToOne := fun _ _ _ _ h => by cases h }
  history := []

/-- Nothing else is in the tables, and the fields of the framework accept everything. -/
def bareEnv : EditEnv where
  phone n := String.ofList (List.replicate n '1')
  phone_injective n n' h := by
    have hlength := congrArg (fun t => t.toList.length) h
    simpa using hlength
  clubs := Table.empty
  boards _ := none
  fieldErrors _ _ _ := []
  doesNotExist _ := ""
  incorrectType := ""
  strBoard _ := ""
  strProfile := toString
  strClub _ := ""
  strNames _ := ""

/-- A form with nothing but a coach and a role. -/
def coachForm (coach : String) : EditRequest where
  coach := some coach
  club := none
  selectedClubs := []
  isCoach := none
  isReferee := none
  role := some "coach"
  coachLevel := none
  coachLevelInternational := none
  coachGradeNational := none
  coachGradeIntl := none
  kyorogi := ⟨false, none, none⟩
  poomseh := ⟨false, none, none⟩
  hanmadang := ⟨false, none, none⟩
  tkdBoard := none
  address := none
  profileImage := none
  others := id

theorem soleCoach_holds {P : PendingEditProfile → Prop} {Q : ℕ → UserProfile → Prop}
    (hQ : ∀ pk, Q pk { (default : UserProfile) with role := "coach", isCoach := true }) :
    Holds P Q soleCoach.tables where
  request pk p h := by cases h
  profile pk u h := by
    rcases Table.get_insert_cases h with hold | ⟨-, rfl⟩
    · cases hold
    · exact hQ pk

theorem noSelfCoach_iff_never_refused_soleCoach :
    ¬ ∀ t ∈ visited (editStep bareEnv) soleCoach [.post 1 (coachForm "1")], NoSelfCoach t.tables := by
  have hs : NoSelfCoach soleCoach.tables := soleCoach_holds fun pk h => by cases h
  rw [noSelfCoach_iff_never_refused hs]
  decide +kernel

theorem approved_selfCoach_soleCoach :
    ∃ pk p, (soleCoach.post bareEnv 1 (coachForm "1")).2.tables.requestOf 1 = some (pk, p) ∧
      (((soleCoach.post bareEnv 1 (coachForm "1")).2.tables.approveEditedProfile pk).profiles.get
          1).bind (fun u => u.coach) = some 1 ∧
      (((soleCoach.post bareEnv 1 (coachForm "1")).2.tables.pendingEditsApprove
          [pk]).1.profiles.get 1).bind (fun u => u.coach) = some 1 :=
  approved_selfCoach (by decide +kernel)

end SelfCoach

/-! ### Roles and flags -/

/-- The role is the one that the flags say. -/
def RoleFits (f : ProfileFields) : Prop := f.role = roleOfFlags f.isCoach f.isReferee

instance (f : ProfileFields) : Decidable (RoleFits f) := inferInstanceAs (Decidable (_ = _))

/-- Every profile and every request has the role of its flags. -/
abbrev RolesFit : EditTables → Prop :=
  Holds (fun p => RoleFits p.toProfileFields) fun _ u => RoleFits u.toProfileFields

/-- A form that is cut short has sent the role of its flags. -/
def CutShortFits (env : EditEnv) : EditAction → EditState → Prop
  | .post owner r, s =>
    (s.post env owner r).1.isCutShort = true →
      ∀ v, s.read env owner r = .ok v → RoleFits v.row.toProfileFields
  | .approvePage _, _ | .approveAction _, _ => True

section Roles

variable {env : EditEnv} {s : EditState}

theorem copyRule_rolesFit :
    CopyRule (fun p => RoleFits p.toProfileFields) fun _ u => RoleFits u.toProfileFields where
  page _ _ hp _ := hp
  action _ _ hp _ := hp

/-- The view writes the role of the flags, if it comes that far. -/
theorem rolesFit_editStep_iff (h : RolesFit s.tables) (a : EditAction) :
    RolesFit (editStep env a s).tables ↔ CutShortFits env a s := by
  refine (holds_editStep_iff copyRule_rolesFit h a).trans ?_
  cases a with
  | approvePage pk => simp [leftBy, CutShortFits]
  | approveAction queryset => simp [leftBy, CutShortFits]
  | post owner r =>
    rw [leftBy, CutShortFits]
    cases hread : s.read env owner r with
    | error answer => simp [Except.toOption]
    | ok v =>
      have hleft : RoleFits (v.left env owner r s).toProfileFields ↔
          ((s.post env owner r).1.isCutShort = true → RoleFits v.row.toProfileFields) := by
        rw [ValidEdit.left]
        dsimp only
        split_ifs with hcut
        · simp [hcut]
        · simp [hcut, RoleFits, EditRequest.finished]
      simpa [Except.toOption] using hleft

end Roles

/-! ### The history -/

/-- A row for each column that is not `None`, and no old value. -/
def blindRows (env : EditEnv) (p : PendingEditProfile) : List ChangeRow :=
  (p.columns env).filterMap fun c => c.2.map fun new => ⟨p.originalUser, c.1, "ندارد", new⟩

/-- The rows that an action saves: two for a form that is sent, one for a form that is cut
short. -/
def savedBy (env : EditEnv) : EditAction → EditState → List PendingEditProfile
  | .post owner r, s =>
    match s.read env owner r with
    | .error _ => []
    | .ok v =>
      let first := { v.row with originalUser := owner }
      if (s.post env owner r).1.isCutShort then [first] else [first, v.left env owner r s]
  | .approvePage _, _ | .approveAction _, _ => []

section History

variable {env : EditEnv} {s : EditState}

/-- No column has the name that follows `original_` in an attribute. -/
theorem oldValue_eq_none {p : PendingEditProfile} {c : String × Option String}
    (hc : c ∈ p.columns env) : oldValue env p c.1 = none := by
  have hname : c.1 ∈ (p.columns env).map Prod.fst := List.mem_map_of_mem hc
  have hother : ∀ name ∈ (p.columns env).map Prod.fst,
      (["original_user", "original_user_id"].contains ("original_" ++ name)) = false := by
    simp only [PendingEditProfile.columns, List.map_cons, List.map_nil]
    decide +kernel
  have hnot := hother c.1 hname
  simp only [List.contains_cons, List.contains_nil, Bool.or_false, Bool.or_eq_false_iff] at hnot
  simp [oldValue, originalAttributes, List.lookup_cons, hnot.1, hnot.2]

theorem saveChangeHistory_eq (p : PendingEditProfile) :
    saveChangeHistory env p = blindRows env p := by
  rw [saveChangeHistory, blindRows]
  apply List.filterMap_congr
  intro c hc
  simp only [oldValue_eq_none hc]
  cases c.2 with
  | none => rfl
  | some new => rfl

theorem history_editStep (a : EditAction) (s : EditState) :
    (editStep env a s).history = s.history ++ (savedBy env a s).flatMap (blindRows env) := by
  cases a with
  | approvePage pk => simp [editStep, savedBy]
  | approveAction queryset => simp [editStep, savedBy]
  | post owner r =>
    rw [editStep, savedBy]
    cases hread : s.read env owner r with
    | error answer =>
      rw [(post_of_error hread).1]
      simp
    | ok v =>
      rcases post_of_ok hread with ⟨-, hpost⟩ | ⟨-, hpost | hpost⟩
      · simp [hpost, EditAnswer.isCutShort, EditState.save, saveChangeHistory_eq]
      · simp [hpost, EditAnswer.isCutShort, EditState.save, saveChangeHistory_eq]
      · simp [hpost, EditAnswer.isCutShort, EditState.save, saveChangeHistory_eq, ValidEdit.left]

end History

end Tkdchb.EditApproval
