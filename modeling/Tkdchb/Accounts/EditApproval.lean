import Mathlib.Data.Finset.Basic
import Tkdchb.Lib.Table

/-!
# The approval of a profile edit

A player edits a profile as a pending copy, and approval copies its fields back. The page of
one request and the action on a list of requests each have their own list of fields. The page
copies three texts that the action forgets, and the name of the coach with the coach; the
action empties a relation that the request leaves empty, and the page keeps it.

## Main definitions

* `ProfileFields`, `UserProfile`, `PendingEditProfile`, `EditTables` — the rows
* `approvePageFields`, `EditTables.approveEditedProfile` — `approve_edited_profile`
* `diffFields`, `EditTables.pendingEditsApprove` — `PendingEditsAdmin.approve`
* `SameFields` — what the request and the profile have to share

## Main results

* `approvePageFields_eq_iff` — when both lists of fields do the same
* `get_pendingEditsApprove` — what the action leaves of each profile and each request
* `edit_approvals_agree_iff` — when both ways leave the same profile
-/

namespace Tkdchb.EditApproval

/-! ### Rows -/

/-- The columns that a profile and a request have in common. -/
structure ProfileFields where
  firstName : String
  lastName : String
  fatherName : String
  birthDate : String
  gender : String
  address : String
  province : String
  county : String
  city : String
  role : String
  tkdBoard : Option ℕ
  tkdBoardName : String
  coach : Option ℕ
  coachName : String
  club : Option ℕ
  clubNames : List String
  coachingClubs : Finset ℕ
  beltGrade : String
  beltCertificateNumber : String
  beltCertificateDate : String
  isCoach : Bool
  coachLevel : Option String
  coachLevelInternational : Option String
  isReferee : Bool
  kyorogi : Bool
  kyorogiLevel : Option String
  kyorogiLevelInternational : Option String
  poomseh : Bool
  poomsehLevel : Option String
  poomsehLevelInternational : Option String
  hanmadang : Bool
  hanmadangLevel : Option String
  hanmadangLevelInternational : Option String
  confirmInfo : Bool
  deriving DecidableEq, Inhabited

structure UserProfile extends ProfileFields where
  /-- The name of the file. -/
  profileImage : String
  deriving DecidableEq, Inhabited

structure PendingEditProfile extends ProfileFields where
  originalUser : ℕ
  profileImage : Option String
  deriving DecidableEq, Inhabited

/-- Profiles and requests. Each request belongs to a profile, and a profile has one at most. -/
structure EditTables where
  profiles : Table UserProfile
  pendings : Table PendingEditProfile
  original : ∀ pk p, pendings.get pk = some p → (profiles.get p.originalUser).isSome = true
  oneToOne : ∀ pk pk' p p', pendings.get pk = some p → pendings.get pk' = some p' →
    p.originalUser = p'.originalUser → pk = pk'

/-! ### The two ways to copy -/

/-- `if pending.profile_image: user.profile_image = pending.profile_image` -/
def approvedImage (user : UserProfile) (pending : PendingEditProfile) : String :=
  match pending.profileImage with
  | some image => if image = "" then user.profileImage else image
  | none => user.profileImage

/-- The fields as `approve_edited_profile` sets them. -/
def approvePageFields (user : UserProfile) (pending : PendingEditProfile) : UserProfile where
  -- `simple_fields`
  firstName := pending.firstName
  lastName := pending.lastName
  fatherName := pending.fatherName
  birthDate := pending.birthDate
  gender := pending.gender
  address := pending.address
  province := pending.province
  county := pending.county
  city := pending.city
  beltGrade := pending.beltGrade
  beltCertificateNumber := pending.beltCertificateNumber
  beltCertificateDate := pending.beltCertificateDate
  coachLevel := pending.coachLevel
  coachLevelInternational := pending.coachLevelInternational
  kyorogi := pending.kyorogi
  kyorogiLevel := pending.kyorogiLevel
  kyorogiLevelInternational := pending.kyorogiLevelInternational
  poomseh := pending.poomseh
  poomsehLevel := pending.poomsehLevel
  poomsehLevelInternational := pending.poomsehLevelInternational
  hanmadang := pending.hanmadang
  hanmadangLevel := pending.hanmadangLevel
  hanmadangLevelInternational := pending.hanmadangLevelInternational
  isCoach := pending.isCoach
  isReferee := pending.isReferee
  tkdBoardName := pending.tkdBoardName
  clubNames := pending.clubNames
  confirmInfo := pending.confirmInfo
  role := pending.role
  -- relations that are set
  tkdBoard := if pending.tkdBoard.isSome then pending.tkdBoard else user.tkdBoard
  coach := if pending.coach.isSome then pending.coach else user.coach
  coachName := if pending.coach.isSome then pending.coachName else user.coachName
  club := if pending.club.isSome then pending.club else user.club
  profileImage := approvedImage user pending
  coachingClubs := if pending.coachingClubs = ∅ then user.coachingClubs else pending.coachingClubs

/-- The fields as `PendingEditsAdmin.approve` sets them: `DIFF_FIELDS`, the clubs of a coach and
the image. -/
def diffFields (user : UserProfile) (pending : PendingEditProfile) : UserProfile :=
  { user with
    firstName := pending.firstName
    lastName := pending.lastName
    fatherName := pending.fatherName
    birthDate := pending.birthDate
    gender := pending.gender
    province := pending.province
    county := pending.county
    city := pending.city
    address := pending.address
    role := pending.role
    isCoach := pending.isCoach
    isReferee := pending.isReferee
    coachLevel := pending.coachLevel
    coachLevelInternational := pending.coachLevelInternational
    kyorogi := pending.kyorogi
    kyorogiLevel := pending.kyorogiLevel
    kyorogiLevelInternational := pending.kyorogiLevelInternational
    poomseh := pending.poomseh
    poomsehLevel := pending.poomsehLevel
    poomsehLevelInternational := pending.poomsehLevelInternational
    hanmadang := pending.hanmadang
    hanmadangLevel := pending.hanmadangLevel
    hanmadangLevelInternational := pending.hanmadangLevelInternational
    beltGrade := pending.beltGrade
    beltCertificateNumber := pending.beltCertificateNumber
    beltCertificateDate := pending.beltCertificateDate
    tkdBoard := pending.tkdBoard
    club := pending.club
    coach := pending.coach
    coachingClubs := pending.coachingClubs
    profileImage := approvedImage user pending }

/-! ### The two ways to approve -/

namespace EditTables

/-- The profile is saved and the request deleted. -/
def save (t : EditTables) (pk owner : ℕ) (user : UserProfile) : EditTables where
  profiles := t.profiles.modify owner fun _ => user
  pendings := t.pendings.erase pk
  original pk' p h := by
    have hprofile := t.original pk' p (Table.get_of_get_erase h)
    rw [Table.get_modify]
    split_ifs
    · rwa [Option.isSome_map]
    · exact hprofile
  oneToOne pk₁ pk₂ p₁ p₂ h₁ h₂ :=
    t.oneToOne pk₁ pk₂ p₁ p₂ (Table.get_of_get_erase h₁) (Table.get_of_get_erase h₂)

/-- `approve_edited_profile` -/
def approveEditedProfile (t : EditTables) (pk : ℕ) : EditTables :=
  match t.pendings.get pk with
  | none => t
  | some pending =>
    match t.profiles.get pending.originalUser with
    | none => t
    | some user => t.save pk pending.originalUser (approvePageFields user pending)

/-- The requests of the action with their profiles, as they are loaded before its loop. -/
def loadEdits (t : EditTables) (queryset : List ℕ) : List (ℕ × PendingEditProfile × UserProfile) :=
  queryset.filterMap fun pk => do
    let pending ← t.pendings.get pk
    let user ← t.profiles.get pending.originalUser
    return (pk, pending, user)

/-- One round of the loop, which counts the requests. -/
def applyEdit : EditTables × ℕ → ℕ × PendingEditProfile × UserProfile → EditTables × ℕ
  | (t, success), (pk, pending, user) =>
    (t.save pk pending.originalUser (diffFields user pending), success + 1)

/-- `PendingEditsAdmin.approve`, with the number of requests that it reports. -/
def pendingEditsApprove (t : EditTables) (queryset : List ℕ) : EditTables × ℕ :=
  (t.loadEdits queryset).foldl applyEdit (t, 0)

end EditTables

/-! ### Where the lists of fields agree -/

/-- What the page copies and the action forgets is the same already, and a relation that the
request leaves empty is empty in the profile. -/
structure SameFields (user : UserProfile) (pending : PendingEditProfile) : Prop where
  tkdBoardName : pending.tkdBoardName = user.tkdBoardName
  clubNames : pending.clubNames = user.clubNames
  confirmInfo : pending.confirmInfo = user.confirmInfo
  tkdBoard : pending.tkdBoard = none → user.tkdBoard = none
  club : pending.club = none → user.club = none
  coach : pending.coach = none → user.coach = none
  coachName : pending.coach ≠ none → pending.coachName = user.coachName
  coachingClubs : pending.coachingClubs = ∅ → user.coachingClubs = ∅

section Fields

variable {user : UserProfile} {pending : PendingEditProfile}

/-- A relation that is kept if the request has none. -/
theorem ite_isSome_eq_iff {α : Type} {new old : Option α} :
    (if new.isSome then new else old) = new ↔ (new = none → old = none) := by
  cases new with
  | none => simp
  | some a => simp

/-- **Both lists of fields do the same** exactly then. -/
theorem approvePageFields_eq_iff :
    approvePageFields user pending = diffFields user pending ↔ SameFields user pending := by
  have hname : (if pending.coach.isSome then pending.coachName else user.coachName) =
      user.coachName ↔ (pending.coach ≠ none → pending.coachName = user.coachName) := by
    cases pending.coach with
    | none => simp
    | some coach => simp
  have hclubs : (if pending.coachingClubs = ∅ then user.coachingClubs
      else pending.coachingClubs) = pending.coachingClubs ↔
        (pending.coachingClubs = ∅ → user.coachingClubs = ∅) := by
    split_ifs with hempty
    · simp [hempty]
    · exact iff_of_true rfl fun h => absurd h hempty
  have hfields : approvePageFields user pending = diffFields user pending ↔
      (if pending.tkdBoard.isSome then pending.tkdBoard else user.tkdBoard) = pending.tkdBoard ∧
      pending.tkdBoardName = user.tkdBoardName ∧
      (if pending.coach.isSome then pending.coach else user.coach) = pending.coach ∧
      (if pending.coach.isSome then pending.coachName else user.coachName) = user.coachName ∧
      (if pending.club.isSome then pending.club else user.club) = pending.club ∧
      pending.clubNames = user.clubNames ∧
      (if pending.coachingClubs = ∅ then user.coachingClubs else pending.coachingClubs) =
        pending.coachingClubs ∧
      pending.confirmInfo = user.confirmInfo := by
    simp only [approvePageFields, diffFields, UserProfile.mk.injEq, ProfileFields.mk.injEq,
      true_and, and_true]
  rw [hfields, ite_isSome_eq_iff, ite_isSome_eq_iff, ite_isSome_eq_iff, hname, hclubs]
  constructor
  · rintro ⟨hboard, hboardName, hcoach, hcoachName, hclub, hclubNames, hcoaching, hconfirm⟩
    exact ⟨hboardName, hclubNames, hconfirm, hboard, hclub, hcoach, hcoachName, hcoaching⟩
  · rintro ⟨hboardName, hclubNames, hconfirm, hboard, hclub, hcoach, hcoachName, hcoaching⟩
    exact ⟨hboard, hboardName, hcoach, hcoachName, hclub, hclubNames, hcoaching, hconfirm⟩

end Fields

/-! ### What the action leaves -/

namespace EditTables

variable {t : EditTables} {acc : EditTables × ℕ} {queryset : List ℕ} {pk owner : ℕ}
  {pending : PendingEditProfile} {user : UserProfile}
  {row : ℕ × PendingEditProfile × UserProfile} {rows : List (ℕ × PendingEditProfile × UserProfile)}

theorem mem_loadEdits_iff :
    (pk, pending, user) ∈ t.loadEdits queryset ↔
      pk ∈ queryset ∧ t.pendings.get pk = some pending ∧
        t.profiles.get pending.originalUser = some user := by
  simp only [loadEdits, List.mem_filterMap, Option.bind_eq_bind, Option.bind_eq_some_iff,
    Option.pure_def, Option.some.injEq, Prod.mk.injEq]
  constructor
  · rintro ⟨pk', hmem, pending', hpending, user', huser, rfl, rfl, rfl⟩
    exact ⟨hmem, hpending, huser⟩
  · rintro ⟨hmem, hpending, huser⟩
    exact ⟨pk, hmem, pending, hpending, user, huser, rfl, rfl, rfl⟩

/-- A profile has one request, so the loaded rows of a profile are one row. -/
theorem eq_of_mem_loadEdits {row' : ℕ × PendingEditProfile × UserProfile}
    (h : row ∈ t.loadEdits queryset) (h' : row' ∈ t.loadEdits queryset)
    (howner : row'.2.1.originalUser = row.2.1.originalUser) : row' = row := by
  obtain ⟨pk, pending, user⟩ := row
  obtain ⟨pk', pending', user'⟩ := row'
  obtain ⟨-, hpending, huser⟩ := mem_loadEdits_iff.mp h
  obtain ⟨-, hpending', huser'⟩ := mem_loadEdits_iff.mp h'
  obtain rfl := t.oneToOne pk' pk pending' pending hpending' hpending howner
  rw [hpending] at hpending'
  obtain rfl := Option.some.inj hpending'
  rw [huser] at huser'
  obtain rfl := Option.some.inj huser'
  rfl

/-- A round leaves every other profile as it is. -/
theorem get_applyEdit_of_ne (h : row.2.1.originalUser ≠ owner) :
    (applyEdit acc row).1.profiles.get owner = acc.1.profiles.get owner :=
  Table.get_modify_of_ne h.symm

theorem get_foldl_applyEdit_of_ne (h : ∀ row ∈ rows, row.2.1.originalUser ≠ owner) :
    (rows.foldl applyEdit acc).1.profiles.get owner = acc.1.profiles.get owner := by
  induction rows generalizing acc with
  | nil => rfl
  | cons row rows ih =>
    rw [List.forall_mem_cons] at h
    rw [List.foldl_cons, ih h.2, get_applyEdit_of_ne h.1]

/-- No round takes a profile away. -/
theorem isSome_get_applyEdit (h : (acc.1.profiles.get owner).isSome = true) :
    ((applyEdit acc row).1.profiles.get owner).isSome = true := by
  by_cases howner : row.2.1.originalUser = owner
  · subst howner
    simpa [applyEdit, save] using h
  · rwa [get_applyEdit_of_ne howner]

/-- The profile of a row is saved as the row says, if its rows are all the same. -/
theorem get_foldl_applyEdit (hmem : row ∈ rows)
    (hsame : ∀ row' ∈ rows, row'.2.1.originalUser = row.2.1.originalUser → row' = row)
    (hprofile : (acc.1.profiles.get row.2.1.originalUser).isSome = true) :
    (rows.foldl applyEdit acc).1.profiles.get row.2.1.originalUser =
      some (diffFields row.2.2 row.2.1) := by
  induction rows generalizing acc with
  | nil => cases hmem
  | cons first rows ih =>
    rw [List.forall_mem_cons] at hsame
    rw [List.foldl_cons]
    by_cases hrest : row ∈ rows
    · exact ih hrest hsame.2 (isSome_get_applyEdit hprofile)
    · obtain rfl : row = first := (List.mem_cons.mp hmem).resolve_right hrest
      have hothers : ∀ row' ∈ rows, row'.2.1.originalUser ≠ row.2.1.originalUser :=
        fun row' hrow' howner => hrest (hsame.2 row' hrow' howner ▸ hrow')
      rw [get_foldl_applyEdit_of_ne hothers]
      obtain ⟨user, huser⟩ := Option.isSome_iff_exists.mp hprofile
      simp [applyEdit, save, huser]

/-- Once deleted, a request stays deleted. -/
theorem pendings_foldl_applyEdit_of_none (h : acc.1.pendings.get pk = none) :
    (rows.foldl applyEdit acc).1.pendings.get pk = none := by
  induction rows generalizing acc with
  | nil => exact h
  | cons row rows ih =>
    rw [List.foldl_cons]
    refine ih ?_
    simp only [applyEdit, save, Table.get_erase]
    split_ifs
    · rfl
    · exact h

/-- The request of a row is deleted. -/
theorem pendings_foldl_applyEdit (hmem : row ∈ rows) :
    (rows.foldl applyEdit acc).1.pendings.get row.1 = none := by
  induction rows generalizing acc with
  | nil => cases hmem
  | cons first rows ih =>
    rw [List.foldl_cons]
    rcases List.mem_cons.mp hmem with rfl | hrest
    · exact pendings_foldl_applyEdit_of_none Table.get_erase_self
    · exact ih hrest

/-- **What the action leaves**: each profile with the fields of its request, and no request. -/
theorem get_pendingEditsApprove (hpk : pk ∈ queryset) (hpending : t.pendings.get pk = some pending)
    (huser : t.profiles.get pending.originalUser = some user) :
    (t.pendingEditsApprove queryset).1.profiles.get pending.originalUser =
        some (diffFields user pending) ∧
      (t.pendingEditsApprove queryset).1.pendings.get pk = none := by
  have hmem : (pk, pending, user) ∈ t.loadEdits queryset :=
    mem_loadEdits_iff.mpr ⟨hpk, hpending, huser⟩
  refine ⟨?_, pendings_foldl_applyEdit hmem⟩
  exact get_foldl_applyEdit hmem (fun row' hrow' => eq_of_mem_loadEdits hmem hrow')
    (by rw [huser]; rfl)

/-- What the page leaves. -/
theorem get_approveEditedProfile (hpending : t.pendings.get pk = some pending)
    (huser : t.profiles.get pending.originalUser = some user) :
    (t.approveEditedProfile pk).profiles.get pending.originalUser =
        some (approvePageFields user pending) ∧
      (t.approveEditedProfile pk).pendings.get pk = none := by
  have hpage : t.approveEditedProfile pk =
      t.save pk pending.originalUser (approvePageFields user pending) := by
    simp only [approveEditedProfile, hpending, huser]
  rw [hpage]
  exact ⟨by simp [save, huser], Table.get_erase_self⟩

end EditTables

/-- **Both ways leave the same profile and no request** exactly if the request and the profile
share what only one of them copies. -/
theorem edit_approvals_agree_iff {t : EditTables} {queryset : List ℕ} {pk : ℕ}
    {pending : PendingEditProfile} {user : UserProfile} (hpk : pk ∈ queryset)
    (hpending : t.pendings.get pk = some pending)
    (huser : t.profiles.get pending.originalUser = some user) :
    ((t.approveEditedProfile pk).profiles.get pending.originalUser =
        (t.pendingEditsApprove queryset).1.profiles.get pending.originalUser ∧
      (t.approveEditedProfile pk).pendings.get pk = none ∧
      (t.pendingEditsApprove queryset).1.pendings.get pk = none) ↔ SameFields user pending := by
  obtain ⟨haction, hdeleted⟩ := EditTables.get_pendingEditsApprove hpk hpending huser
  obtain ⟨hpage, hdeleted'⟩ := EditTables.get_approveEditedProfile hpending huser
  rw [haction, hpage, Option.some.injEq, approvePageFields_eq_iff]
  exact and_iff_left ⟨hdeleted', hdeleted⟩

/-- A profile with its request. -/
def oneRequest (user : UserProfile) (pending : PendingEditProfile)
    (howner : pending.originalUser = 1) : EditTables where
  profiles := Table.empty.insert user
  pendings := Table.empty.insert pending
  original pk p h := by
    rw [Table.get_insert] at h
    split_ifs at h
    · rw [← Option.some.inj h, howner]
      rfl
    · cases h
  oneToOne pk pk' p p' h h' _ := by
    rw [Table.get_insert] at h h'
    split_ifs at h h' with hpk hpk'
    · rw [hpk, hpk']
    · cases h'
    · cases h
    · cases h

/-- A player of a club. -/
def clubPlayer : UserProfile :=
  { (default : UserProfile) with
    firstName := "علی", role := "player", club := some 2, clubNames := ["پارس"], coach := some 4
    coachName := "رضا", profileImage := "ali.jpg" }

/-- Only the address is new. -/
def addressEdit : PendingEditProfile :=
  { clubPlayer with address := "بوشهر", originalUser := 1, profileImage := none }

theorem edit_approvals_agree_iff_address :
    (((oneRequest clubPlayer addressEdit rfl).approveEditedProfile 1).profiles.get
          addressEdit.originalUser =
        ((oneRequest clubPlayer addressEdit rfl).pendingEditsApprove [1]).1.profiles.get
          addressEdit.originalUser ∧
      ((oneRequest clubPlayer addressEdit rfl).approveEditedProfile 1).pendings.get 1 = none ∧
      ((oneRequest clubPlayer addressEdit rfl).pendingEditsApprove [1]).1.pendings.get 1 = none) ↔
      SameFields clubPlayer addressEdit :=
  edit_approvals_agree_iff List.mem_cons_self rfl rfl

/-- The player goes to another club and leaves the coach. -/
def clubEdit : PendingEditProfile :=
  { clubPlayer with
    club := some 3, clubNames := ["نور"], coach := none, coachName := "", originalUser := 1
    profileImage := none }

/-- The page changes the names of the clubs and keeps the coach; the action does the opposite. -/
theorem other_club_differs :
    ((oneRequest clubPlayer clubEdit rfl).approveEditedProfile 1).profiles.get 1 ≠
        ((oneRequest clubPlayer clubEdit rfl).pendingEditsApprove [1]).1.profiles.get 1 ∧
      (((oneRequest clubPlayer clubEdit rfl).approveEditedProfile 1).profiles.get 1).map
          (fun u => (u.club, u.clubNames, u.coach)) = some (some 3, ["نور"], some 4) ∧
      (((oneRequest clubPlayer clubEdit rfl).pendingEditsApprove [1]).1.profiles.get 1).map
        (fun u => (u.club, u.clubNames, u.coach)) = some (some 3, ["پارس"], none) := by
  decide +kernel

end Tkdchb.EditApproval
