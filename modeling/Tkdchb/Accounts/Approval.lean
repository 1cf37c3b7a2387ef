import Tkdchb.Accounts.Login
import Tkdchb.Accounts.Registration

/-!
# Approval, and the first login

An application is approved by an action of the admin site or by a view. Both make a user
whose name is the phone and whose password is the national code, each with its own
translation of the digits: the action translates the phone from both scripts and the code
from Persian only, the view of clubs translates nothing. The login translates both.

## Main definitions

* `normalizePhone`, `AccountTables.getOrCreateAuthUserByPhone` — the helpers of the action
* `approvePerson`, `approveClub` — the two ways to approve
* `Application`, `LoginRequest.IsOf` — what was entered, and a login with it
* `DigitsFit` — the digits that approval can cope with

## Main results

* `users_approve` — the user that approval makes
* `approved_can_log_in_iff` — who can log in
-/

namespace Tkdchb.Accounts

/-- `_fa2en` -/
def fa2en (s : String) : String := faDigits.translate s

/-- `normalize_phone` -/
def normalizePhone (raw : String) : String :=
  let digits := (faToEnDigits.translate raw).toList.filter Text.isDecimal
  if "98".toList.isPrefixOf digits && digits.length == 12 then
    String.ofList ('0' :: digits.drop 2)
  else if digits.length == 10 && ['9'].isPrefixOf digits then String.ofList ('0' :: digits)
  else String.ofList (digits.take 11)

namespace AccountTables

/-- `get_or_create_auth_user_by_phone` -/
def getOrCreateAuthUserByPhone (t : AccountTables) (phone nationalCode : String) :
    AccountTables × ℕ :=
  let phone := normalizePhone phone
  let code := if nationalCode = "" then "" else Text.strip (fa2en nationalCode)
  let password := if code = "" then none else some code
  match t.users.oldest fun u => u.username = phone with
  | none => ({ t with users := t.users.insert ⟨phone, password, true⟩ }, t.users.next)
  | some (id, _) =>
    -- a user without a password gets one
    ({ t with users := t.users.modify id fun u => { u with password := u.password.or password } },
      id)

/-- `UserProfile.objects.create`; `none` is an `IntegrityError`. -/
def createProfile (t : AccountTables) (p : UserProfile) : Option AccountTables :=
  let clashes (q : UserProfile) : Bool :=
    q.nationalCode = p.nationalCode || q.phone = p.phone || (q.user.isSome && q.user = p.user)
  if (t.profiles.oldest clashes).isSome then none
  else some { t with profiles := t.profiles.insert p }

/-- `TkdClub.objects.create`; `none` is an `IntegrityError`. -/
def createClub (t : AccountTables) (c : TkdClub) : Option AccountTables :=
  let clashes (d : TkdClub) : Bool :=
    (d.clubName = c.clubName && d.city = c.city) || (d.user.isSome && d.user = c.user)
  if (t.clubs.oldest clashes).isSome then none else some { t with clubs := t.clubs.insert c }

end AccountTables

inductive ApprovalPath where
  | adminAction
  | approveView
  deriving DecidableEq, Repr

/-- The approval of a player, a coach or a referee, and whether it went through. What raises
is rolled back. -/
def approvePerson (path : ApprovalPath) (t : AccountTables) (pk : ℕ) : AccountTables × Bool :=
  match t.pendingProfiles.get pk with
  | none => (t, false)
  | some pending =>
    match path with
    | .adminAction =>
      let (t', user) := t.getOrCreateAuthUserByPhone pending.phone pending.nationalCode
      match t'.createProfile
          ⟨some user, normalizePhone pending.phone, pending.nationalCode, pending.role⟩ with
      | none => (t, false)
      | some t' => ({ t' with pendingProfiles := t'.pendingProfiles.erase pk }, true)
    | .approveView =>
      let code := pending.nationalCode
      if code ≠ "" ∧ (t.profiles.oldest fun p => p.nationalCode = code).isSome then (t, false)
      else
        let username := Text.strip pending.phone
        let rawPass := viewsNormalizeDigits code
        let password := if rawPass = "" then none else some rawPass
        let (users, user) :=
          match t.users.oldest fun u => u.username = username with
          | none => (t.users.insert ⟨username, password, true⟩, t.users.next)
          | some (id, _) => (t.users.modify id fun u => { u with password }, id)
        match { t with users }.createProfile ⟨some user, pending.phone, code, pending.role⟩ with
        | none => (t, false)
        | some t' => ({ t' with pendingProfiles := t'.pendingProfiles.erase pk }, true)

/-- The approval of a club. The action reports what raises and goes on, so that a new user
stays. -/
def approveClub (path : ApprovalPath) (t : AccountTables) (pk : ℕ) : AccountTables × Bool :=
  match t.pendingClubs.get pk with
  | none => (t, false)
  | some pending =>
    match path with
    | .adminAction =>
      let rawPhone := Text.orElse pending.founderPhone pending.phone
      if rawPhone = "" then (t, false)
      else
        let phone := normalizePhone rawPhone
        let (t', user) := t.getOrCreateAuthUserByPhone phone pending.founderNationalCode
        match t'.createClub
            { user := some user
              clubName := pending.clubName
              city := pending.city
              founderPhone := phone
              founderNationalCode := pending.founderNationalCode
              licenseNumber := pending.licenseNumber
              federationId := pending.federationId } with
        | none => (t', false)
        | some t' => ({ t' with pendingClubs := t'.pendingClubs.erase pk }, true)
    | .approveView =>
      let name := Text.strip pending.clubName
      let city := Text.strip pending.city
      let known := t.clubs.oldest fun c => iexact c.clubName name && iexact c.city city
      if name ≠ "" ∧ city ≠ "" ∧ known.isSome then (t, false)
      else
        let code := pending.founderNationalCode
        let password := if Text.allDigits code then some code else none
        let (users, user) :=
          match t.users.oldest fun u => u.username = pending.founderPhone with
          | none => (t.users.insert ⟨pending.founderPhone, password, true⟩, t.users.next)
          | some (id, _) => (t.users, id)
        match { t with users }.createClub
            { user := some user
              clubName := name
              city := city
              founderPhone := pending.founderPhone
              founderNationalCode := code
              licenseNumber := pending.licenseNumber
              federationId := pending.federationId } with
        | none => (t, false)
        | some t' => ({ t' with pendingClubs := t'.pendingClubs.erase pk }, true)

/-! ### Who can log in -/

/-- What was entered. -/
inductive Application where
  | person (form : PersonForm)
  | club (form : ClubForm)

namespace Application

def phone : Application → String
  | .person form => form.phone
  | .club form => form.founderPhone

def nationalCode : Application → String
  | .person form => form.nationalCode
  | .club form => form.founderNationalCode

/-- The serializer accepted it, and it waits in the table. -/
def Waits (t₀ t : AccountTables) (pk : ℕ) : Application → Prop
  | .person form => ∃ row, pendingPersonSerializer t₀ form = some row ∧
      t.pendingProfiles.get pk = some row
  | .club form => ∃ row, pendingClubSerializer t₀ form = some row ∧
      t.pendingClubs.get pk = some row

def approve (path : ApprovalPath) (t : AccountTables) (pk : ℕ) :
    Application → AccountTables × Bool
  | .person _ => approvePerson path t pk
  | .club _ => approveClub path t pk

/-- A mobile number and a national code, in Persian, Arabic and Latin digits. -/
def Valid (app : Application) : Prop :=
  (LatinDigits (normalizeDigits app.phone) ∧ isMobile (normalizeDigits app.phone) = true) ∧
    LatinDigits (normalizeDigits app.nationalCode) ∧
    isNumberOf 10 (normalizeDigits app.nationalCode) = true

end Application

/-- The text has a digit of the script. -/
def HasDigitOf (z : ℕ) (s : String) : Prop := ∃ c ∈ s.toList, Digits.InScript z c

instance (z : ℕ) (s : String) : Decidable (HasDigitOf z s) :=
  decidable_of_iff (s.toList.any (Digits.InScript z ·) = true) (by simp [HasDigitOf])

/-- The approval of a club copes with these digits: the action with all but Arabic ones in
the national code, the view with Latin ones. -/
def DigitsFit : ApprovalPath → Application → Prop
  | _, .person _ => True
  | .adminAction, .club form => ¬ HasDigitOf 0x660 form.founderNationalCode
  | .approveView, .club form =>
    ∀ z ∈ faToEnDigits.zeros,
      ¬ HasDigitOf z form.founderPhone ∧ ¬ HasDigitOf z form.founderNationalCode

/-- A login with the phone and the national code, in any digits, on one of the forms. -/
structure LoginRequest.IsOf (r : LoginRequest) (app : Application) : Prop where
  username : r.normalizedName = normalizeDigits app.phone
  password : viewsNormalizeDigits r.password = normalizeDigits app.nationalCode
  group : (roleGroups r.group).isSome = true

/-- The user that the approval of an application makes. -/
def newUser : ApprovalPath → Application → User
  | _, .person form =>
    ⟨normalizeDigits form.phone, some (normalizeDigits form.nationalCode), true⟩
  | .adminAction, .club form =>
    ⟨normalizeDigits form.founderPhone, some (fa2en (Text.strip form.founderNationalCode)), true⟩
  | .approveView, .club form =>
    ⟨Text.strip form.founderPhone, some (Text.strip form.founderNationalCode), true⟩

section Digits

variable {s : String}

theorem LatinDigits.viewsNormalizeDigits (h : LatinDigits s) : viewsNormalizeDigits s = s := by
  rw [← normalizeDigits_eq, h.normalizeDigits]

/-- `normalize_phone` only translates a mobile number. -/
theorem normalizePhone_of_mobile (hlatin : LatinDigits (faToEnDigits.translate s))
    (hmobile : isMobile (faToEnDigits.translate s) = true) :
    normalizePhone s = faToEnDigits.translate s := by
  simp only [isMobile, Bool.and_eq_true, beq_iff_eq] at hmobile
  obtain ⟨⟨-, hprefix⟩, hlen⟩ := hmobile
  have hall : (faToEnDigits.translate s).toList.filter Text.isDecimal =
      (faToEnDigits.translate s).toList :=
    List.filter_eq_self.mpr fun c hc => Text.isDecimal_of_isDigit (hlatin c hc)
  have hzero : "98".toList.isPrefixOf (faToEnDigits.translate s).toList = false := by
    obtain ⟨rest, hrest⟩ := List.isPrefixOf_iff_prefix.mp hprefix
    rw [← hrest]
    rfl
  have hten : ((faToEnDigits.translate s).toList.length == 10) = false := by rw [hlen]; rfl
  simp only [normalizePhone, hall, hzero, hten, Bool.false_and, Bool.false_eq_true, if_false]
  rw [List.take_of_length_le hlen.le, String.ofList_toList]

/-- No digit is a blank, so trimming keeps them all. -/
theorem hasDigitOf_strip_iff {z : ℕ} (hz : z ∈ faToEnDigits.zeros) :
    HasDigitOf z (Text.strip s) ↔ HasDigitOf z s := by
  have hdigit : ∀ c, Digits.InScript z c → Text.isSpace c = false := by
    intro c hc
    rw [← Digits.Scripts.isSpace_toLatin notBlank_faToEnDigits c,
      Digits.Scripts.toLatin_of_inScript hz hc]
    have hlt : c.toNat - z < 10 := Nat.sub_lt_left_of_lt_add hc.1 hc.2
    have hall : ∀ n < 10, Text.isSpace (Nat.digitChar n) = false := by decide
    exact hall _ hlt
  constructor
  · rintro ⟨c, hc, hin⟩
    exact ⟨c, (Text.mem_strip_iff (hdigit c hin)).mp hc, hin⟩
  · rintro ⟨c, hc, hin⟩
    exact ⟨c, (Text.mem_strip_iff (hdigit c hin)).mpr hc, hin⟩

/-- A text is in Latin digits already exactly if it has none of the others. -/
theorem strip_eq_normalizeDigits_iff :
    Text.strip s = normalizeDigits s ↔ ∀ z ∈ faToEnDigits.zeros, ¬ HasDigitOf z s := by
  rw [normalizeDigits_eq, viewsNormalizeDigits, eq_comm, Digits.Scripts.translate_eq_self_iff]
  constructor
  · intro h z hz hdigit
    obtain ⟨c, hc, hin⟩ := (hasDigitOf_strip_iff hz).mpr hdigit
    exact h c hc z hz hin
  · intro h c hc z hz hin
    exact h z hz ((hasDigitOf_strip_iff hz).mp ⟨c, hc, hin⟩)

/-- `_fa2en` is enough exactly if there is no Arabic digit. -/
theorem fa2en_strip_eq_iff :
    fa2en (Text.strip s) = normalizeDigits s ↔ ¬ HasDigitOf 0x660 s := by
  have hsub : faDigits.zeros ⊆ faToEnDigits.zeros := by decide
  have harabic : 0x660 ∈ faToEnDigits.zeros := by decide
  rw [normalizeDigits_eq, viewsNormalizeDigits, fa2en,
    Digits.Scripts.translate_eq_translate_iff hsub]
  constructor
  · intro h hdigit
    obtain ⟨c, hc, hin⟩ := (hasDigitOf_strip_iff harabic).mpr hdigit
    exact absurd (h c hc 0x660 harabic hin) (by decide)
  · intro h c hc z hz hin
    rcases List.mem_cons.mp hz with rfl | hz
    · exact List.mem_cons_self
    · obtain rfl := List.mem_singleton.mp hz
      exact absurd ((hasDigitOf_strip_iff harabic).mp ⟨c, hc, hin⟩) h

theorem notBlank_faDigits : faDigits.NotBlank := by decide +kernel

theorem translate_eq_empty {S : Digits.Scripts} (h : S.translate s = "") : s = "" := by
  rw [← String.toList_inj, Digits.Scripts.toList_translate] at h
  rw [← String.toList_inj]
  exact List.map_eq_nil_iff.mp h

theorem ne_empty_of_isMobile (h : isMobile s = true) : s ≠ "" := by
  rintro rfl
  revert h
  decide

theorem ne_empty_of_isNumberOf (h : isNumberOf 10 s = true) : s ≠ "" := by
  rintro rfl
  revert h
  decide

/-- What is translated to Latin digits consists of digits. -/
theorem allDigits_of_translate (h : LatinDigits (faToEnDigits.translate s)) (hne : s ≠ "") :
    Text.allDigits s = true := by
  have hchar : ∀ c ∈ s.toList, Text.isDecimal c = true := by
    intro c hc
    by_cases hscript : ∃ z ∈ faToEnDigits.zeros, Digits.InScript z c
    · obtain ⟨z, hz, hin⟩ := hscript
      have hknown : faToEnDigits.zeros ⊆ Text.decimalZeros := by decide
      rw [Text.isDecimal, Text.digitValue?, List.findSome?_isSome_iff]
      exact ⟨z, hknown hz, by rw [if_pos ⟨hin.1, hin.2⟩, Option.isSome_some]⟩
    · have hsame : faToEnDigits.toLatin c = c :=
        Digits.Scripts.toLatin_of_forall_not fun z hz hin => hscript ⟨z, hz, hin⟩
      apply Text.isDecimal_of_isDigit
      apply h
      rw [Digits.Scripts.toList_translate, ← hsame]
      exact List.mem_map_of_mem hc
  rw [Text.allDigits, Bool.and_eq_true]
  constructor
  · rw [Bool.not_eq_true', List.isEmpty_eq_false_iff]
    exact fun hnil => hne (String.toList_inj.mp hnil)
  · exact List.all_eq_true.mpr fun c hc => by rw [Text.isDigit, hchar c hc, Bool.true_or]

end Digits

section Users

variable {t t' : AccountTables} {pk : ℕ} {phone code : String}

theorem users_createProfile {p : UserProfile} (h : t.createProfile p = some t') :
    t'.users = t.users := by
  unfold AccountTables.createProfile at h
  dsimp only at h
  split_ifs at h
  rw [← Option.some.inj h]

theorem users_createClub {c : TkdClub} (h : t.createClub c = some t') : t'.users = t.users := by
  unfold AccountTables.createClub at h
  dsimp only at h
  split_ifs at h
  rw [← Option.some.inj h]

/-- The phone has no user, however its digits are written. -/
def NoUser (t : AccountTables) (phone : String) : Prop :=
  ∀ k u, t.users.get k = some u → viewsNormalizeDigits u.username ≠ phone

theorem NoUser.oldest (h : NoUser t phone) {username : String}
    (hname : viewsNormalizeDigits username = phone) :
    (t.users.oldest fun u => u.username = username) = none := by
  refine Table.oldest_eq_none_iff.mpr fun k u hu => decide_eq_false fun heq => ?_
  exact h k u hu (heq ▸ hname)

/-- The helper makes a user where there is none. -/
theorem users_getOrCreate
    (hnew : (t.users.oldest fun u => u.username = normalizePhone phone) = none)
    (hcode : code ≠ "") (hstrip : Text.strip (fa2en code) ≠ "") :
    (t.getOrCreateAuthUserByPhone phone code).1.users =
      t.users.insert ⟨normalizePhone phone, some (Text.strip (fa2en code)), true⟩ := by
  simp only [AccountTables.getOrCreateAuthUserByPhone, hnew, hcode, hstrip, if_false]

/-- The approval of a person makes a user, both names in Latin digits. -/
theorem users_approvePerson {row : PendingUserProfile} {path : ApprovalPath}
    (hrow : t.pendingProfiles.get pk = some row) (hphone : LatinDigits row.phone)
    (hmobile : isMobile row.phone = true) (hcode : LatinDigits row.nationalCode)
    (hne : row.nationalCode ≠ "") (hnew : NoUser t row.phone)
    (happrove : approvePerson path t pk = (t', true)) :
    t'.users = t.users.insert ⟨row.phone, some row.nationalCode, true⟩ := by
  have hfree := hnew.oldest hphone.viewsNormalizeDigits
  unfold approvePerson at happrove
  rw [hrow] at happrove
  cases path with
  | adminAction =>
    -- the admin action normalizes both columns again, which changes nothing
    have hlatin : faToEnDigits.translate row.phone = row.phone := hphone.translate _
    have hname : normalizePhone row.phone = row.phone := by
      rw [normalizePhone_of_mobile (hlatin.symm ▸ hphone) (hlatin.symm ▸ hmobile), hlatin]
    have hpassword : Text.strip (fa2en row.nationalCode) = row.nationalCode := by
      rw [fa2en, hcode.translate, hcode.strip]
    have husers := users_getOrCreate (t := t) (hname.symm ▸ hfree) hne (hpassword.symm ▸ hne)
    rw [hname, hpassword] at husers
    dsimp only at happrove
    split at happrove
    · cases happrove
    · next t'' hcreate =>
      rw [← (Prod.mk.inj happrove).1]
      exact (users_createProfile hcreate).trans husers
  | approveView =>
    simp only [hphone.strip, hcode.viewsNormalizeDigits, if_neg hne, hfree] at happrove
    split_ifs at happrove
    · cases happrove
    · split at happrove
      · cases happrove
      · next t'' hcreate =>
        rw [← (Prod.mk.inj happrove).1]
        exact users_createProfile hcreate

/-- The action makes a user for a club, whose password has only its Persian digits
translated. -/
theorem users_approveClub_adminAction {row : PendingClub}
    (hrow : t.pendingClubs.get pk = some row)
    (hphone : LatinDigits (faToEnDigits.translate row.founderPhone))
    (hmobile : isMobile (faToEnDigits.translate row.founderPhone) = true)
    (hcode : LatinDigits (faToEnDigits.translate row.founderNationalCode))
    (hne : row.founderPhone ≠ "" ∧ row.founderNationalCode ≠ "")
    (hnew : NoUser t (faToEnDigits.translate row.founderPhone))
    (happrove : approveClub .adminAction t pk = (t', true)) :
    t'.users = t.users.insert
      ⟨faToEnDigits.translate row.founderPhone, some (fa2en row.founderNationalCode), true⟩ := by
  have hname : normalizePhone row.founderPhone = faToEnDigits.translate row.founderPhone :=
    normalizePhone_of_mobile hphone hmobile
  have hlatin := hphone.translate faToEnDigits
  have hname' : normalizePhone (faToEnDigits.translate row.founderPhone) =
      faToEnDigits.translate row.founderPhone := by
    rw [normalizePhone_of_mobile (hlatin.symm ▸ hphone) (hlatin.symm ▸ hmobile), hlatin]
  have hpassword : Text.strip (fa2en row.founderNationalCode) = fa2en row.founderNationalCode := by
    rw [fa2en, Digits.Scripts.strip_translate notBlank_faDigits,
      hcode.strip_of_translate notBlank_faToEnDigits]
  have hne' : fa2en row.founderNationalCode ≠ "" := fun h => hne.2 (translate_eq_empty h)
  have husers := users_getOrCreate (t := t) (hname'.symm ▸ hnew.oldest hphone.viewsNormalizeDigits)
    hne.2 (hpassword.symm ▸ hne')
  rw [hname', hpassword] at husers
  have hraw : Text.orElse row.founderPhone row.phone = row.founderPhone := if_neg hne.1
  unfold approveClub at happrove
  simp only [hrow, hraw, hne.1, if_false, hname] at happrove
  split at happrove
  · cases happrove
  · next t'' hcreate =>
    rw [← (Prod.mk.inj happrove).1]
    exact (users_createClub hcreate).trans husers

/-- The view makes a user for a club with the digits as they are. -/
theorem users_approveClub_approveView {row : PendingClub}
    (hrow : t.pendingClubs.get pk = some row)
    (hphone : LatinDigits (faToEnDigits.translate row.founderPhone))
    (hcode : LatinDigits (faToEnDigits.translate row.founderNationalCode))
    (hne : row.founderNationalCode ≠ "")
    (hnew : NoUser t (faToEnDigits.translate row.founderPhone))
    (happrove : approveClub .approveView t pk = (t', true)) :
    t'.users = t.users.insert ⟨row.founderPhone, some row.founderNationalCode, true⟩ := by
  have hviews : viewsNormalizeDigits row.founderPhone =
      faToEnDigits.translate row.founderPhone := by
    rw [viewsNormalizeDigits, hphone.strip_of_translate notBlank_faToEnDigits]
  unfold approveClub at happrove
  simp only [hrow, hnew.oldest hviews, allDigits_of_translate hcode hne, if_true] at happrove
  split_ifs at happrove
  · cases happrove
  · split at happrove
    · cases happrove
    · next t'' hcreate =>
      rw [← (Prod.mk.inj happrove).1]
      exact users_createClub hcreate

/-- **The user that approval makes.** -/
theorem users_approve {t₀ : AccountTables} {path : ApprovalPath} {app : Application}
    (hvalid : app.Valid) (hwaits : app.Waits t₀ t pk)
    (hnew : NoUser t (normalizeDigits app.phone))
    (happrove : app.approve path t pk = (t', true)) :
    t'.users = t.users.insert (newUser path app) := by
  obtain ⟨⟨hphone, hmobile⟩, hcode, hten⟩ := hvalid
  cases app with
  | person form =>
    obtain ⟨row, haccept, hrow⟩ := hwaits
    obtain ⟨hphone', hcode'⟩ := pendingPerson_stored haccept hphone hcode
    have husers := users_approvePerson hrow (hphone' ▸ hphone) (hphone' ▸ hmobile)
      (hcode' ▸ hcode) (hcode' ▸ ne_empty_of_isNumberOf hten) (hphone' ▸ hnew) happrove
    rw [husers, hphone', hcode', newUser]
  | club form =>
    obtain ⟨row, haccept, hrow⟩ := hwaits
    obtain ⟨hphone', hcode'⟩ := pendingClub_stored haccept
    -- the columns of a pending club hold the text as it came, with its digits
    have htranslate : faToEnDigits.translate row.founderPhone =
        normalizeDigits form.founderPhone := by
      rw [hphone', normalizeDigits_eq, viewsNormalizeDigits]
    have htranslate' : faToEnDigits.translate row.founderNationalCode =
        normalizeDigits form.founderNationalCode := by
      rw [hcode', normalizeDigits_eq, viewsNormalizeDigits]
    have hne : row.founderPhone ≠ "" := by
      intro hempty
      rw [hempty] at htranslate
      exact ne_empty_of_isMobile hmobile htranslate.symm
    have hne' : row.founderNationalCode ≠ "" := by
      intro hempty
      rw [hempty] at htranslate'
      exact ne_empty_of_isNumberOf hten htranslate'.symm
    cases path with
    | adminAction =>
      have husers := users_approveClub_adminAction hrow (htranslate.symm ▸ hphone)
        (htranslate.symm ▸ hmobile) (htranslate'.symm ▸ hcode) ⟨hne, hne'⟩
        (htranslate.symm ▸ hnew) happrove
      rw [husers, htranslate, hcode', newUser]
    | approveView =>
      have husers := users_approveClub_approveView hrow (htranslate.symm ▸ hphone)
        (htranslate'.symm ▸ hcode) hne' (htranslate.symm ▸ hnew) happrove
      rw [husers, hphone', hcode', newUser]

end Users

theorem isActive_newUser (path : ApprovalPath) (app : Application) :
    (newUser path app).isActive = true := by
  cases app with
  | person form => cases path with
    | adminAction => rfl
    | approveView => rfl
  | club form => cases path with
    | adminAction => rfl
    | approveView => rfl

/-- The new user has the name and the password that the login looks for exactly if approval
copes with the digits. -/
theorem newUser_matches_iff (path : ApprovalPath) (app : Application) :
    (newUser path app).username = normalizeDigits app.phone ∧
        (newUser path app).password = some (normalizeDigits app.nationalCode) ↔
      DigitsFit path app := by
  cases app with
  | person form =>
    cases path with
    | adminAction => exact iff_of_true ⟨rfl, rfl⟩ trivial
    | approveView => exact iff_of_true ⟨rfl, rfl⟩ trivial
  | club form =>
    cases path with
    | adminAction =>
      rw [newUser, DigitsFit, ← fa2en_strip_eq_iff, Option.some.injEq]
      exact and_iff_right rfl
    | approveView =>
      rw [newUser, DigitsFit, Option.some.injEq, forall₂_and, ← strip_eq_normalizeDigits_iff,
        ← strip_eq_normalizeDigits_iff]
      rfl

/-- A login with what was entered. -/
def enteredLogin (app : Application) : LoginRequest where
  username := app.phone
  identifier := ""
  password := app.nationalCode
  otp := ""
  roleHeader := "club"
  roleGroup := ""
  roleQuery := ""

theorem isOf_enteredLogin (app : Application) : (enteredLogin app).IsOf app where
  username := by
    have hname : Text.orElse app.phone "" = app.phone := by
      rw [Text.orElse]
      split_ifs with hempty
      · exact hempty.symm
      · rfl
    rw [normalizeDigits_eq]
    exact congrArg viewsNormalizeDigits hname
  password := by
    rw [normalizeDigits_eq]
    rfl
  group := by
    have hclub : Text.lower (Text.strip (Text.orElse (Text.orElse "club" "") "")) = "club" := by
      decide +kernel
    rw [LoginRequest.group, enteredLogin, hclub]
    rfl

/-- **Approved applicants can log in** exactly if approval copes with the digits: always as
players, coaches and referees; as clubs, after the action without Arabic digits in the
national code, and after the view with Latin digits in the phone and the national code. -/
theorem approved_can_log_in_iff (t₀ t t' : AccountTables) (path : ApprovalPath)
    (app : Application) (pk : ℕ) (hvalid : app.Valid) (hwaits : app.Waits t₀ t pk)
    (hnew : NoUser t (normalizeDigits app.phone))
    (happrove : app.approve path t pk = (t', true)) :
    (∀ r : LoginRequest, r.IsOf app → passesAuthentication (universalLogin t' r) = true) ↔
      DigitsFit path app := by
  have husers := users_approve hvalid hwaits hnew happrove
  obtain ⟨⟨hphone, hmobile⟩, hcode, hten⟩ := hvalid
  have hname := ne_empty_of_isMobile hmobile
  have hpassword := ne_empty_of_isNumberOf hten
  have hothers : ∀ k v, t.users.get k = some v → v.username ≠ normalizeDigits app.phone := by
    intro k v hv heq
    apply hnew k v hv
    rw [heq, hphone.viewsNormalizeDigits]
  have hactive := isActive_newUser path app
  have hlogin : ∀ r : LoginRequest, r.IsOf app →
      (passesAuthentication (universalLogin t' r) = true ↔ DigitsFit path app) := by
    intro r hr
    rw [passesAuthentication_universalLogin hr.username hr.password hname hpassword hr.group,
      authenticate_insert_isSome_iff husers hactive hothers, newUser_matches_iff]
  have hentered := isOf_enteredLogin app
  exact ⟨fun h => (hlogin _ hentered).mp (h _ hentered), fun h r hr => (hlogin r hr).mpr h⟩

/-- A founder enters Persian digits. -/
def persianClub : ClubForm where
  clubName := "آریا"
  city := "شهرکرد"
  founderPhone := "۰۹۱۳۱۲۳۴۵۶۷"
  founderNationalCode := "۰۰۱۲۳۴۵۶۷۸"
  phone := "03832221100"
  licenseNumber := "12"
  federationId := "34"
  othersValid := true

/-- The club waits under key 1. -/
def persianClubWaits : AccountTables :=
  { noAccounts with
    pendingClubs := Table.empty.insert
      ⟨"آریا", "شهرکرد", "۰۹۱۳۱۲۳۴۵۶۷", "۰۰۱۲۳۴۵۶۷۸", "03832221100", "12", "34"⟩ }

theorem persianClub_applies :
    (Application.club persianClub).Valid ∧
      (Application.club persianClub).Waits noAccounts persianClubWaits 1 ∧
      NoUser persianClubWaits (normalizeDigits (Application.club persianClub).phone) := by
  refine ⟨⟨⟨by decide +kernel, by decide +kernel⟩, by decide +kernel, by decide +kernel⟩,
    ⟨⟨"آریا", "شهرکرد", "۰۹۱۳۱۲۳۴۵۶۷", "۰۰۱۲۳۴۵۶۷۸", "03832221100", "12", "34"⟩,
      by decide +kernel, by decide +kernel⟩, fun k u hu => ?_⟩
  cases hu

/-- After the action the founder logs in with Persian digits. -/
theorem persianClub_logs_in :
    passesAuthentication (universalLogin
      ((Application.club persianClub).approve .adminAction persianClubWaits 1).1
      (enteredLogin (.club persianClub))) = true := by
  obtain ⟨hvalid, hwaits, hnew⟩ := persianClub_applies
  have happrove :
      ((Application.club persianClub).approve .adminAction persianClubWaits 1).2 = true :=
    by decide +kernel
  have hfit : DigitsFit .adminAction (.club persianClub) := by
    rw [DigitsFit]
    decide +kernel
  exact (approved_can_log_in_iff noAccounts persianClubWaits _ .adminAction (.club persianClub) 1
    hvalid hwaits hnew (Prod.ext rfl happrove)).mpr hfit _ (isOf_enteredLogin _)

/-- After the view the same founder cannot. -/
theorem persianClub_locked_out :
    ((Application.club persianClub).Valid ∧
      (Application.club persianClub).Waits noAccounts persianClubWaits 1 ∧
      NoUser persianClubWaits (normalizeDigits (Application.club persianClub).phone)) ∧
    ((Application.club persianClub).approve .approveView persianClubWaits 1).2 = true ∧
    (enteredLogin (.club persianClub)).IsOf (.club persianClub) ∧
    passesAuthentication (universalLogin
      ((Application.club persianClub).approve .approveView persianClubWaits 1).1
      (enteredLogin (.club persianClub))) = false :=
  ⟨persianClub_applies, by decide +kernel, isOf_enteredLogin _, by decide +kernel⟩

end Tkdchb.Accounts
