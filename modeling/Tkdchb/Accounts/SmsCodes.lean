import Tkdchb.Accounts.Records
import Tkdchb.Lib.Transition

/-!
# One guess for each SMS code

Registration and the reset of a password both send a code by SMS and check it. Four views
share one table of codes. Each of them first deletes what has expired, a code is sent to a
phone only if the table has none for it, and every check of a code deletes what the table
has for the phone.

## Main definitions

* `SmsVerification`, `SmsState` — the codes, and the time of the last request
* `SmsRequest`, `SmsState.answer` — the four views
* `OnePerPhone` — no phone has two codes that are valid
* `attempted` — the codes that a request tries

## Main results

* `answer_cases` — what a request does to the table
* `one_guess_per_code` — a code is tried at most once, and only the code of a valid record
  of the same phone is accepted
-/

namespace Tkdchb.Accounts

open Transition

/-- A row of `SMSVerification`. Times are in microseconds. -/
structure SmsVerification where
  phone : String
  code : String
  createdAt : ℕ
  deriving DecidableEq, Repr

/-- `timedelta(minutes=3)` -/
def smsTtl : ℕ := 3 * 60 * 1000000

/-- The row is older than `ttl_minutes`. -/
def SmsVerification.expired (r : SmsVerification) (now : ℕ) : Bool := r.createdAt + smsTtl < now

/-- The tables, and the clock as the last request has read it. -/
structure SmsState where
  codes : Table SmsVerification
  accounts : AccountTables
  now : ℕ

/-- A value in the data of a request. -/
inductive Field where
  /-- no value, or `null` -/
  | absent
  | text (s : String)
  | number (n : ℤ)
  /-- a truth value, a fraction, a list or an object, and whether it counts as true -/
  | other (truthy : Bool)
  deriving DecidableEq, Repr

inductive SmsRequest where
  /-- `SendCodeAPIView.post` -/
  | sendCode (phone role : Field) (draws : ℕ → Fin 9000)
  /-- `VerifyCodeAPIView.post` -/
  | verifyCode (phone code : Field)
  /-- `ForgotPasswordSendCodeAPIView.post` -/
  | forgotPasswordSend (phone : Field) (draws : ℕ → Fin 9000)
  /-- `ForgotPasswordVerifyAPIView.post` -/
  | forgotPasswordVerify (phone code : Field)

inductive SmsError where
  /-- a serializer rejects the data -/
  | invalid
  | phoneTaken
  | badRole
  | tooSoon (retryAfter : ℤ)
  | badPhone
  | badCode
  | wrongCode
  | expired
  | noUser
  /-- an exception that the view does not catch -/
  | raised
  deriving DecidableEq, Repr

def SmsError.message : SmsError → String
  | .invalid | .raised => ""
  | .phoneTaken => "این شماره قبلاً ثبت شده است."
  | .badRole => "نقش نامعتبر است."
  | .tooSoon _ => "کد قبلی هنوز معتبر است."
  | .badPhone => "شماره موبایل معتبر نیست."
  | .badCode => "کد باید ۴ رقمی باشد."
  | .wrongCode => "کد وارد شده نادرست است."
  | .expired => "کد منقضی شده است. لطفاً مجدداً دریافت کنید."
  | .noUser => "کاربری با این شماره یافت نشد."

inductive SmsReply where
  /-- "کد تأیید ارسال شد." -/
  | sent
  /-- "کد تأیید شد. ادامه دهید." -/
  | verified
  /-- "رمز عبور شما بازنشانی شد." -/
  | passwordReset (username password role : String)
  deriving DecidableEq, Repr

/-! ### Fields -/

/-- What `CharField` makes of a value, before its checks. -/
def Field.chars : Field → Option String
  | .text s => some s
  | .number n => some (toString n)
  | .absent | .other _ => none

/-- `(request.data.get(name) or "").strip()`, which only texts have. -/
def Field.orBlank : Field → Option String
  | .absent | .other false => some ""
  | .text s => some (Text.strip s)
  | .number n => if n = 0 then some "" else none
  | .other true => none

/-- The phone that `PhoneSerializer` accepts. -/
def phoneSerializer (phone : Field) : Option String :=
  (phone.chars.map normalizeDigits).filter isMobile

/-- The choices of `PhoneSerializer.role` -/
def smsRoles : List String := ["player", "coach", "referee", "both", "club"]

/-- The phone and the code that `VerifyCodeSerializer` accepts. -/
def verifyCodeSerializer (phone code : Field) : Option (String × String) := do
  let phone ← (phone.chars.map normalizeDigits).filter (isNumberOf 11)
  let code ← (code.chars.map normalizeDigits).filter (isNumberOf 4)
  pure (phone, code)

/-- The checks of `ForgotPasswordSendCodeAPIView`. -/
def forgotPhone (phone : Field) : Except SmsError String :=
  match phone.orBlank with
  | none => .error .raised
  | some phone => if isMobile phone then .ok phone else .error .badPhone

/-- The checks of `ForgotPasswordVerifyAPIView`. -/
def forgotFields (phone code : Field) : Except SmsError (String × String) :=
  match phone.orBlank, code.orBlank with
  | some phone, some code =>
    if isMobile phone then
      if isNumberOf 4 code then .ok (phone, code) else .error .badCode
    else .error .badPhone
  | _, _ => .error .raised

/-! ### Accounts -/

/-- The phone belongs to a profile or a club, or to an application for the role. -/
def AccountTables.phoneTaken (t : AccountTables) (role phone : String) : Bool :=
  if role = "club" then
    (t.clubs.oldest fun c => c.founderPhone = phone).isSome ||
      (t.pendingClubs.oldest fun c => c.founderPhone = phone).isSome
  else
    (t.profiles.oldest fun p => p.phone = phone).isSome ||
      (t.pendingProfiles.oldest fun p => p.phone = phone).isSome

/-- Who resets the password: the user, and the profile and the club that were looked up. -/
structure PasswordOwner where
  user : ℕ
  profile : Option UserProfile
  club : Option TkdClub

/-- The user with this name, else the one of the profile or of the club with this phone. -/
def AccountTables.passwordOwner (t : AccountTables) (phone : String) : Option PasswordOwner :=
  match t.users.oldest fun u => u.username = phone with
  | some (user, _) => some ⟨user, none, none⟩
  | none =>
    let profile := (t.profiles.oldest fun p => p.phone = phone).map Prod.snd
    let club := (t.clubs.oldest fun c => c.founderPhone = phone).map Prod.snd
    ((profile.bind UserProfile.user).or (club.bind TkdClub.user)).map fun user =>
      ⟨user, profile, club⟩

/-- `_detect_role` -/
def AccountTables.detectRole (t : AccountTables) (user : ℕ) : String :=
  match t.profileOf user with
  | some profile => Text.lower (Text.orElse profile.role "player")
  | none =>
    if (t.clubOf user).isSome then "club"
    else if t.hasBoard user then "heyat"
    else "player"

/-- The new password: the national code, else a temporary one. -/
def AccountTables.newPassword (t : AccountTables) (owner : PasswordOwner) (phone : String) :
    String :=
  let code :=
    match owner.profile.or (t.profileOf owner.user), owner.club.or (t.clubOf owner.user) with
    | some profile, _ => viewsNormalizeDigits profile.nationalCode
    | none, some club => viewsNormalizeDigits club.founderNationalCode
    | none, none => ""
  Text.orElse code (String.ofList ("Temp#".toList ++ phone.toList.drop (phone.toList.length - 4)))

/-! ### The views -/

/-- `cleanup_expired_sms` -/
def cleanupExpiredSms (codes : Table SmsVerification) (now : ℕ) : Table SmsVerification :=
  codes.deleteWhere fun r => r.expired now

/-- `generate_unique_sms_code`: at most twenty attempts at a code that no valid record has,
then one that is not looked up. -/
def generateUniqueSmsCode (codes : Table SmsVerification) (now : ℕ) (draws : ℕ → Fin 9000) :
    String :=
  let recent := (codes.select fun r => !r.expired now).map fun x => x.2.code
  let code (i : ℕ) : String := toString ((draws i).val + 1000)
  ((List.range 20).map code).find? (fun c => !recent.contains c) |>.getD (code 20)

/-- The rate limit, and the new code. -/
def SmsState.send (s : SmsState) (phone : String) (draws : ℕ → Fin 9000) :
    SmsState × Except SmsError SmsReply :=
  match s.codes.oldest fun r => r.phone = phone && !r.expired s.now with
  | some (_, recent) =>
    (s, .error (.tooSoon (180 - ((s.now : ℤ) - recent.createdAt).tdiv 1000000)))
  | none =>
    let code := generateUniqueSmsCode s.codes s.now draws
    ({ s with codes := s.codes.insert ⟨phone, code, s.now⟩ }, .ok .sent)

/-- The lookup of the code, and the delete that follows in each case. -/
def SmsState.check (s : SmsState) (phone code : String) : SmsState × Except SmsError Unit :=
  match s.codes.select fun r => r.phone = phone && r.code = code with
  | [] =>
    ({ s with codes := s.codes.deleteWhere fun r => r.phone = phone }, .error .wrongCode)
  | [(k, record)] =>
    ({ s with codes := s.codes.erase k },
      if record.expired s.now then .error .expired else .ok ())
  | _ => (s, .error .raised)

/-- `set_password` for the owner of the phone. -/
def SmsState.resetPassword (s : SmsState) (phone : String) :
    SmsState × Except SmsError SmsReply :=
  match s.accounts.passwordOwner phone with
  | none => (s, .error .noUser)
  | some owner =>
    let password := s.accounts.newPassword owner phone
    let username := ((s.accounts.users.get owner.user).map User.username).getD ""
    let users := s.accounts.users.modify owner.user fun u => { u with password := some password }
    ({ s with accounts := { s.accounts with users } },
      .ok (.passwordReset username password (s.accounts.detectRole owner.user)))

/-- A request, after the clock is read and `cleanup_expired_sms` has run. -/
def SmsState.answer (s : SmsState) : SmsRequest → SmsState × Except SmsError SmsReply
  | .sendCode phone role draws =>
    match phoneSerializer phone, role with
    | some phone, .text role =>
      if role ∉ smsRoles then (s, .error .invalid)
      else if role ∉ ["player", "coach", "club"] then (s, .error .badRole)
      else if s.accounts.phoneTaken role phone then (s, .error .phoneTaken)
      else s.send phone draws
    | _, _ => (s, .error .invalid)
  | .verifyCode phone code =>
    match verifyCodeSerializer phone code with
    | none => (s, .error .invalid)
    | some (phone, code) => ((s.check phone code).1, (s.check phone code).2.map fun _ => .verified)
  | .forgotPasswordSend phone draws =>
    match forgotPhone phone with
    | .error e => (s, .error e)
    | .ok phone =>
      if (s.accounts.passwordOwner phone).isNone then (s, .error .noUser) else s.send phone draws
  | .forgotPasswordVerify phone code =>
    match forgotFields phone code with
    | .error e => (s, .error e)
    | .ok (phone, code) =>
      match (s.check phone code).2 with
      | .error e => ((s.check phone code).1, .error e)
      | .ok () => (s.check phone code).1.resetPassword phone

/-- A request, and the time since the one before. -/
structure SmsAction where
  elapsed : ℕ
  request : SmsRequest

/-- The state in which the view goes on after `cleanup_expired_sms`. -/
def SmsState.cleaned (s : SmsState) (elapsed : ℕ) : SmsState :=
  { s with codes := cleanupExpiredSms s.codes (s.now + elapsed), now := s.now + elapsed }

def smsStep (a : SmsAction) (s : SmsState) : SmsState :=
  ((s.cleaned a.elapsed).answer a.request).1

/-- What the request is answered. -/
def smsAnswer (a : SmsAction) (s : SmsState) : Except SmsError SmsReply :=
  ((s.cleaned a.elapsed).answer a.request).2

/-! ### One guess -/

/-- Each phone has at most one record that is no older than three minutes. -/
def OnePerPhone (s : SmsState) : Prop :=
  ∀ k r k' r', s.codes.get k = some r → s.codes.get k' = some r' →
    r.expired s.now = false → r'.expired s.now = false → r.phone = r'.phone → k = k'

/-- The phone and the code of a verification whose fields are valid. -/
def attempted : SmsRequest → Option (String × String)
  | .verifyCode phone code => verifyCodeSerializer phone code
  | .forgotPasswordVerify phone code => (forgotFields phone code).toOption
  | .sendCode _ _ _ => none
  | .forgotPasswordSend _ _ => none

def SmsRequest.isVerification : SmsRequest → Bool
  | .verifyCode _ _ | .forgotPasswordVerify _ _ => true
  | .sendCode _ _ _ | .forgotPasswordSend _ _ => false

/-- A verification succeeds only with the code of a valid record of its phone, and a
verification whose fields are valid leaves no record for the phone. -/
def OneGuess (a : SmsAction) (s : SmsState) : Prop :=
  (a.request.isVerification = true → ∀ reply, smsAnswer a s = .ok reply →
    ∃ k r, attempted a.request = some (r.phone, r.code) ∧ s.codes.get k = some r ∧
      r.expired (s.now + a.elapsed) = false) ∧
  ∀ phone code, attempted a.request = some (phone, code) →
    ∀ k r, (smsStep a s).codes.get k = some r → r.phone ≠ phone

/-- The record is there, and its phone is tried. -/
def tries (k : ℕ) (a : SmsAction) (s : SmsState) : ℕ :=
  match s.codes.get k, attempted a.request with
  | some r, some (phone, _) => if r.phone = phone then 1 else 0
  | _, _ => 0

section Views

variable {s : SmsState} {k : ℕ} {r : SmsVerification} {phone code : String} {elapsed : ℕ}
  {req : SmsRequest} {reply : SmsReply}

/-- All records are valid, and each phone has at most one. -/
structure Clean (s : SmsState) : Prop where
  valid : ∀ k r, s.codes.get k = some r → r.expired s.now = false
  unique : ∀ k r k' r', s.codes.get k = some r → s.codes.get k' = some r' →
    r.phone = r'.phone → k = k'

theorem Clean.onePerPhone (h : Clean s) : OnePerPhone s :=
  fun k r k' r' hr hr' _ _ hphone => h.unique k r k' r' hr hr' hphone

theorem get_cleaned_iff :
    (s.cleaned elapsed).codes.get k = some r ↔
      s.codes.get k = some r ∧ r.expired (s.now + elapsed) = false :=
  Table.get_deleteWhere_eq_some_iff

/-- A record does not become valid again. -/
theorem expired_mono (h : r.expired (s.now + elapsed) = false) : r.expired s.now = false := by
  simp only [SmsVerification.expired, decide_eq_false_iff_not, not_lt] at h ⊢
  omega

/-- What `cleanup_expired_sms` leaves is clean. -/
theorem clean_cleaned (h : OnePerPhone s) (elapsed : ℕ) : Clean (s.cleaned elapsed) where
  valid k r hr := (get_cleaned_iff.mp hr).2
  unique k r k' r' hr hr' hphone := by
    obtain ⟨hget, hvalid⟩ := get_cleaned_iff.mp hr
    obtain ⟨hget', hvalid'⟩ := get_cleaned_iff.mp hr'
    exact h k r k' r' hget hget' (expired_mono hvalid) (expired_mono hvalid') hphone

theorem Clean.insert (h : Clean s) (hnone : ∀ k r, s.codes.get k = some r → r.phone ≠ phone) :
    Clean { s with codes := s.codes.insert ⟨phone, code, s.now⟩ } where
  valid := Table.forall_insert h.valid <| by
    rw [SmsVerification.expired, decide_eq_false_iff_not, not_lt]
    exact Nat.le_add_right _ _
  unique k r k' r' hr hr' hphone := by
    rcases Table.get_insert_cases hr with hold | ⟨rfl, rfl⟩
    · rcases Table.get_insert_cases hr' with hold' | ⟨rfl, rfl⟩
      · exact h.unique k r k' r' hold hold' hphone
      · exact absurd hphone (hnone k r hold)
    · rcases Table.get_insert_cases hr' with hold' | ⟨rfl, rfl⟩
      · exact absurd hphone.symm (hnone k' r' hold')
      · rfl

theorem Clean.deleteWhere (h : Clean s) (p : SmsVerification → Bool) :
    Clean { s with codes := s.codes.deleteWhere p } where
  valid k r hr := h.valid k r (Table.get_deleteWhere_eq_some_iff.mp hr).1
  unique k r k' r' hr hr' hphone := h.unique k r k' r' (Table.get_deleteWhere_eq_some_iff.mp hr).1
    (Table.get_deleteWhere_eq_some_iff.mp hr').1 hphone

/-- The rate limit lets a code be sent to a phone that has none. -/
theorem send_cases (h : Clean s) (phone : String) (draws : ℕ → Fin 9000) :
    (s.send phone draws).1 = s ∨
      (∀ k r, s.codes.get k = some r → r.phone ≠ phone) ∧
        ∃ code, (s.send phone draws).1 =
          { s with codes := s.codes.insert ⟨phone, code, s.now⟩ } := by
  unfold SmsState.send
  split
  · exact Or.inl rfl
  · next hnone =>
    refine Or.inr ⟨fun k r hr hphone => ?_, _, rfl⟩
    have hmiss := Table.oldest_eq_none_iff.mp hnone k r hr
    simp [hphone, h.valid k r hr] at hmiss

/-- The record that a check finds. -/
theorem get_of_select_singleton {record : SmsVerification}
    (hfound : (s.codes.select fun r => r.phone = phone && r.code = code) = [(k, record)]) :
    s.codes.get k = some record ∧ record.phone = phone ∧ record.code = code := by
  have hmem : (k, record) ∈ s.codes.select fun r => r.phone = phone && r.code = code := by
    rw [hfound]
    exact List.mem_singleton_self _
  obtain ⟨hget, hmatch⟩ := Table.mem_select_iff.mp hmem
  simp only [Bool.and_eq_true, decide_eq_true_eq] at hmatch
  exact ⟨hget, hmatch⟩

/-- **A check deletes what the phone has**, whatever it finds. -/
theorem check_fst (h : Clean s) (phone code : String) :
    (s.check phone code).1 = { s with codes := s.codes.deleteWhere fun r => r.phone = phone } := by
  unfold SmsState.check
  split
  · rfl
  · next k record hfound =>
    obtain ⟨hget, hmatch⟩ := get_of_select_singleton hfound
    -- the record that is erased is the only one of the phone
    have heq : s.codes.erase k = s.codes.deleteWhere fun r => r.phone = phone := by
      refine Table.ext (fun j => Option.ext fun r => ?_) rfl
      rw [Table.get_deleteWhere_eq_some_iff, Table.get_erase, decide_eq_false_iff_not]
      split_ifs with hj
      · subst hj
        refine ⟨fun hnone => (by cases hnone), fun ⟨hr, hne⟩ => ?_⟩
        rw [hget] at hr
        exact absurd (Option.some.inj hr ▸ hmatch.1) hne
      · refine ⟨fun hr => ⟨hr, fun hphone => hj ?_⟩, And.left⟩
        exact h.unique j r k record hr hget (hphone.trans hmatch.1.symm)
    rw [heq]
  · next hnil hsingle =>
    -- two records of one phone
    exfalso
    have hnodup := Table.nodup_select (t := s.codes)
      (p := fun r => r.phone = phone && r.code = code)
    have hmem := fun x => Table.mem_select_iff (t := s.codes)
      (p := fun r => r.phone = phone && r.code = code) (x := x)
    generalize s.codes.select _ = found at *
    match found with
    | [] => exact hnil rfl
    | [(k, record)] => exact hsingle k record rfl
    | x :: y :: rest =>
      obtain ⟨hx, hpx⟩ := (hmem x).mp (by simp)
      obtain ⟨hy, hpy⟩ := (hmem y).mp (by simp)
      simp only [Bool.and_eq_true, decide_eq_true_eq] at hpx hpy
      have hkey := h.unique x.1 x.2 y.1 y.2 hx hy (hpx.1.trans hpy.1.symm)
      simp [hkey] at hnodup

/-- The code is accepted only if the table has it for the phone. -/
theorem exists_of_check (h : (s.check phone code).2 = .ok ()) :
    ∃ k r, s.codes.get k = some r ∧ r.phone = phone ∧ r.code = code := by
  unfold SmsState.check at h
  split at h
  · cases h
  · next k record hfound =>
    exact ⟨k, record, get_of_select_singleton hfound⟩
  · cases h

theorem resetPassword_fst (s : SmsState) (phone : String) :
    (s.resetPassword phone).1.codes = s.codes ∧ (s.resetPassword phone).1.now = s.now := by
  unfold SmsState.resetPassword
  split
  · exact ⟨rfl, rfl⟩
  · exact ⟨rfl, rfl⟩

/-- **What a request does to the table**: nothing, a code for a phone that has none, or,
if it tries a code, the delete of what the phone has. -/
theorem answer_cases (h : Clean s) (req : SmsRequest) :
    (s.answer req).1.now = s.now ∧
      ((attempted req = none ∧ (s.answer req).1.codes = s.codes) ∨
      (attempted req = none ∧ ∃ phone code, (∀ k r, s.codes.get k = some r → r.phone ≠ phone) ∧
        (s.answer req).1.codes = s.codes.insert ⟨phone, code, s.now⟩) ∨
      ∃ phone code, attempted req = some (phone, code) ∧
        (s.answer req).1.codes = s.codes.deleteWhere fun r => r.phone = phone) := by
  -- both views that send a code store at most one row, of a phone without rows
  have hsend : ∀ phone draws, (s.send phone draws).1.now = s.now ∧
      ((s.send phone draws).1.codes = s.codes ∨
        ∃ phone' code, (∀ k r, s.codes.get k = some r → r.phone ≠ phone') ∧
          (s.send phone draws).1.codes = s.codes.insert ⟨phone', code, s.now⟩) := by
    intro phone draws
    rcases send_cases h phone draws with heq | ⟨hnone, code, heq⟩
    · exact ⟨by rw [heq], Or.inl (by rw [heq])⟩
    · exact ⟨by rw [heq], Or.inr ⟨phone, code, hnone, by rw [heq]⟩⟩
  cases req with
  | sendCode phone role draws =>
    simp only [SmsState.answer, attempted, true_and]
    split
    · split_ifs
      · exact ⟨rfl, Or.inl rfl⟩
      · exact (hsend _ draws).imp_right (Or.imp_right Or.inl)
      · exact ⟨rfl, Or.inl rfl⟩
      · exact ⟨rfl, Or.inl rfl⟩
    · exact ⟨rfl, Or.inl rfl⟩
  | forgotPasswordSend phone draws =>
    simp only [SmsState.answer, attempted, true_and]
    split
    · exact ⟨rfl, Or.inl rfl⟩
    · split_ifs
      · exact ⟨rfl, Or.inl rfl⟩
      · exact (hsend _ draws).imp_right (Or.imp_right Or.inl)
  | verifyCode phone code =>
    simp only [SmsState.answer, attempted]
    split
    · next hinvalid => exact ⟨rfl, Or.inl ⟨hinvalid, rfl⟩⟩
    · next phone' code' hvalid =>
      rw [check_fst h]
      exact ⟨rfl, Or.inr (Or.inr ⟨phone', code', hvalid, rfl⟩)⟩
  | forgotPasswordVerify phone code =>
    simp only [SmsState.answer, attempted]
    split
    · next e hinvalid => exact ⟨rfl, Or.inl ⟨by rw [hinvalid]; rfl, rfl⟩⟩
    · next phone' code' hvalid =>
      have htried : (forgotFields phone code).toOption = some (phone', code') := by
        rw [hvalid]
        rfl
      split
      · rw [check_fst h]
        exact ⟨rfl, Or.inr (Or.inr ⟨phone', code', htried, rfl⟩)⟩
      · -- the password is written after the code was taken, and no code with it
        obtain ⟨hcodes, hnow⟩ := resetPassword_fst (s.check phone' code').1 phone'
        rw [check_fst h] at hcodes hnow ⊢
        exact ⟨hnow, Or.inr (Or.inr ⟨phone', code', htried, hcodes⟩)⟩

theorem clean_answer (h : Clean s) (req : SmsRequest) : Clean (s.answer req).1 := by
  obtain ⟨hnow, hcases⟩ := answer_cases h req
  -- what is clean does not depend on the accounts
  have hcongr : ∀ codes, Clean { s with codes } → (s.answer req).1.codes = codes →
      Clean (s.answer req).1 := by
    intro codes hclean hcodes
    refine ⟨fun k r hr => ?_, fun k r k' r' hr hr' => ?_⟩
    · rw [hnow]
      exact hclean.valid k r (hcodes ▸ hr)
    · exact hclean.unique k r k' r' (hcodes ▸ hr) (hcodes ▸ hr')
  rcases hcases with ⟨-, hcodes⟩ | ⟨-, phone, code, hnone, hcodes⟩ | ⟨phone, code, -, hcodes⟩
  · exact hcongr _ h hcodes
  · exact hcongr _ (h.insert hnone) hcodes
  · exact hcongr _ (h.deleteWhere _) hcodes

/-- A verification succeeds only with a code that the table has for its phone. -/
theorem exists_of_answer_ok (hverify : req.isVerification = true)
    (hok : (s.answer req).2 = .ok reply) :
    ∃ k r, attempted req = some (r.phone, r.code) ∧ s.codes.get k = some r := by
  cases req with
  | sendCode phone role draws => cases hverify
  | forgotPasswordSend phone draws => cases hverify
  | verifyCode phone code =>
    simp only [SmsState.answer, attempted] at hok ⊢
    split at hok
    · cases hok
    · next phone' code' hvalid =>
      cases hcheck : (s.check phone' code').2 with
      | error e =>
        rw [hcheck] at hok
        cases hok
      | ok =>
        obtain ⟨k, r, hget, rfl, rfl⟩ := exists_of_check hcheck
        exact ⟨k, r, hvalid, hget⟩
  | forgotPasswordVerify phone code =>
    simp only [SmsState.answer, attempted] at hok ⊢
    split at hok
    · cases hok
    · next phone' code' hvalid =>
      split at hok
      · cases hok
      · next hcheck =>
        obtain ⟨k, r, hget, rfl, rfl⟩ := exists_of_check hcheck
        exact ⟨k, r, by rw [hvalid]; rfl, hget⟩

end Views

section Runs

variable {s : SmsState} {k : ℕ}

theorem onePerPhone_step (a : SmsAction) (s : SmsState) (h : OnePerPhone s) :
    OnePerPhone (smsStep a s) :=
  (clean_answer (clean_cleaned h a.elapsed) a.request).onePerPhone

/-- A record after a request was there before it, and its phone was not tried, or it is
new. -/
theorem get_smsStep_cases {r : SmsVerification} {a : SmsAction} (h : OnePerPhone s)
    (hr : (smsStep a s).codes.get k = some r) :
    (s.codes.get k = some r ∧ ∀ phone code, attempted a.request = some (phone, code) →
        r.phone ≠ phone) ∨
      s.codes.next ≤ k ∧ attempted a.request = none := by
  obtain ⟨-, hcases⟩ := answer_cases (clean_cleaned h a.elapsed) a.request
  rw [smsStep] at hr
  rcases hcases with ⟨htry, hcodes⟩ | ⟨htry, phone, code, -, hcodes⟩ | ⟨phone, code, htry, hcodes⟩
  · rw [hcodes] at hr
    refine Or.inl ⟨(get_cleaned_iff.mp hr).1, fun phone code htried => ?_⟩
    rw [htry] at htried
    cases htried
  · rw [hcodes] at hr
    rcases Table.get_insert_cases hr with hold | ⟨rfl, -⟩
    · refine Or.inl ⟨(get_cleaned_iff.mp hold).1, fun phone code htried => ?_⟩
      rw [htry] at htried
      cases htried
    · exact Or.inr ⟨le_rfl, htry⟩
  · rw [hcodes, Table.get_deleteWhere_eq_some_iff, decide_eq_false_iff_not] at hr
    refine Or.inl ⟨(get_cleaned_iff.mp hr.1).1, fun phone' code' htried => ?_⟩
    obtain ⟨rfl, -⟩ : phone = phone' ∧ code = code' := by simpa using htry.symm.trans htried
    exact hr.2

theorem next_le_smsStep (a : SmsAction) (h : OnePerPhone s) :
    s.codes.next ≤ (smsStep a s).codes.next := by
  obtain ⟨-, hcases⟩ := answer_cases (clean_cleaned h a.elapsed) a.request
  rw [smsStep]
  rcases hcases with ⟨-, hcodes⟩ | ⟨-, phone, code, -, hcodes⟩ | ⟨phone, code, -, hcodes⟩
  · rw [hcodes]
    exact le_rfl
  · rw [hcodes]
    exact Nat.le_succ _
  · rw [hcodes]
    exact le_rfl

theorem oneGuess_of_onePerPhone (a : SmsAction) (h : OnePerPhone s) : OneGuess a s := by
  constructor
  · intro hverify reply hok
    obtain ⟨k, r, htried, hget⟩ := exists_of_answer_ok hverify hok
    obtain ⟨hget, hvalid⟩ := get_cleaned_iff.mp hget
    exact ⟨k, r, htried, hget, hvalid⟩
  · intro phone code htried k r hr
    rcases get_smsStep_cases h hr with ⟨-, hphone⟩ | ⟨-, hnone⟩
    · exact hphone phone code htried
    · rw [htried] at hnone
      cases hnone

/-- The key was handed out, and its record is deleted. -/
def Gone (k : ℕ) (s : SmsState) : Prop :=
  OnePerPhone s ∧ k < s.codes.next ∧ s.codes.get k = none

theorem gone_step (a : SmsAction) (s : SmsState) (h : Gone k s) : Gone k (smsStep a s) := by
  obtain ⟨hone, hlt, hnone⟩ := h
  refine ⟨onePerPhone_step a s hone, hlt.trans_le (next_le_smsStep a hone), ?_⟩
  cases hr : (smsStep a s).codes.get k with
  | none => rfl
  | some r =>
    rcases get_smsStep_cases hone hr with ⟨hget, -⟩ | ⟨hle, -⟩
    · rw [hnone] at hget
      cases hget
    · exact absurd hlt hle.not_gt

/-- Who tries the phone of a record deletes the record. -/
theorem gone_of_tries {a : SmsAction} (h : OnePerPhone s) (htries : tries k a s ≠ 0) :
    Gone k (smsStep a s) := by
  unfold tries at htries
  split at htries
  · next r phone code hget htried =>
    have hphone : r.phone = phone := by simpa using htries
    refine ⟨onePerPhone_step a s h,
      (Table.lt_next_of_get hget).trans_le (next_le_smsStep a h), ?_⟩
    cases hr : (smsStep a s).codes.get k with
    | none => rfl
    | some r' =>
      rcases get_smsStep_cases h hr with ⟨hget', hne⟩ | ⟨-, hnone⟩
      · obtain rfl := Option.some.inj (hget.symm.trans hget')
        exact absurd hphone (hne phone code htried)
      · rw [htried] at hnone
        cases hnone
  · exact absurd rfl htries

theorem tries_le_one (k : ℕ) (a : SmsAction) (s : SmsState) : tries k a s ≤ 1 := by
  unfold tries
  split
  · split_ifs <;> decide
  · exact Nat.zero_le 1

theorem tries_of_gone (a : SmsAction) (s : SmsState) (h : Gone k s) : tries k a s = 0 := by
  rw [tries, h.2.2]

/-- **One guess for each code.** In every run each phone has at most one valid record, a
verification succeeds only with the code of a valid record of its phone, one with valid
fields leaves no record for the phone, and each record is tried at most once. -/
theorem one_guess_per_code (s : SmsState) (acts : List SmsAction) (h : OnePerPhone s) :
    (∀ t ∈ visited smsStep s acts, OnePerPhone t) ∧ Along smsStep OneGuess s acts ∧
      ∀ k, total smsStep (tries k) s acts ≤ 1 := by
  have hbase : Along smsStep (fun _ _ => True) s acts := along_of_forall (P := fun _ => True)
    fun _ _ => trivial
  refine ⟨hbase.forall_visited (fun a s _ => onePerPhone_step a s) h,
    hbase.imp_invariant (fun a s _ => onePerPhone_step a s)
      (fun a s _ => oneGuess_of_onePerPhone a) h, fun k => ?_⟩
  exact total_le_one onePerPhone_step gone_step tries_of_gone
    (fun a s hs => ⟨tries_le_one k a s, gone_of_tries hs⟩) h acts

end Runs

/-- No accounts, and no code was sent. -/
def noCodes : SmsState := ⟨Table.empty, noAccounts, 0⟩

/-- A player asks for a code. -/
def askCode : SmsAction := ⟨0, .sendCode (.text "09131234567") (.text "player") fun _ => 234⟩

/-- Three minutes later the code comes back, in Persian digits. -/
def returnCode : SmsAction := ⟨smsTtl, .verifyCode (.text "09131234567") (.text "۱۲۳۴")⟩

/-- The code is accepted in the last instant, and is tried once however often it comes
back. -/
theorem returnCode_one_guess :
    smsAnswer returnCode (smsStep askCode noCodes) = .ok .verified ∧
      OnePerPhone (run smsStep noCodes [askCode, returnCode, returnCode]) ∧
      total smsStep (tries 1) noCodes [askCode, returnCode, returnCode] ≤ 1 := by
  have hnone : OnePerPhone noCodes := fun _ _ _ _ h => by cases h
  obtain ⟨hone, -, htries⟩ := one_guess_per_code noCodes [askCode, returnCode, returnCode] hnone
  exact ⟨by decide +kernel, hone _ (run_mem_visited _ _), htries 1⟩

end Tkdchb.Accounts
