import Tkdchb.Competitions.Eligibility
import Tkdchb.Payments.Settlement

/-!
# A player registering for poomsae

`PoomsaeRegisterSelfView.post`. Its checks of the request are collected, those of the
database answer at once. Without payments, or without a fee, the handler calls a method the
enrollment does not have, and the transaction is rolled back.

## Main definitions

* `PoomsaeSelfData.errors` — the checks of the request
* `newPoomsaeEnrollment` — the row the handler creates
* `poomsaeRegisterSelf` — the handler

## Main results

* `poomsaeRegisterSelf_ok` — a request that is answered has written nothing, or one row, for
  the profile of its user
-/

namespace Tkdchb

open Calendar Web

/-! ### The request -/

/-- The body of the request: the `str` of a field, if there is one. -/
abbrev PoomsaeSelfData := String → Option String

/-- `_get_first` -/
def PoomsaeSelfData.getFirst (data : PoomsaeSelfData) (keys : List String) : String :=
  Text.strip ((keys.findSome? fun key => (data key).filter (· ≠ "")).getD "")

/-- `_clean_poomsae_type` -/
def cleanPoomsaeType (v : String) : String :=
  let t := Text.replaceChar 'ك' 'ک' (Text.replaceChar 'ي' 'ی' (Text.lower (Text.strip v)))
  (List.lookup t [
    ("std", "standard"), ("standard", "standard"), ("استاندارد", "standard"),
    ("creative", "creative"), ("cre", "creative"), ("ابداعی", "creative"),
    ("ابداعي", "creative")]).getD t

/-- A Jalali date before the year 1700, a Gregorian one from then on. -/
def dateOfYmd (jd : Jdatetime) (y m d : ℤ) : Option Date :=
  if y < 1700 then (jd.date y m d).bind jd.togregorian else dateOfInts y m d

/-- `_to_iso_from_jalali_or_iso` -/
def toIsoFromJalaliOrIso (jd : Jdatetime) (s : String) : String :=
  let t := (Text.strip s).toList.takeWhile (· ≠ 'T')
  let t := toEnDigits (String.ofList (t.filter fun c => !isMark c))
  match (matchYmd (Text.replaceChar '-' '/' t).toList).bind fun (y, m, d) => dateOfYmd jd y m d with
  | some g => g.isoformat
  | none => ""

/-- `_to_greg_date` -/
def toGregDate (jd : Jdatetime) (val : String) : Option Date :=
  if val = "" then none
  else
    let t := toEnDigits (Text.replaceChar '-' '/' (Text.strip val))
    (splitYmd t).bind fun (y, m, d) => dateOfYmd jd y m d

/-- The fields of the request, read and normalised. -/
structure PoomsaeSelfFields where
  coachCode : String
  poomsaeType : String
  insuranceNumber : String
  insuranceIssueDateIso : String
  deriving DecidableEq, Repr

def PoomsaeSelfData.fields (jd : Jdatetime) (data : PoomsaeSelfData) : PoomsaeSelfFields where
  coachCode :=
    data.getFirst ["coach_code", "code", "coachApprovalCode", "coach_approval_code"]
  poomsaeType := cleanPoomsaeType (data.getFirst ["poomsae_type", "type", "poomsaeType"])
  insuranceNumber := data.getFirst ["insurance_number", "insuranceNumber"]
  insuranceIssueDateIso := toIsoFromJalaliOrIso jd (data.getFirst
    ["insurance_issue_date", "insurance_issue_date_jalali", "insuranceIssueDate",
      "insuranceIssueDateJalali"])

/-- The date of the insurance, if it lies in the window before the competition; otherwise the
text of the error. -/
def insuranceDate (comp : PoomsaeSettings) (iso : String) : Except String Date :=
  match fromisoformat iso with
  | none => .error "تاریخ صدور بیمه نامعتبر است."
  | some iid =>
    let delta : ℤ := comp.shared.competitionDate.toOrdinal - iid.toOrdinal
    if delta < 3 ∨ 365 < delta then
      .error "تاریخ بیمه باید حداقل ۳ روز و حداکثر ۱ سال قبل از مسابقه باشد."
    else .ok iid

/-- Lookups of the handler. -/
structure PoomsaeLookups where
  /-- `_get_comp_by_key`, where it finds one by number or public id -/
  getCompByKey : String → Option ℕ
  /-- the coach of an active, approved `PoomsaeCoachApproval` of the competition -/
  coachApproval : ℕ → String → Option ℤ
  /-- `tkd_board` of a club -/
  clubBoard : ℕ → Option ℕ
  /-- `full_clean` accepts the number of the insurance and the code of the coach -/
  columnsClean : String → String → Bool

/-- `errors`, or the coach and the date of the insurance. -/
def PoomsaeSelfFields.check (look : PoomsaeLookups) (compId : ℕ) (comp : PoomsaeSettings)
    (f : PoomsaeSelfFields) : Except (List (String × String)) (ℤ × Date) :=
  let typeErrors :=
    if ["standard", "creative"].contains f.poomsaeType then []
    else [("poomsae_type", "مقدار نامعتبر است (standard/creative).")]
  let numberErrors :=
    if f.insuranceNumber = "" then [("insurance_number", "شمارهٔ بیمه الزامی است.")] else []
  let date := insuranceDate comp f.insuranceIssueDateIso
  let dateErrors := match date with
    | .error text => [("insurance_issue_date", text)]
    | .ok _ => []
  let coach := if f.coachCode = "" then none else look.coachApproval compId f.coachCode
  let coachErrors :=
    if f.coachCode = "" then [("coach_code", "کد مربی الزامی است.")]
    else if coach.isNone then [("coach_code", "کد مربی نامعتبر یا غیرفعال است.")] else []
  match typeErrors ++ numberErrors ++ dateErrors ++ coachErrors, coach, date with
  | [], some coach, .ok date => .ok (coach, date)
  | errors, _, _ => .error errors

/-! ### The row -/

/-- `age_obj`: a category of the competition that covers the birth date, or else any. -/
def ageObj (T : EligibilityTables) (jd : Jdatetime) (comp : PoomsaeSettings)
    (player : PlayerProfile) : Option ℕ :=
  (toGregDate jd player.birthDate).bind fun bd =>
    let covering := T.ageCategories.select fun cat => cat.covers bd
    ((covering.find? fun cat => comp.ageCategories.contains cat.1).or covering.head?).map Prod.fst

/-- What the handler passes to `PoomsaeEnrollment.objects.create`, as far as it is kept. -/
def newPoomsaeEnrollment (reg : Registry) (look : PoomsaeLookups) (compId : ℕ) (pid : ℤ)
    (player : UserProfile) (coach : ℤ) (poomsaeType : String) (iid : Date) :
    PoomsaeRegistration :=
  let board := (player.club.bind look.clubBoard).or player.tkdBoard
  { competition := compId
    player := some pid
    team := none
    mode := .single
    poomsaeType := poomsaeType
    coach := some coach
    coachName := ((reg.profile coach).map fun c => Text.strip c.fullName).getD ""
    club := player.club
    clubName := ((player.club.bind reg.club).map TkdClub.clubName).getD ""
    board := board
    boardName := ((board.bind reg.board).map TkdBoard.name).getD ""
    insuranceIssueDate := iid }

/-- The player has an enrollment of this type in the competition. -/
def alreadyInPoomsae (db : Db) (compId : ℕ) (pid : ℤ) (poomsaeType : String) : Bool :=
  (db.poomsae.oldest fun e =>
    e.registration.competition == compId && e.registration.player == some pid &&
      e.registration.poomsaeType == poomsaeType).isSome

/-! ### The handler -/

/-- How a request can end without an answer. -/
inductive PoomsaeError where
  | failure (e : Failure)
  /-- a competition has no slug to be searched by -/
  | fieldError (keyword : String)
  | attributeError (detail : String)

/-- The answer to a request that has created an enrollment. -/
def createdAnswer (id : ℕ) (f : PoomsaeSelfFields) (r : PoomsaeRegistration)
    (ageCategory beltGroup : Option ℕ) : Response :=
  let number? : Option ℕ → Json := fun n => (n.map fun k => Json.num k).getD .null
  .json 201 [
    ("detail", .str "ثبت‌نام پومسه با موفقیت ذخیره شد."), ("enrollment_id", .num id),
    ("status", .str EnrollmentStatus.pendingPayment.text), ("is_paid", .bool false),
    ("paid_amount", .num 0), ("bank_ref_code", .str ""), ("paid_at", .null),
    ("poomsae_type", .str r.poomsaeType), ("insurance_number", .str f.insuranceNumber),
    ("insurance_issue_date", .str r.insuranceIssueDate.isoformat),
    ("coach_name", .ofText? (some r.coachName |>.filter (· ≠ ""))),
    ("coach_approval_code", .ofText? (some f.coachCode |>.filter (· ≠ ""))),
    ("age_category_id", number? ageCategory), ("belt_group_id", number? beltGroup)]

/-- `PoomsaeRegisterSelfView.post` -/
def poomsaeRegisterSelf (cfg : Settings) (T : EligibilityTables) (jd : Jdatetime) (base : Registry)
    (look : PoomsaeLookups) (today : Date) (user : ℕ) (key : String) (data : PoomsaeSelfData)
    (db : Db) : Except PoomsaeError (Response × Db) :=
  let reg := T.registry base
  match (look.getCompByKey key).bind fun id => (T.poomsae id).map (Prod.mk id) with
  | none => .error (.fieldError "slug")
  | some (compId, comp) =>
    if !comp.shared.registrationOpenEffective today then
      .ok (.json 400 [("detail", .str "ثبت‌نام این مسابقه فعال نیست.")], db)
    else
      match T.profiles.firstOf user ["player", "both"] with
      | none => .ok (.json 404 [("detail", .str "پروفایل بازیکن یافت نشد.")], db)
      | some (pid, player) =>
        let f := data.fields jd
        match f.check look compId comp with
        | .error errors =>
          .ok (.json 400 (errors.map fun e => (e.1, .arr [.str e.2])), db)
        | .ok (coach, iid) =>
          if alreadyInPoomsae db compId pid f.poomsaeType then
            .ok (.json 409 [("detail",
              .str "برای این مسابقه پومسه قبلاً ثبت‌نام شده‌اید.")], db)
          else
            let bgObj := comp.belts.findBeltGroupObj (playerBeltCodeFromProfile player)
            if comp.belts.groups ≠ [] ∧ bgObj = none then
              .ok (.json 400 [("belt_group", .arr [.str
                "گروه کمربندی متناسب با کمربند شما در این مسابقه یافت نشد."])], db)
            else
              let row := newPoomsaeEnrollment reg look compId pid player.toUserProfile coach
                f.poomsaeType iid
              match row.fullClean reg with
              | .error e => .error (.failure e)
              | .ok row =>
                if !look.columnsClean f.insuranceNumber f.coachCode then
                  .error (.failure (.validationError []))
                else if !cfg.paymentsEnabled || comp.entryFee == 0 then
                  .error (.attributeError
                    "'PoomsaeEnrollment' object has no attribute 'mark_paid'")
                else
                  let enrollment : PoomsaeEnrollment := ⟨row, .pendingPayment, false, 0, "", none⟩
                  .ok (createdAnswer db.poomsae.next f row (ageObj T jd comp player) bgObj,
                    { db with poomsae := db.poomsae.insert enrollment })

/-! ### What a request writes -/

section PoomsaeRegister

variable {cfg : Settings} {T : EligibilityTables} {jd : Jdatetime} {base : Registry}
  {look : PoomsaeLookups} {today : Date} {user : ℕ} {key : String} {data : PoomsaeSelfData}
  {db db' : Db} {r : Response}

/-- Validation fills in texts; it does not change whom the row is for. -/
theorem player_fullClean {reg : Registry} {row row' : PoomsaeRegistration}
    (h : row.fullClean reg = .ok row') :
    row'.player = row.player ∧ row'.competition = row.competition := by
  unfold PoomsaeRegistration.fullClean at h
  dsimp only at h
  split at h
  · obtain rfl := Except.ok.inj h
    split
    · exact ⟨rfl, rfl⟩
    · exact ⟨rfl, rfl⟩
  · cases h

/-- **A request creates at most one row**, for the profile of its user, whose belt has a group
if the competition has any. -/
theorem poomsaeRegisterSelf_ok
    (h : poomsaeRegisterSelf cfg T jd base look today user key data db = .ok (r, db')) :
    db' = db ∨ ∃ compId comp pid player row,
      look.getCompByKey key = some compId ∧ T.poomsae compId = some comp ∧
      T.profiles.firstOf user ["player", "both"] = some (pid, player) ∧
      comp.belts.Grouped (playerBeltCodeFromProfile player) ∧
      row.registration.player = some pid ∧ row.registration.competition = compId ∧
      db' = { db with poomsae := db.poomsae.insert row } := by
  simp only [poomsaeRegisterSelf] at h
  split at h
  · cases h
  · next compId comp hcomp =>
    obtain ⟨id, hid, hpoomsae⟩ := Option.bind_eq_some_iff.mp hcomp
    obtain ⟨comp', hcomp', heq⟩ := Option.map_eq_some_iff.mp hpoomsae
    cases heq
    split at h
    · cases h
      exact Or.inl rfl
    · split at h
      · cases h
        exact Or.inl rfl
      · next pid player hplayer =>
        split at h
        · cases h
          exact Or.inl rfl
        · next coach iid _ =>
          split at h
          · cases h
            exact Or.inl rfl
          · split at h
            · cases h
              exact Or.inl rfl
            · next hgroup =>
              split at h
              · cases h
              · next row hrow =>
                -- what is left ends in an exception, or in the row
                split at h
                · cases h
                · split at h
                  · cases h
                  · cases h
                    obtain ⟨hrowPlayer, hrowComp⟩ := player_fullClean hrow
                    exact Or.inr ⟨compId, comp, pid, player, _, hid, hcomp', hplayer,
                      fun hgroups hnone => hgroup ⟨hgroups, hnone⟩, hrowPlayer, hrowComp, rfl⟩

end PoomsaeRegister

end Tkdchb
