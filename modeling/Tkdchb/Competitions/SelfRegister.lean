import Tkdchb.Competitions.CoachRegister

/-!
# A player registering alone

`RegisterSelfView.post` and `CompetitionRegistrationSerializer`. The serializer checks
the request and then asks the model for a row with two arguments the model does not have,
so the request ends in an exception at the latest there, and its last two answers are not
reached.

## Main definitions

* `SelfRegistry` — the lookups of the handler
* `SelfRegisterData.validate` — `CompetitionRegistrationSerializer.validate`
* `registerSelf` — the handler

## Main results

* `registerSelf_ok` — a request that is answered has been refused and has written nothing
-/

namespace Tkdchb

open Calendar Web

/-- Lookups of the handler and its serializer, under their names. -/
structure SelfRegistry where
  /-- the permission class `IsPlayer` -/
  isPlayer : ℕ → Bool
  /-- the first profile of the user whose role is `player` or `both` -/
  playerProfile : ℕ → Option ℤ
  /-- `_get_player_like_profile` -/
  getPlayerLikeProfile : ℕ → Option ℤ
  /-- `_to_greg_from_str_jalali` -/
  toGregFromStrJalali : String → Option Date
  /-- `_parse_weight_to_float` -/
  parseWeightToFloat : String → Option ℚ
  /-- the coach and the code of an active, accepted `CoachApproval` -/
  coachApproval : ℕ → String → Option (ℤ × String)
  /-- `_find_belt_group_obj` for the belt of the player -/
  findBeltGroupObj : ℤ → ℕ → Option ℕ
  /-- the first weight category of the competition that fits -/
  weightCategory : ℕ → ℚ → Option ℕ
  deriving Inhabited

/-- The body of the request. -/
structure SelfRegisterData where
  coachCode : String
  declaredWeight : String
  insuranceNumber : String
  insuranceIssueDate : String
  deriving Inhabited

/-- How a request can end without an answer. -/
inductive SelfError where
  | permissionDenied
  | failure (e : Failure)
  | typeError (detail : String)

/-- The text of a status. -/
def EnrollmentStatus.text : EnrollmentStatus → String
  | .pendingPayment => "pending_payment"
  | .paid => "paid"
  | .confirmed => "confirmed"
  | .accepted => "accepted"
  | .completed => "completed"
  | .canceled => "canceled"
  | .blank => ""

/-! ### The serializer -/

/-- The fields of the serializer, none of which may be blank. -/
def SelfRegisterData.fieldErrors (data : SelfRegisterData) : List (String × String) :=
  [("coach_code", data.coachCode), ("declared_weight", data.declaredWeight),
    ("insurance_number", data.insuranceNumber),
    ("insurance_issue_date", data.insuranceIssueDate)].filterMap fun field =>
      if Text.strip field.2 = "" then some (field.1, "blank") else none

/-- An error of one field. -/
def fieldError (field text : String) : SelfError := .failure (.validationError [(field, text)])

/-- `CompetitionRegistrationSerializer.is_valid` -/
def SelfRegisterData.validate (self : SelfRegistry) (today : Date) (user compId : ℕ)
    (comp : KyorugiCompetition) (db : Db) (data : SelfRegisterData) : Except SelfError Unit :=
  if data.fieldErrors ≠ [] then .error (.failure (.validationError data.fieldErrors))
  else if today.toOrdinal < comp.registrationStart.toOrdinal then
    .error (fieldError "__all__" "ثبت‌نام هنوز شروع نشده است.")
  else if comp.registrationEnd.toOrdinal < today.toOrdinal then
    .error (fieldError "__all__" "مهلت ثبت‌نام به پایان رسیده است.")
  else
    match self.getPlayerLikeProfile user with
    | none => .error (fieldError "__all__" "پروفایل بازیکن پیدا نشد.")
    | some player =>
      -- this profile may differ from the one the view has looked at
      if alreadyEnrolled db compId player then
        .error (fieldError "__all__" "برای این مسابقه قبلاً ثبت‌نام کرده‌اید.")
      else
        match self.toGregFromStrJalali (Text.strip data.insuranceIssueDate) with
        | none => .error (fieldError "insurance_issue_date"
            "تاریخ صدور نامعتبر است (مثلاً ۱۴۰۳/۰۵/۲۰).")
        | some issued =>
          if comp.competitionDate.toOrdinal < issued.toOrdinal + 3 then
            .error (fieldError "insurance_issue_date"
              "تاریخ صدور باید حداقل ۷۲ ساعت قبل از برگزاری باشد.")
          else
            match self.parseWeightToFloat (Text.strip data.declaredWeight) with
            | none => .error (fieldError "declared_weight" "وزن نامعتبر است.")
            | some weight =>
              match self.coachApproval compId (Text.strip data.coachCode) with
              | none => .error (fieldError "coach_code" "کد مربی معتبر نیست یا فعال نیست.")
              | some _ =>
                if comp.beltGroups ≠ [] ∧ self.findBeltGroupObj player compId = none then
                  .error (fieldError "belt_group" "کمربند شما با گروه‌های مسابقه سازگار نیست.")
                else
                  match self.weightCategory compId weight with
                  | none => .error (fieldError "declared_weight"
                      "هیچ رده وزنی متناسب با این وزن در مسابقه یافت نشد.")
                  | some _ => .ok ()

/-- The fields of the model `Enrollment`. -/
def enrollmentFields : List String :=
  ["id", "competition", "player", "coach", "coach_name", "coach_approval_code", "club",
    "club_name", "board", "board_name", "belt_group", "weight_category", "declared_weight",
    "insurance_number", "insurance_issue_date", "status", "is_paid", "paid_amount",
    "bank_ref_code", "paid_at", "medal", "discount_code", "discount_amount", "payable_amount",
    "discount_redeemed", "enrollments_created", "created_at"]

/-- The arguments `create` passes to `Enrollment.objects.create`. -/
def selfCreateArguments : List String :=
  ["competition", "player", "coach", "created_by", "kind", "coach_name", "coach_approval_code",
    "club", "club_name", "board", "board_name", "belt_group", "weight_category",
    "declared_weight", "insurance_number", "insurance_issue_date", "status", "is_paid",
    "paid_amount", "bank_ref_code"]

/-- The arguments `Model.__init__` does not know. -/
def unexpectedArguments : List String :=
  selfCreateArguments.filter fun name => !enrollmentFields.contains name

example : unexpectedArguments = ["created_by", "kind"] := by decide

/-- `CompetitionRegistrationSerializer.create`: the exception it ends in. -/
def selfCreateError (comp : KyorugiCompetition) : SelfError :=
  if 0 < comp.entryFee ∧ comp.entryFee < 10000 then
    fieldError "entry_fee" "مبلغ ثبت‌نام باید به ریال باشد (entry_fee خیلی کوچک است)."
  else
    .typeError ("Enrollment() got unexpected keyword arguments: " ++
      ", ".intercalate (unexpectedArguments.map fun name => "'" ++ name ++ "'"))

/-! ### The handler -/

/-- `RegisterSelfView.post` -/
def registerSelf (reg : Registry) (self : SelfRegistry) (today : Date) (user : ℕ) (key : String)
    (data : SelfRegisterData) (db : Db) : Except SelfError (Response × Db) :=
  if !self.isPlayer user then .error .permissionDenied
  else
    match (reg.getCompByKey key).bind fun id => (reg.kyorugi id).map (Prod.mk id) with
    | none => .error (.failure .http404)
    | some (compId, comp) =>
      if !comp.registrationOpenEffective today then
        .ok (.json 400 [("detail", .str "ثبت‌نام این مسابقه فعال نیست.")], db)
      else
        match self.playerProfile user with
        | none => .ok (.json 404 [("detail", .str "پروفایل بازیکن یافت نشد.")], db)
        | some player =>
          match db.enrollments.newest fun e =>
              e.competition == compId && e.player == player && decide (e.status ≠ .canceled) with
          | some (id, e) =>
            .ok (.json 400 [
              ("detail", .str "شما قبلاً برای این مسابقه ثبت‌نام کرده‌اید."),
              ("enrollment_id", .num id), ("status", .str e.status.text)], db)
          | none =>
            match data.validate self today user compId comp db with
            | .error e => .error e
            | .ok () => .error (selfCreateError comp)

/-- **A request that is answered has been refused**: the status is 400 or 404, and nothing
is written. -/
theorem registerSelf_ok {reg : Registry} {self : SelfRegistry} {today : Date} {user : ℕ}
    {key : String} {data : SelfRegisterData} {db db' : Db} {r : Response}
    (h : registerSelf reg self today user key data db = .ok (r, db')) :
    (∃ status body, r = .json status body ∧ (status = 400 ∨ status = 404)) ∧ db' = db := by
  unfold registerSelf at h
  split at h
  · cases h
  · split at h
    · cases h
    · split at h
      · cases h
        exact ⟨⟨400, _, rfl, Or.inl rfl⟩, rfl⟩
      · split at h
        · cases h
          exact ⟨⟨404, _, rfl, Or.inr rfl⟩, rfl⟩
        · split at h
          · cases h
            exact ⟨⟨400, _, rfl, Or.inl rfl⟩, rfl⟩
          · split at h <;> cases h

end Tkdchb
