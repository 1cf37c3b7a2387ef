import Tkdchb.Payments.GroupFinalization
import Tkdchb.Payments.Intents

/-!
# Registering a coach's students

`CoachRegisterStudentsView.post` checks each student, prices the group, and then
either stops (preview), finalises the group at once (nothing to pay, or payments
switched off), or creates a group payment with an intent for it. The handler is one
transaction.

## Main definitions

* `checkStudent`, `checkStudents` — the loop over the students, with its errors
* `priceGroup` — total, discount and payable amount
* `finalizeFreeOrTest` — `_finalize_free_or_test`
* `coachRegister` — the handler

## Main results

* `forall_items_checkStudents` — what the loop accepts, from what one check accepts
* `enrollable_checkStudents` — every accepted student can be enrolled later
* `coachRegister_ok` — what a request that returns has written
-/

namespace Tkdchb

open Calendar Web

/-! ### Gender texts -/

/-- `_required_gender_for_comp` -/
def requiredGenderForComp (comp : KyorugiCompetition) : Option String :=
  if comp.gender = "" then none
  else
    let t := String.ofList <| (Text.lower (Text.strip comp.gender)).toList.filter fun c =>
      c != '\u200c' && c != '-'
    some <| (List.lookup t [
      ("m", "male"), ("male", "male"), ("man", "male"), ("آقا", "male"), ("اقا", "male"),
      ("مرد", "male"), ("آقایان", "male"),
      ("f", "female"), ("female", "female"), ("woman", "female"), ("زن", "female"),
      ("خانم", "female"), ("بانوان", "female"),
      ("both", "both"), ("mixed", "both"), ("مختلط", "both"), ("هر دو", "both"),
      ("هردو", "both")]).getD t

/-- `_gender_norm` -/
def genderNorm (val : String) : Option String :=
  List.lookup (Text.lower (Text.strip val)) [
    ("male", "male"), ("m", "male"), ("man", "male"), ("boy", "male"), ("مرد", "male"),
    ("آقا", "male"),
    ("female", "female"), ("f", "female"), ("woman", "female"), ("girl", "female"),
    ("زن", "female"), ("خانم", "female"),
    ("both", "both"), ("mix", "both")]

/-! ### Students -/

/-- One entry of `students` in the request. `playerId` is `none` when it is missing or
`int` does not read it, `declaredWeight` when `float` does not. -/
structure Student where
  playerId : Option ℤ
  declaredWeight : Option ℚ
  insuranceNumber : String
  insuranceIssueDate : Option String
  deriving Inhabited

/-- What the loop makes of one student. -/
inductive Checked where
  | ignored
  | already (pid : ℤ)
  | error (pid : ℤ) (text : String)
  | item (it : GroupItem)

/-- The player has an enrollment of the competition that is not canceled. -/
def alreadyEnrolled (db : Db) (compId : ℕ) (pid : ℤ) : Bool :=
  (db.enrollments.oldest fun e =>
    e.competition == compId && e.player == pid && decide (e.status ≠ .canceled)).isSome

/-- The payload item of a student who passed every check. -/
def groupItem (reg : Registry) (pid : ℤ) (player : UserProfile) (st : Student) (weight : ℚ)
    (insDate : Date) (beltGroup : Option ℕ) (weightCategory : ℕ) : GroupItem where
  playerId := pid
  declaredWeight := weight
  insuranceNumber := st.insuranceNumber
  insuranceIssueDate := insDate.isoformat
  beltGroupId := beltGroup
  weightCategoryId := some weightCategory
  clubId := player.club
  clubName := ((player.club.bind reg.club).map TkdClub.clubName).getD ""
  boardId := player.tkdBoard
  boardName := ((player.tkdBoard.bind reg.board).map TkdBoard.name).getD ""

/-- The body of the loop over the students. -/
def checkStudent (reg : Registry) (db : Db) (compId : ℕ) (comp : KyorugiCompetition)
    (st : Student) : Checked :=
  match st.playerId.filter (· ≠ 0) with
  | none => .ignored
  | some pid =>
    let reqGender := requiredGenderForComp comp
    if alreadyEnrolled db compId pid then .already pid
    else
      match (reg.profile pid).filter fun p => ["player", "both", "coach"].contains p.role with
      | none => .error pid "پروفایل بازیکن یافت نشد."
      | some player =>
        if (reqGender = some "male" ∨ reqGender = some "female") ∧
            genderNorm player.gender ≠ reqGender then
          .error pid "جنسیت بازیکن با مسابقه سازگار نیست."
        else
          match st.insuranceIssueDate.bind reg.parseInsuranceDate with
          | none => .error pid "تاریخ صدور بیمه نامعتبر است."
          | some insDate =>
            if comp.competitionDate.toOrdinal < insDate.toOrdinal + 3 then
              .error pid "تاریخ صدور بیمه باید حداقل ۷۲ ساعت قبل از مسابقه باشد."
            else
              -- `float(x or 0)`; what cannot be read fails the next test
              let weight := st.declaredWeight.getD 0
              if weight ≤ 0 then .error pid "وزن اعلامی نامعتبر است."
              else
                let beltGroup := reg.beltGroupForPlayerInComp pid compId
                if comp.beltGroups ≠ [] ∧ beltGroup = none then
                  .error pid "گروه کمربندی متناسب با کمربند بازیکن در این مسابقه یافت نشد."
                else
                  let gender := (reqGender.filter (· ≠ "")).or (genderNorm player.gender)
                  match reg.findWeightCategoryFor compId gender weight with
                  | none =>
                    .error pid "رده وزنی مناسب با وزن اعلامی در این مسابقه یافت نشد."
                  | some weightCategory =>
                    .item (groupItem reg pid player st weight insDate beltGroup weightCategory)

/-- `errors[key] = text` -/
def setError (errors : List (String × String)) (key text : String) : List (String × String) :=
  if errors.any (·.1 == key) then errors.map fun e => if e.1 = key then (key, text) else e
  else errors ++ [(key, text)]

/-- `created_items`, `skipped_already` and `errors`. -/
structure CheckedStudents where
  items : List GroupItem
  skippedAlready : List ℤ
  errors : List (String × String)

/-- The end of the loop body: where a student goes. -/
def CheckedStudents.add (acc : CheckedStudents) : Checked → CheckedStudents
  | .ignored => acc
  | .already pid => { acc with skippedAlready := acc.skippedAlready ++ [pid] }
  | .error pid text => { acc with errors := setError acc.errors (toString pid) text }
  | .item it => { acc with items := acc.items ++ [it] }

/-- The loop over the students. -/
def checkStudents (reg : Registry) (db : Db) (compId : ℕ) (comp : KyorugiCompetition)
    (students : List Student) : CheckedStudents :=
  students.foldl (fun acc st => acc.add (checkStudent reg db compId comp st)) ⟨[], [], []⟩

section Students

variable {reg : Registry} {db : Db} {compId : ℕ} {comp : KyorugiCompetition}

/-- What the finalisation needs of a payload item: a player, and a date it can read. -/
def Enrollable (reg : Registry) (it : GroupItem) : Prop :=
  (∃ player, reg.profile it.playerId = some player) ∧
    ∃ insDate, fromisoformat it.insuranceIssueDate = some insDate

/-- What the loop over the students has looked at when it accepts one, and what it notes. -/
theorem checkStudent_item {st : Student} {it : GroupItem}
    (h : checkStudent reg db compId comp st = .item it) :
    ∃ player weight insDate weightCategory,
      alreadyEnrolled db compId it.playerId = false ∧
      reg.profile it.playerId = some player ∧ player.role ∈ ["player", "both", "coach"] ∧
      (comp.beltGroups ≠ [] → reg.beltGroupForPlayerInComp it.playerId compId ≠ none) ∧
      it = groupItem reg it.playerId player st weight insDate
        (reg.beltGroupForPlayerInComp it.playerId compId) weightCategory := by
  unfold checkStudent at h
  -- each guard that fails ends in another constructor
  split at h
  · cases h
  · next pid _ =>
    dsimp only at h
    split at h
    · cases h
    · next hfresh =>
      split at h
      · cases h
      · next player hplayer =>
        obtain ⟨hprofile, hrole⟩ := Option.filter_eq_some_iff.mp hplayer
        split at h
        · cases h
        · split at h
          · cases h
          · next insDate _ =>
            split_ifs at h with hwindow hweight hgroup
            split at h
            · cases h
            · next weightCategory _ =>
              cases h
              exact ⟨player, _, insDate, weightCategory, Bool.eq_false_iff.mpr hfresh, hprofile,
                by simpa using hrole, fun hgroups hnone => hgroup ⟨hgroups, hnone⟩, rfl⟩

theorem enrollable_of_checkStudent {st : Student} {it : GroupItem}
    (h : checkStudent reg db compId comp st = .item it) : Enrollable reg it := by
  obtain ⟨player, weight, insDate, weightCategory, -, hprofile, -, -, heq⟩ := checkStudent_item h
  refine ⟨⟨player, hprofile⟩, insDate, ?_⟩
  -- the date is stored as its ISO text, which is read back
  rw [heq]
  exact fromisoformat_isoformat insDate

/-- What holds of every item that a check of one student gives is kept by the loop. -/
theorem forall_items_add {P : GroupItem → Prop} {acc : CheckedStudents}
    (hacc : ∀ it ∈ acc.items, P it) {checked : Checked} (hchecked : ∀ it, checked = .item it → P it) :
    ∀ it ∈ (acc.add checked).items, P it := by
  cases checked with
  | ignored | already | error => exact hacc
  | item it' =>
    intro it hmem
    rcases List.mem_append.mp hmem with hold | hnew
    · exact hacc it hold
    · obtain rfl := List.mem_singleton.mp hnew
      exact hchecked it rfl

/-- What holds of every item that a check of one student gives holds of all items. -/
theorem forall_items_checkStudents {P : GroupItem → Prop}
    (hstudent : ∀ st it, checkStudent reg db compId comp st = .item it → P it)
    (students : List Student) :
    ∀ it ∈ (checkStudents reg db compId comp students).items, P it := by
  unfold checkStudents
  apply List.foldlRecOn (motive := fun acc : CheckedStudents => ∀ it ∈ acc.items, P it)
  · intro it hmem
    cases hmem
  · intro acc hacc st _
    exact forall_items_add hacc (hstudent st)

/-- **Accepted students can be enrolled.** Every item the loop collects has a player and a
date the finalisation can read. -/
theorem enrollable_checkStudents (students : List Student) :
    ∀ it ∈ (checkStudents reg db compId comp students).items, Enrollable reg it :=
  forall_items_checkStudents (fun _ _ h => enrollable_of_checkStudent h) students

end Students

/-! ### Pricing -/

/-- The amounts of a group, in rials. -/
structure Quote where
  rawTotal : ℕ
  discountAmount : ℕ
  payableAmount : ℕ
  code : Option (ℕ × DiscountCode)

/-- Total, discount and payable amount. Every error of the discount becomes the same
`DRFValidationError`. -/
def priceGroup (compId entryFee count : ℕ) (discountCode : String) (codes : Table DiscountCode) :
    Except Failure Quote :=
  let rawTotal := entryFee * count
  if discountCode = "" then .ok ⟨rawTotal, 0, rawTotal, none⟩
  else
    match applyDiscountForCompetition (some (.kyorugi compId)) rawTotal discountCode false none
      codes with
    | .ok (d, _) => .ok ⟨rawTotal, d.discountAmount, d.finalAmount, d.code⟩
    | .error _ => .error
        (.validationError [("discount_code", "کد تخفیف نامعتبر یا غیرقابل استفاده است.")])

/-! ### The handler -/

/-- The body of the request. `preview` is the `str` of the field. -/
structure CoachRegisterData where
  students : List Student
  preview : String
  gateway : String
  discountCode : String
  deriving Inhabited

/-- The group payment the handler creates. -/
def newGroup (coach : ℤ) (compId : ℕ) (items : List GroupItem) (q : Quote) (now : Time) :
    GroupRegistrationPayment where
  coach := coach
  competition := compId
  payload := {
    items := items
    rawTotalToman := q.rawTotal / 10
    discountAmountToman := q.discountAmount / 10
    payableAmountToman := q.payableAmount / 10
    rawTotal := q.rawTotal
    discountAmount := q.discountAmount
    payableAmount := some q.payableAmount
    discountCode := q.code.map fun c => c.2.code
    createdAt := now
    enrollmentIds := none
    paidAt := none }
  totalAmount := q.payableAmount
  isPaid := false
  bankRefCode := none

/-- `_finalize_free_or_test`: the loop of the finalisation, from the new payload. -/
def finalizeFreeOrTest (reg : Registry) (now : Time) (coachName : String)
    (gp : GroupRegistrationPayment) (refCode : String) (t : Table Enrollment) :
    Except Failure (List ℕ × Table Enrollment) :=
  let parts := splitAmounts (gp.payload.payableAmount.getD 0) gp.payload.items.length
  createPaidEnrollments reg now gp coachName refCode parts 0 gp.payload.items t

/-- The group after `_finalize_free_or_test`. -/
def GroupRegistrationPayment.simulated (gp : GroupRegistrationPayment) (refCode : String)
    (ids : List ℕ) : GroupRegistrationPayment :=
  { gp with
    isPaid := true
    bankRefCode := some refCode
    payload := { gp.payload with enrollmentIds := some ids } }

/-- `f"TEST-COACH-GP-{gp.id:06d}"` -/
def testRefCode (gpId : ℕ) : String :=
  let digits := toString gpId
  "TEST-COACH-GP-" ++ String.ofList (List.replicate (6 - digits.length) '0') ++ digits

/-- The intent the handler creates for group `gpId`. -/
def groupIntent (cfg : Settings) (user : ℕ) (publicId gateway : String) (gpId : ℕ) (q : Quote) :
    PaymentIntent :=
  let intent := PaymentIntent.create publicId user q.payableAmount q.rawTotal
    (groupDescription gpId) gateway cfg.paymentsCallbackUrl (.group gpId)
  match q.code with
  | some (pk, _) => { intent with discountCode := some pk, discountAmount := q.discountAmount }
  | none => intent

/-- `skipped_already_enrolled` and `errors`, which most answers carry. -/
def CheckedStudents.report (c : CheckedStudents) : List (String × Json) :=
  [("skipped_already_enrolled", .arr (c.skippedAlready.map Json.num)),
    ("errors", .obj (c.errors.map fun e => (e.1, .str e.2)))]

/-- The entry of `enrollments` for one created enrollment. Its status is that of the
object in memory, which `mark_paid` has not touched. -/
def enrollmentOut (reg : Registry) (id : ℕ) (it : GroupItem) : Json :=
  let name := ((reg.profile it.playerId).map fun p => Text.strip p.fullName).getD ""
  .obj [("enrollment_id", .num id), ("status", .str "pending_payment"),
    ("player", .obj [("id", .num it.playerId), ("name", .str name)])]

/-- The part of the handler that follows the pricing. -/
def settleOrCharge (cfg : Settings) (reg : Registry) (now : Time) (user : ℕ) (publicId : String)
    (coach : ℤ) (coachProfile : UserProfile) (compId : ℕ) (gateway : String) (preview : Bool)
    (checked : CheckedStudents) (q : Quote) (db : Db) : Except Failure (Response × Db) :=
  let gpId := db.groups.next
  let gp := newGroup coach compId checked.items q now
  let amounts :=
    [("amount_toman", Json.num (q.payableAmount / 10)), ("amount_irr", .num q.payableAmount)]
  if preview then
    .ok (.json 200 ([("detail", .str "پیش‌نمایش محاسبه شد."), ("preview", .bool true),
      ("payment_required", .bool (decide (0 < q.payableAmount))),
      ("raw_total_irr", .num q.rawTotal), ("discount_amount_irr", .num q.discountAmount),
      ("amount_irr", .num q.payableAmount),
      ("raw_total_toman", .num (q.rawTotal / 10)),
      ("discount_amount_toman", .num (q.discountAmount / 10)),
      ("amount_toman", .num (q.payableAmount / 10)),
      ("discount_code", .ofText? (q.code.map fun c => c.2.code)), ("gateway", .str gateway),
      ("count", .num checked.items.length)] ++ checked.report), db)
  else if !reg.acceptsGroup gp then .error (.integrityError "GroupRegistrationPayment")
  else if !cfg.paymentsEnabled || q.payableAmount == 0 then do
    -- no intent and no use of the code is recorded on this path
    let ref := if q.payableAmount = 0 then "FREE" else testRefCode gpId
    let (ids, enrollments) ← finalizeFreeOrTest reg now (Text.strip coachProfile.fullName) gp ref
      db.enrollments
    return (.json 201 ([("detail", .str "ثبت‌نام انجام و پرداخت (رایگان/آزمایشی) تأیید شد."),
      ("group_payment_id", .num gpId), ("payment_required", .bool false)] ++ amounts ++
      [("enrollment_ids", .arr (ids.map fun id => .num id)),
        ("enrollments", .arr (List.zipWith (enrollmentOut reg) ids checked.items))] ++
      checked.report),
      { db with enrollments, groups := db.groups.insert (gp.simulated ref ids) })
  else if !publicIdFree db publicId then .error (.integrityError "PaymentIntent")
  else
    let intent := groupIntent cfg user publicId gateway gpId q
    .ok (.json 201 ([("detail", .str "ثبت‌نام ایجاد شد. پرداخت لازم است."),
      ("payment_required", .bool true)] ++ amounts ++
      [("payment_intent_public_id", .str intent.publicId), ("group_payment_id", .num gpId)] ++
      checked.report),
      { db with groups := db.groups.insert gp, intents := db.intents.insert intent })

/-- `CoachRegisterStudentsView.post` -/
def coachRegister (cfg : Settings) (reg : Registry) (now : Time) (today : Date) (user : ℕ)
    (publicId key : String) (data : CoachRegisterData) (db : Db) :
    Except Failure (Response × Db) :=
  match (reg.getCompByKey key).bind fun id => (reg.kyorugi id).map (Prod.mk id) with
  | none => .error .http404
  | some (compId, comp) =>
    match (reg.coachFromRequest user).bind fun id => (reg.profile id).map (Prod.mk id) with
    | none => .ok (.json 404 [("detail", .str "پروفایل مربی یافت نشد.")], db)
    | some (coach, coachProfile) =>
      if !comp.registrationOpenEffective today then
        .ok (.json 400 [("detail", .str "ثبت‌نام این مسابقه فعال نیست.")], db)
      else if data.students.isEmpty then
        .ok (.json 400 [("detail", .str "لیست شاگردان خالی است.")], db)
      else
        let preview := ["1", "true", "yes"].contains (Text.lower data.preview)
        let gateway := Text.lower (Text.strip (Text.orElse data.gateway "sadad"))
        let discountCode := Text.strip data.discountCode
        let checked := checkStudents reg db compId comp data.students
        if checked.items.isEmpty && checked.errors.isEmpty && !checked.skippedAlready.isEmpty then
          .ok (.json 200 (("detail", .str "همه شاگردها قبلاً ثبت‌نام شده‌اند.") ::
            checked.report), db)
        else if checked.items.isEmpty then
          .ok (.json 400 (("detail", .str "هیچ ثبت‌نامی ساخته نشد.") :: checked.report), db)
        else if 0 < comp.entryFee ∧ comp.entryFee < 10000 then
          .ok (.json 500 [("detail",
            .str "مبلغ ثبت‌نام مسابقه باید به ریال باشد (entry_fee خیلی کوچک است).")], db)
        else do
          let q ← priceGroup compId comp.entryFee checked.items.length discountCode db.codes
          settleOrCharge cfg reg now user publicId coach coachProfile compId gateway preview
            checked q db

/-! ### What a request writes -/

/-- The database after a request that returns: unchanged, with a group finalised at
once, or with an open group and its intent. -/
inductive CoachWrites (cfg : Settings) (reg : Registry) (now : Time) (user : ℕ)
    (publicId : String) (db : Db) : Db → Prop
  | nothing : CoachWrites cfg reg now user publicId db db
  | simulated (coach : ℤ) (compId : ℕ) (items : List GroupItem) (q : Quote)
      (coachName ref : String) (ids : List ℕ) (t : Table Enrollment) (hitems : items ≠ [])
      (hloop : finalizeFreeOrTest reg now coachName (newGroup coach compId items q now) ref
        db.enrollments = .ok (ids, t)) :
      CoachWrites cfg reg now user publicId db
        { db with
          enrollments := t
          groups := db.groups.insert ((newGroup coach compId items q now).simulated ref ids) }
  | opened (coach : ℤ) (compId : ℕ) (items : List GroupItem) (q : Quote) (gateway : String)
      (hitems : items ≠ []) (hfree : publicIdFree db publicId = true) :
      CoachWrites cfg reg now user publicId db
        { db with
          groups := db.groups.insert (newGroup coach compId items q now)
          intents := db.intents.insert
            (groupIntent cfg user publicId gateway db.groups.next q) }

section CoachRegister

variable {cfg : Settings} {reg : Registry} {now : Time} {user : ℕ} {publicId : String}
  {db db' : Db} {r : Response}

/-- What the end of a request does: nothing, finalise the group, or open it. -/
theorem settleOrCharge_cases {coach : ℤ} {coachProfile : UserProfile} {compId : ℕ}
    {gateway : String} {preview : Bool} {checked : CheckedStudents} {q : Quote}
    (h : settleOrCharge cfg reg now user publicId coach coachProfile compId gateway preview
      checked q db = .ok (r, db')) :
    db' = db ∨
    (preview = false ∧ (cfg.paymentsEnabled = false ∨ q.payableAmount = 0) ∧
      ∃ coachName ref ids t, finalizeFreeOrTest reg now coachName
        (newGroup coach compId checked.items q now) ref db.enrollments = .ok (ids, t) ∧
        db' = { db with
          enrollments := t
          groups := db.groups.insert
            ((newGroup coach compId checked.items q now).simulated ref ids) }) ∨
    (publicIdFree db publicId = true ∧
      db' = { db with
        groups := db.groups.insert (newGroup coach compId checked.items q now)
        intents := db.intents.insert
          (groupIntent cfg user publicId gateway db.groups.next q) }) := by
  simp only [settleOrCharge, bind, Except.bind, pure, Except.pure] at h
  split at h
  · cases h
    exact Or.inl rfl
  · next hpreview =>
    split at h
    · cases h
    · split at h
      · next hatonce =>
        -- nothing to pay, or payments are off: the group is completed at once
        split at h
        · cases h
        · next x hx =>
          cases h
          refine Or.inr (Or.inl ⟨by simpa using hpreview, ?_, _, _, x.1, x.2, hx, rfl⟩)
          simpa using hatonce
      · split at h
        · cases h
        · next hfree =>
          -- else it waits for its intent
          cases h
          exact Or.inr (Or.inr ⟨by simpa using hfree, rfl⟩)

/-- A request that returns has answered without writing, or has come to its end with
accepted students and a price. -/
theorem coachRegister_cases {today : Date} {key : String} {data : CoachRegisterData}
    (h : coachRegister cfg reg now today user publicId key data db = .ok (r, db')) :
    db' = db ∨
    ∃ compId comp coach coachProfile gateway q,
      ((reg.getCompByKey key).bind fun id => (reg.kyorugi id).map (Prod.mk id)) =
        some (compId, comp) ∧
      (checkStudents reg db compId comp data.students).items ≠ [] ∧
      priceGroup compId comp.entryFee (checkStudents reg db compId comp data.students).items.length
        (Text.strip data.discountCode) db.codes = .ok q ∧
      settleOrCharge cfg reg now user publicId coach coachProfile compId gateway
        (["1", "true", "yes"].contains (Text.lower data.preview))
        (checkStudents reg db compId comp data.students) q db = .ok (r, db') := by
  simp only [coachRegister] at h
  split at h
  · cases h
  · next compId comp hcomp =>
    split at h
    · cases h
      exact Or.inl rfl
    · next coach coachProfile _ =>
      split_ifs at h with hclosed hempty hskipped hnone hfee
      -- every early answer leaves the database alone
      iterate 5
        · cases h
          exact Or.inl rfl
      simp only [bind, Except.bind] at h
      split at h
      · cases h
      · next q hq =>
        exact Or.inr ⟨compId, comp, coach, coachProfile, _, q, hcomp, by simpa using hnone, hq, h⟩

theorem coachRegister_ok {today : Date} {key : String} {data : CoachRegisterData}
    (h : coachRegister cfg reg now today user publicId key data db = .ok (r, db')) :
    CoachWrites cfg reg now user publicId db db' := by
  rcases coachRegister_cases h with rfl |
    ⟨compId, comp, coach, coachProfile, gateway, q, -, hitems, -, hend⟩
  · exact .nothing
  · rcases settleOrCharge_cases hend with rfl |
      ⟨-, -, coachName, ref, ids, t, hloop, rfl⟩ | ⟨hfree, rfl⟩
    · exact .nothing
    · exact .simulated coach compId _ q coachName ref ids t hitems hloop
    · exact .opened coach compId _ q gateway hitems hfree

/-- A group's intent carries the group's amount and names the group. -/
theorem groupIntent_spec (cfg : Settings) (user : ℕ) (publicId gateway : String) (gpId : ℕ)
    (q : Quote) :
    let i := groupIntent cfg user publicId gateway gpId q
    i.amount = q.payableAmount ∧ i.description = groupDescription gpId ∧ i.origin = .group gpId ∧
      i.status = .initiated ∧ i.token = "" ∧ i.refId = "" ∧ i.publicId = publicId := by
  dsimp only [groupIntent]
  split <;> exact ⟨rfl, rfl, rfl, rfl, rfl, rfl, rfl⟩

end CoachRegister

end Tkdchb
