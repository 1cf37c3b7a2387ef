import Tkdchb.Payments.Records

/-!
# Settling an intent

`PaymentIntent.mark_paid` and what it does to the targets of the intent and to
its discount code. The whole of it runs in one transaction: a failure on the way
is an `Except.error` and leaves no trace.

## Main definitions

* `applySuccessToTargets` — `PaymentIntent._apply_success_to_targets`
* `DiscountCode.saveUse` — the counter update at the end of `mark_paid`, from an
  in-memory copy of the code onto its row
* `markPaid` — `PaymentIntent.mark_paid`

## Main results

* `markPaid_of_paid` — settling a paid intent does nothing
* `markPaid_ok` — what a settlement that returns has written
* `markPaid_returns_iff` — when it returns
-/

namespace Tkdchb

open Calendar

/-! ### Targets -/

/-- `_mark_enrollment_paid` of `_apply_success_to_targets`. -/
def markEnrollmentPaid (amount : ℕ) (refId : String) (setPaidAmount : Bool) (e : Enrollment) :
    Enrollment :=
  { e with
    isPaid := true
    paidAmount := if setPaidAmount && e.paidAmount == 0 then amount else e.paidAmount
    status := .paid
    bankRefCode := Text.orElse e.bankRefCode refId }

/-- `PoomsaeEnrollment._auto_fill_snapshots` -/
def PoomsaeRegistration.autoFillSnapshots (reg : Registry) (r : PoomsaeRegistration) :
    PoomsaeRegistration :=
  let player := r.player.bind reg.profile
  let coachName :=
    match r.coach.bind reg.profile with
    | some coach => if Text.strip r.coachName = "" then Text.strip coach.fullName else r.coachName
    | none => r.coachName
  let club := r.club.or (player.bind UserProfile.club)
  let clubName :=
    match club.bind reg.club with
    | some c => if Text.strip r.clubName = "" then c.clubName else r.clubName
    | none => r.clubName
  let board := r.board.or (player.bind UserProfile.tkdBoard)
  let boardName :=
    match board.bind reg.board with
    | some b => if Text.strip r.boardName = "" then b.name else r.boardName
    | none => r.boardName
  { r with coachName, club, clubName, board, boardName }

/-- The errors `PoomsaeEnrollment.clean` collects, by field. -/
def PoomsaeRegistration.cleanErrors (reg : Registry) (r : PoomsaeRegistration) :
    List (String × String) :=
  let modeErrors :=
    match r.mode with
    | .team =>
      (if r.team.isNone then [("team", "در ثبت‌نام تیمی، انتخاب تیم الزامی است.")] else []) ++
      (if r.player.isSome then
        [("player", "در ثبت‌نام تیمی نباید بازیکن (player) ست شود.")] else []) ++
      (match r.team.bind reg.poomsaeTeam with
      | some t =>
        (if t.competition ≠ r.competition then
          [("team", "این تیم متعلق به این مسابقه نیست.")] else []) ++
        (if t.style ≠ r.poomsaeType then
          [("poomsae_type", "نوع پومسه با سبک تیم مطابقت ندارد.")] else [])
      | none => [])
    | .single =>
      (if r.player.isNone then
        [("player", "در ثبت‌نام انفرادی، انتخاب بازیکن الزامی است.")] else []) ++
      (if r.team.isSome then
        [("team", "در ثبت‌نام انفرادی نباید تیم انتخاب شود.")] else [])
  let insuranceErrors :=
    match (reg.poomsae r.competition).bind PoomsaeCompetition.competitionDate with
    | some compDate =>
      let delta : ℤ := compDate.toOrdinal - r.insuranceIssueDate.toOrdinal
      if delta < 3 ∨ 365 < delta then
        [("insurance_issue_date", "تاریخ بیمه باید بین ۳ روز تا ۱ سال قبل از مسابقه باشد.")]
      else []
    | none => []
  modeErrors ++ insuranceErrors

/-- `PoomsaeEnrollment.save`: `full_clean`, which also fills the snapshots, then
the write. Nothing of it looks at the payment columns. -/
def PoomsaeRegistration.fullClean (reg : Registry) (r : PoomsaeRegistration) :
    Except Failure PoomsaeRegistration :=
  let errors := r.cleanErrors reg
  if reg.poomsaeFieldsClean r && errors.isEmpty then
    .ok (if r.player.isSome then r.autoFillSnapshots reg else r)
  else
    .error (.validationError errors)

/-- The payment of the enrollment is still incomplete: `changed` is set. -/
def PoomsaeEnrollment.unsettled (pe : PoomsaeEnrollment) : Bool :=
  !pe.isPaid || pe.paidAmount == 0 || decide (pe.status ≠ .paid) || pe.bankRefCode == ""

/-- The poomsae part of `_apply_success_to_targets`. -/
def settlePoomsae (reg : Registry) (amount : ℕ) (refId : String) (pe : PoomsaeEnrollment) :
    Except Failure PoomsaeEnrollment :=
  if pe.unsettled then do
    let registration ← pe.registration.fullClean reg
    return { pe with
      registration
      isPaid := true
      paidAmount := if pe.paidAmount = 0 then amount else pe.paidAmount
      status := .paid
      bankRefCode := Text.orElse pe.bankRefCode refId }
  else
    .ok pe

/-- `SeminarRegistration.mark_paid` -/
def SeminarRegistration.markPaid (amount : ℕ) (refCode : String) (now : Time)
    (sr : SeminarRegistration) : SeminarRegistration :=
  if sr.isPaid then sr
  else
    { sr with
      isPaid := true
      paidAmount := amount
      bankRefCode := if refCode ≠ "" then refCode else sr.bankRefCode
      paidAt := some now }

/-- The enrollments after the bulk and the single kyorugi targets. -/
def settleKyorugi (self : PaymentIntent) (enrollments : Table Enrollment) : Table Enrollment :=
  let bulk := self.kyorugiEnrollments.foldl
    (fun t e => t.modify e (markEnrollmentPaid self.amount self.refId false)) enrollments
  match self.kyorugiEnrollment with
  | some e => bulk.modify e (markEnrollmentPaid self.amount self.refId true)
  | none => bulk

/-- The poomsae enrollments after the poomsae target. -/
def settlePoomsaeTarget (reg : Registry) (self : PaymentIntent)
    (poomsae : Table PoomsaeEnrollment) : Except Failure (Table PoomsaeEnrollment) :=
  match self.poomsaeEnrollment with
  | none => .ok poomsae
  | some k =>
    match poomsae.get k with
    | none => .ok poomsae
    | some pe => do
      let pe' ← settlePoomsae reg self.amount self.refId pe
      return poomsae.modify k fun _ => pe'

/-- The seminar registrations after the seminar target. `mark_paid` does not
raise there, so the fallback behind it is not reached. -/
def settleSeminar (now : Time) (self : PaymentIntent) (seminars : Table SeminarRegistration) :
    Table SeminarRegistration :=
  match self.seminarRegistration with
  | some k => seminars.modify k (SeminarRegistration.markPaid self.amount self.refId now)
  | none => seminars

/-- `PaymentIntent._apply_success_to_targets` -/
def applySuccessToTargets (reg : Registry) (now : Time) (self : PaymentIntent) (db : Db) :
    Except Failure Db := do
  let enrollments := settleKyorugi self db.enrollments
  let poomsae ← settlePoomsaeTarget reg self db.poomsae
  return { db with enrollments, poomsae, seminars := settleSeminar now self db.seminars }

/-- The poomsae target, if it has to be saved, passes `full_clean`. -/
def TargetClean (reg : Registry) (self : PaymentIntent) (poomsae : Table PoomsaeEnrollment) :
    Prop :=
  ∀ k pe, self.poomsaeEnrollment = some k → poomsae.get k = some pe → pe.unsettled = true →
    reg.poomsaeFieldsClean pe.registration = true ∧ pe.registration.cleanErrors reg = []

theorem fullClean_returns_iff {reg : Registry} {r : PoomsaeRegistration} :
    (∃ r', r.fullClean reg = .ok r') ↔
      reg.poomsaeFieldsClean r = true ∧ r.cleanErrors reg = [] := by
  have hcond : (reg.poomsaeFieldsClean r && (r.cleanErrors reg).isEmpty) = true ↔
      reg.poomsaeFieldsClean r = true ∧ r.cleanErrors reg = [] := by
    rw [Bool.and_eq_true, List.isEmpty_iff]
  unfold PoomsaeRegistration.fullClean
  dsimp only
  split
  · next h => exact iff_of_true ⟨_, rfl⟩ (hcond.mp h)
  · next h => exact iff_of_false (fun ⟨_, hr⟩ => by cases hr) (hcond.not.mp h)

/-- The targets are settled without an exception exactly when the poomsae target is
clean. -/
theorem settlePoomsaeTarget_returns_iff {reg : Registry} {self : PaymentIntent}
    {poomsae : Table PoomsaeEnrollment} :
    (∃ t, settlePoomsaeTarget reg self poomsae = .ok t) ↔ TargetClean reg self poomsae := by
  unfold settlePoomsaeTarget TargetClean
  cases htarget : self.poomsaeEnrollment with
  | none => exact iff_of_true ⟨_, rfl⟩ fun _ _ h => by cases h
  | some k =>
    dsimp only
    cases hpe : poomsae.get k with
    | none =>
      refine iff_of_true ⟨_, rfl⟩ ?_
      rintro _ pe ⟨⟩ hget
      simp [hpe] at hget
    | some pe =>
      -- the target is one row, so the two quantifiers of `TargetClean` go
      have hclean : (∀ k' pe', some k = some k' → poomsae.get k' = some pe' →
          pe'.unsettled = true → reg.poomsaeFieldsClean pe'.registration = true ∧
            pe'.registration.cleanErrors reg = []) ↔
          (pe.unsettled = true → ∃ r', pe.registration.fullClean reg = .ok r') := by
        rw [fullClean_returns_iff]
        constructor
        · exact fun h => h k pe rfl hpe
        · rintro h _ pe' ⟨⟩ hget
          obtain rfl : pe = pe' := Option.some.inj (hpe.symm.trans hget)
          exact h
      rw [hclean]
      dsimp only [settlePoomsae]
      -- a settled enrollment is not saved, hence not cleaned either
      by_cases hunsettled : pe.unsettled = true
      · rw [if_pos hunsettled]
        cases pe.registration.fullClean reg with
        | error e => simp [hunsettled, bind, Except.bind]
        | ok r => simp [bind, Except.bind, pure, Except.pure]
      · rw [if_neg hunsettled]
        exact iff_of_true ⟨_, rfl⟩ fun h => absurd h hunsettled

/-! ### The discount counter -/

/-- The counter update of `mark_paid`, saved from the copy `dc` onto the row. Only
`used_count`, and `active` when the cap is reached, are written. -/
def DiscountCode.saveUse (dc row : DiscountCode) : DiscountCode :=
  let bumped := { dc with usedCount := dc.usedCount + 1 }
  if bumped.exhausted then { row with usedCount := bumped.usedCount, active := false }
  else { row with usedCount := bumped.usedCount }

/-- Read the code, count one use and save it, with nothing in between. -/
def DiscountCode.recordUse (dc : DiscountCode) : DiscountCode := dc.saveUse dc

@[simp] theorem DiscountCode.saveUse_usedCount (dc row : DiscountCode) :
    (dc.saveUse row).usedCount = dc.usedCount + 1 := by
  unfold DiscountCode.saveUse
  dsimp only
  split <;> rfl

@[simp] theorem DiscountCode.saveUse_maxUses (dc row : DiscountCode) :
    (dc.saveUse row).maxUses = row.maxUses := by
  unfold DiscountCode.saveUse
  dsimp only
  split <;> rfl

/-- Saving a use that reaches the cap deactivates the code. -/
theorem DiscountCode.saveUse_inactive {dc row : DiscountCode} (hmax : dc.maxUses = row.maxUses)
    (h : (dc.saveUse row).exhausted = true) : (dc.saveUse row).active = false := by
  have hbump : ({ dc with usedCount := dc.usedCount + 1 } : DiscountCode).exhausted = true := by
    simpa [DiscountCode.exhausted, hmax] using h
  simp only [DiscountCode.saveUse, hbump, ↓reduceIte]

/-! ### The intent itself -/

/-- The in-memory intent after the assignments of `mark_paid`. -/
def PaymentIntent.settled (self : PaymentIntent) (refId cardPan : String) (extra : IntentExtra) :
    PaymentIntent :=
  { self with
    refId := Text.orElse refId self.refId
    cardPan := Text.orElse cardPan self.cardPan
    extra := match extra with | .empty => self.extra | extra => extra
    status := .paid }

/-- `save(update_fields=["status", "ref_id", "card_pan", "extra", "updated_at"])` -/
def PaymentIntent.saveSettled (self row : PaymentIntent) : PaymentIntent :=
  { row with
    status := self.status
    refId := self.refId
    cardPan := self.cardPan
    extra := self.extra }

/-- The counter of the code an intent carries, after one more use. -/
def consumeCode (self : PaymentIntent) (codes : Table DiscountCode) : Table DiscountCode :=
  match self.discountCode with
  | some c => codes.modify c DiscountCode.recordUse
  | none => codes

/-- `PaymentIntent.mark_paid` on the in-memory intent `self`, whose row is `pk`. -/
def markPaid (reg : Registry) (now : Time) (pk : ℕ) (self : PaymentIntent)
    (refId cardPan : String) (extra : IntentExtra) (db : Db) :
    Except Failure (PaymentIntent × Db) :=
  if self.status = .paid then .ok (self, db)
  else do
    let self := self.settled refId cardPan extra
    -- saved before the targets; a failure there rolls it back
    let db := { db with intents := db.intents.modify pk self.saveSettled }
    let db ← applySuccessToTargets reg now self db
    return (self, { db with codes := consumeCode self db.codes })

section MarkPaid

variable {reg : Registry} {now : Time} {pk : ℕ} {self self' : PaymentIntent}
  {refId cardPan : String} {extra : IntentExtra} {db db' : Db}

/-- Settling a paid intent does nothing: its fields stay as they are. -/
theorem markPaid_of_paid (h : self.status = .paid) :
    markPaid reg now pk self refId cardPan extra db = .ok (self, db) := if_pos h

/-- What a settlement writes, apart from the targets. -/
structure Settles (pk : ℕ) (i : PaymentIntent) (db db' : Db) : Prop where
  intents : db'.intents = db.intents.modify pk i.saveSettled
  banks : db'.banks = db.banks
  groups : db'.groups = db.groups
  enrollments : db'.enrollments = settleKyorugi i db.enrollments
  codes : db'.codes = consumeCode i db.codes

/-- A settlement of an unpaid intent that returns has written the intent, its
targets and the counter of its code, and nothing else. -/
theorem markPaid_ok (h : markPaid reg now pk self refId cardPan extra db = .ok (self', db'))
    (hs : self.status ≠ .paid) :
    self' = self.settled refId cardPan extra ∧ Settles pk self' db db' := by
  simp only [markPaid, if_neg hs, applySuccessToTargets, bind, Except.bind, pure, Except.pure] at h
  split at h
  · cases h
  · next poomsae hpoomsae =>
    split at hpoomsae
    · cases hpoomsae
    · cases hpoomsae
      cases h
      exact ⟨rfl, rfl, rfl, rfl, rfl, rfl⟩

/-- The settlement of an unpaid intent returns exactly when its target is clean. -/
theorem markPaid_returns_iff (hs : self.status ≠ .paid) :
    (∃ x, markPaid reg now pk self refId cardPan extra db = .ok x) ↔
      TargetClean reg self db.poomsae := by
  have htarget : TargetClean reg self db.poomsae ↔
      ∃ t, settlePoomsaeTarget reg (self.settled refId cardPan extra) db.poomsae = .ok t := by
    rw [settlePoomsaeTarget_returns_iff]
    exact Iff.rfl
  rw [htarget]
  simp only [markPaid, if_neg hs, applySuccessToTargets, bind, Except.bind, pure, Except.pure]
  cases settlePoomsaeTarget reg (self.settled refId cardPan extra) db.poomsae with
  | error e => exact iff_of_false (fun ⟨_, h⟩ => by cases h) fun ⟨_, h⟩ => by cases h
  | ok t => exact iff_of_true ⟨_, rfl⟩ ⟨_, rfl⟩

end MarkPaid

end Tkdchb
