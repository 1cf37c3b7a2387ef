import Tkdchb.Competitions.Admission
import Tkdchb.Competitions.OpenGates

/-!
# What becomes of a valid registration

A player who registers alone has passed every check when the row of his enrollment is made.
For kyorugi the row is asked for with arguments the model does not have. For poomsae it is
made, and then marked as paid by a method it does not have, if there is nothing to pay.

## Main definitions

* `ValidSelfRequest`, `ValidPoomsaeRequest` — the request passes all checks
* `CommitsEnrollment`, `CommitsPoomsae` — it ends with one new enrollment, paid if there is
  nothing to pay

## Main results

* `registerSelf_of_valid`, `poomsaeRegisterSelf_of_valid` — how such a request ends
* `committed_iff` — which requests are committed
-/

namespace Tkdchb

open Calendar Web

/-! ### Kyorugi -/

section Kyorugi

variable {cfg : Settings} {reg : Registry} {self : SelfRegistry} {today : Date} {user : ℕ}
  {key : String} {data : SelfRegisterData} {db : Db} {compId : ℕ} {comp : KyorugiCompetition}
  {player : ℤ}

/-- The request passes the checks of `RegisterSelfView.post` and of the serializer. -/
structure ValidSelfRequest (reg : Registry) (lookups : SelfRegistry) (today : Date) (user : ℕ)
    (key : String) (data : SelfRegisterData) (db : Db) (compId : ℕ) (comp : KyorugiCompetition)
    (player : ℤ) : Prop extends ReachesDateChecks reg lookups user key data db compId comp player where
  isOpen : comp.registrationOpenEffective today = true
  valid : data.validate lookups today user compId comp db = .ok ()

/-- The request is answered and has made one enrollment, with a status of the model, which is
paid if payments are off or there is no fee. -/
def CommitsEnrollment (cfg : Settings) (comp : KyorugiCompetition) (db : Db)
    (result : Except SelfError (Response × Db)) : Prop :=
  ∃ r e, result = .ok (r, { db with enrollments := db.enrollments.insert e }) ∧
    e.status ≠ .blank ∧ (cfg.paymentsEnabled = false ∨ comp.entryFee = 0 → e.isPaid = true)

/-- **A valid request raises**, whatever the fee. -/
theorem registerSelf_of_valid
    (h : ValidSelfRequest reg self today user key data db compId comp player) :
    registerSelf reg self today user key data db = .error (selfCreateError comp) := by
  rw [registerSelf_of_reaches h.toReachesDateChecks, if_pos h.isOpen, h.valid]
  rfl

theorem not_commitsEnrollment
    (h : ValidSelfRequest reg self today user key data db compId comp player) :
    ¬CommitsEnrollment cfg comp db (registerSelf reg self today user key data db) := by
  rintro ⟨r, e, hok, -⟩
  rw [registerSelf_of_valid h] at hok
  cases hok

end Kyorugi

/-! ### Poomsae -/

section Poomsae

variable {cfg : Settings} {T : EligibilityTables} {jd : Jdatetime} {base : Registry}
  {look : PoomsaeLookups} {today : Date} {user : ℕ} {key : String} {data : PoomsaeSelfData}
  {db : Db} {compId : ℕ} {comp : PoomsaeSettings} {pid : ℤ} {player : PlayerProfile} {coach : ℤ}
  {iid : Date}

/-- The request passes the checks of `PoomsaeRegisterSelfView.post`. -/
structure ValidPoomsaeRequest (T : EligibilityTables) (jd : Jdatetime) (look : PoomsaeLookups)
    (today : Date) (user : ℕ) (key : String) (data : PoomsaeSelfData) (db : Db) (compId : ℕ)
    (comp : PoomsaeSettings) (pid : ℤ) (player : PlayerProfile) (coach : ℤ) (iid : Date) :
    Prop where
  found : look.getCompByKey key = some compId
  competition : T.poomsae compId = some comp
  isOpen : comp.shared.registrationOpenEffective today = true
  profile : T.profiles.firstOf user ["player", "both"] = some (pid, player)
  checked : (data.fields jd).check look compId comp = .ok (coach, iid)
  fresh : alreadyInPoomsae db compId pid (data.fields jd).poomsaeType = false
  grouped : comp.belts.Grouped (playerBeltCodeFromProfile player)

/-- The columns of the row, without the rules of `clean`. -/
def ColumnsAccepted (T : EligibilityTables) (jd : Jdatetime) (base : Registry)
    (look : PoomsaeLookups) (data : PoomsaeSelfData) (compId : ℕ) (pid : ℤ)
    (player : PlayerProfile) (coach : ℤ) (iid : Date) : Prop :=
  (T.registry base).poomsaeFieldsClean (newPoomsaeEnrollment (T.registry base) look compId pid
      player.toUserProfile coach (data.fields jd).poomsaeType iid) = true ∧
    look.columnsClean (data.fields jd).insuranceNumber (data.fields jd).coachCode = true

/-- The request is answered and has made one enrollment, with a status of the model, which is
paid if payments are off or there is no fee. -/
def CommitsPoomsae (cfg : Settings) (comp : PoomsaeSettings) (db : Db)
    (result : Except PoomsaeError (Response × Db)) : Prop :=
  ∃ r e, result = .ok (r, { db with poomsae := db.poomsae.insert e }) ∧
    e.status ≠ .blank ∧ (cfg.paymentsEnabled = false ∨ comp.entryFee = 0 → e.isPaid = true)

/-- The date a request was accepted with is in the window. -/
theorem insuranceDate_ok {iso : String} (h : insuranceDate comp iso = .ok iid) :
    ¬((comp.shared.competitionDate.toOrdinal : ℤ) - iid.toOrdinal < 3 ∨
      365 < (comp.shared.competitionDate.toOrdinal : ℤ) - iid.toOrdinal) := by
  unfold insuranceDate at h
  split at h
  · cases h
  · dsimp only at h
    split at h
    · cases h
    · next hwindow =>
      obtain rfl := Except.ok.inj h
      exact hwindow

theorem check_ok {f : PoomsaeSelfFields} (h : f.check look compId comp = .ok (coach, iid)) :
    insuranceDate comp f.insuranceIssueDateIso = .ok iid := by
  unfold PoomsaeSelfFields.check at h
  dsimp only at h
  split at h
  · next hdate =>
    cases h
    exact hdate
  · cases h

/-- The rules of `clean` are among the checks of the handler. -/
theorem cleanErrors_newPoomsaeEnrollment
    (h : ValidPoomsaeRequest T jd look today user key data db compId comp pid player coach iid) :
    (newPoomsaeEnrollment (T.registry base) look compId pid player.toUserProfile coach
      (data.fields jd).poomsaeType iid).cleanErrors (T.registry base) = [] := by
  have hwindow := insuranceDate_ok (check_ok h.checked)
  have hcomp : (T.registry base).poomsae compId = some ⟨some comp.shared.competitionDate⟩ := by
    simp only [EligibilityTables.registry, h.competition, Option.map_some]
  simp only [PoomsaeRegistration.cleanErrors, newPoomsaeEnrollment, hcomp, Option.bind_some]
  exact List.append_eq_nil_iff.mpr ⟨rfl, if_neg hwindow⟩

/-- What is left of the handler after its checks. -/
def savePoomsae (cfg : Settings) (T : EligibilityTables) (jd : Jdatetime) (base : Registry)
    (look : PoomsaeLookups) (comp : PoomsaeSettings) (player : PlayerProfile)
    (f : PoomsaeSelfFields) (row : PoomsaeRegistration) (db : Db) :
    Except PoomsaeError (Response × Db) :=
  match row.fullClean (T.registry base) with
  | .error e => .error (.failure e)
  | .ok row =>
    if !look.columnsClean f.insuranceNumber f.coachCode then .error (.failure (.validationError []))
    else if !cfg.paymentsEnabled || comp.entryFee == 0 then
      .error (.attributeError "'PoomsaeEnrollment' object has no attribute 'mark_paid'")
    else
      .ok (createdAnswer db.poomsae.next f row (ageObj T jd comp player)
          (comp.belts.findBeltGroupObj (playerBeltCodeFromProfile player)),
        { db with poomsae := db.poomsae.insert ⟨row, .pendingPayment, false, 0, "", none⟩ })

/-- What the handler does with a valid request. -/
theorem poomsaeRegisterSelf_of_valid
    (h : ValidPoomsaeRequest T jd look today user key data db compId comp pid player coach iid) :
    poomsaeRegisterSelf cfg T jd base look today user key data db =
      savePoomsae cfg T jd base look comp player (data.fields jd)
        (newPoomsaeEnrollment (T.registry base) look compId pid player.toUserProfile coach
          (data.fields jd).poomsaeType iid) db := by
  have hcomp : (look.getCompByKey key).bind (fun id => (T.poomsae id).map (Prod.mk id)) =
      some (compId, comp) := by
    rw [h.found, Option.bind_some, h.competition, Option.map_some]
  have hgroup : ¬(comp.belts.groups ≠ [] ∧
      comp.belts.findBeltGroupObj (playerBeltCodeFromProfile player) = none) :=
    fun hnone => h.grouped hnone.1 hnone.2
  simp only [poomsaeRegisterSelf, hcomp, h.isOpen, Bool.not_true, Bool.false_eq_true, if_false,
    h.profile, h.checked, h.fresh, if_neg hgroup]
  rfl

/-- The row is committed if its columns are accepted and there is something to pay. -/
theorem commits_savePoomsae_iff {f : PoomsaeSelfFields} {row : PoomsaeRegistration} :
    CommitsPoomsae cfg comp db (savePoomsae cfg T jd base look comp player f row db) ↔
      (∃ row', row.fullClean (T.registry base) = .ok row') ∧
        look.columnsClean f.insuranceNumber f.coachCode = true ∧
        cfg.paymentsEnabled = true ∧ comp.entryFee ≠ 0 := by
  unfold savePoomsae
  cases hrow : row.fullClean (T.registry base) with
  | error e =>
    refine iff_of_false ?_ ?_
    · rintro ⟨r, e, hok, -⟩
      cases hok
    · rintro ⟨⟨row', hrow'⟩, -⟩
      cases hrow'
  | ok row =>
    rw [and_iff_right ⟨row, rfl⟩]
    dsimp only
    -- the columns may be refused, and a free registration stops at `mark_paid`
    split_ifs with hcolumns hfree
    · refine iff_of_false ?_ fun h => ?_
      · rintro ⟨r, e, hok, -⟩
        cases hok
      · rw [h.1] at hcolumns
        cases hcolumns
    · refine iff_of_false ?_ fun h => ?_
      · rintro ⟨r, e, hok, -⟩
        cases hok
      · simp [h.2.1, h.2.2] at hfree
    · simp only [Bool.or_eq_true, Bool.not_eq_true', beq_iff_eq, not_or, Bool.not_eq_false]
        at hcolumns hfree
      have hstatus : EnrollmentStatus.pendingPayment ≠ .blank := by decide
      refine iff_of_true ⟨_, _, rfl, hstatus, ?_⟩ ⟨hcolumns, hfree⟩
      rintro (hoff | hzero)
      · exact absurd hoff (by simp [hfree.1])
      · exact absurd hzero hfree.2

/-- **A valid request is committed if there is something to pay** and the columns are
accepted. -/
theorem commitsPoomsae_iff
    (h : ValidPoomsaeRequest T jd look today user key data db compId comp pid player coach iid) :
    CommitsPoomsae cfg comp db (poomsaeRegisterSelf cfg T jd base look today user key data db) ↔
      ColumnsAccepted T jd base look data compId pid player coach iid ∧
        cfg.paymentsEnabled = true ∧ comp.entryFee ≠ 0 := by
  rw [poomsaeRegisterSelf_of_valid h, commits_savePoomsae_iff, fullClean_returns_iff,
    cleanErrors_newPoomsaeEnrollment h, ColumnsAccepted, and_iff_left rfl, and_assoc]

end Poomsae

/-- **Which valid registrations are committed**: no kyorugi registration is, and a poomsae
registration is exactly if its columns are accepted, payments are on and there is a fee. -/
theorem committed_iff (cfg : Settings) :
    (∀ reg self today user key data db compId comp player,
      ValidSelfRequest reg self today user key data db compId comp player →
        ¬CommitsEnrollment cfg comp db (registerSelf reg self today user key data db)) ∧
    ∀ T jd base look today user key data db compId comp pid player coach iid,
      ValidPoomsaeRequest T jd look today user key data db compId comp pid player coach iid →
        (CommitsPoomsae cfg comp db
            (poomsaeRegisterSelf cfg T jd base look today user key data db) ↔
          ColumnsAccepted T jd base look data compId pid player coach iid ∧
            cfg.paymentsEnabled = true ∧ comp.entryFee ≠ 0) :=
  ⟨fun _ _ _ _ _ _ _ _ _ _ h => not_commitsEnrollment h,
    fun _ _ _ _ _ _ _ _ _ _ _ _ _ _ _ h => commitsPoomsae_iff h⟩

/-! ### The boy -/

/-- The lookups of his kyorugi request. -/
def boyAsPlayer : SelfRegistry :=
  { boyTables.selfRegistry boySelfRegistry with isPlayer := fun _ => true }

theorem validSelfRequest_boy :
    ValidSelfRequest (boyTables.registry boyRegistry) boyAsPlayer ⟨2026, 7, 6, by decide⟩ 20 "1"
      boyAlone default 1 (autumnCup "male").competition 2 where
  isPlayer := rfl
  found := rfl
  competition := rfl
  profile := by decide +kernel
  fresh := rfl
  filled := by decide +kernel
  isOpen := rfl
  valid := by
    have hok : (boyAlone.validate boyAsPlayer ⟨2026, 7, 6, by decide⟩ 20 1
        (autumnCup "male").competition default).toOption.isSome := by
      decide +kernel
    cases hvalid : boyAlone.validate boyAsPlayer ⟨2026, 7, 6, by decide⟩ 20 1
        (autumnCup "male").competition default with
    | ok => rfl
    | error => simp [hvalid, Except.toOption] at hok

/-- His kyorugi registration passes every check and raises, and without payments so does the
one for poomsae. -/
theorem boy_not_committed :
    ValidSelfRequest (boyTables.registry boyRegistry) boyAsPlayer ⟨2026, 7, 6, by decide⟩ 20 "1"
      boyAlone default 1 (autumnCup "male").competition 2 ∧
    10000 ≤ (autumnCup "male").competition.entryFee ∧
    ¬CommitsEnrollment charging (autumnCup "male").competition default
      (registerSelf (boyTables.registry boyRegistry) boyAsPlayer ⟨2026, 7, 6, by decide⟩ 20 "1"
        boyAlone default) ∧
    poomsaeRegisterSelf default boyTables newYear1390 boyRegistry poomsaeLookups default 20 "1"
        boyPoomsae default =
      .error (.attributeError "'PoomsaeEnrollment' object has no attribute 'mark_paid'") :=
  ⟨validSelfRequest_boy, by decide, not_commitsEnrollment validSelfRequest_boy, rfl⟩

end Tkdchb
