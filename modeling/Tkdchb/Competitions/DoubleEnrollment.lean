import Tkdchb.Competitions.SelfRegister
import Tkdchb.Lib.Transition

/-!
# One registration for each player

A player should have at most one enrollment in a competition that is not canceled. The
handlers look for an old enrollment when a request arrives; the rows are created later,
one for each item of the payload, and the loop that creates them does not look again.

## Main definitions

* `OneEnrollment` — the property
* `RegistrationAction`, `registrationStep` — the requests that may create enrollments
* `FreshItems` — the items that the step is about to create name different players, none
  of whom is enrolled

## Main results

* `OneEnrollment.createPaidEnrollments` — the loop keeps the property for such items
* `one_enrollment_of_fresh` — so does every run whose steps create only such items
-/

namespace Tkdchb

open Calendar Transition Web

/-! ### The property -/

/-- The player has an enrollment of the competition that is not canceled. -/
def Enrolled (t : Table Enrollment) (compId : ℕ) (player : ℤ) : Prop :=
  ∃ k e, t.get k = some e ∧ e.status ≠ .canceled ∧ e.competition = compId ∧ e.player = player

/-- At most one enrollment that is not canceled for each competition and player. -/
def OneEnrollment (t : Table Enrollment) : Prop :=
  ∀ k k' e e', t.get k = some e → t.get k' = some e' → e.status ≠ .canceled →
    e'.status ≠ .canceled → e.competition = e'.competition → e.player = e'.player → k = k'

/-- The items name different players, none of whom is enrolled. -/
def ItemsFresh (t : Table Enrollment) (compId : ℕ) (items : List GroupItem) : Prop :=
  (items.map GroupItem.playerId).Nodup ∧ ∀ it ∈ items, ¬ Enrolled t compId it.playerId

theorem alreadyEnrolled_eq_false_iff {db : Db} {compId : ℕ} {pid : ℤ} :
    alreadyEnrolled db compId pid = false ↔ ¬ Enrolled db.enrollments compId pid := by
  unfold alreadyEnrolled Enrolled
  rw [Option.isSome_eq_false_iff, Option.isNone_iff_eq_none, Table.oldest_eq_none_iff]
  constructor
  · rintro h ⟨k, e, he, hstatus, hcomp, hplayer⟩
    have hfalse := h k e he
    simp [hstatus, hcomp, hplayer] at hfalse
  · intro h k e he
    by_contra htrue
    simp only [Bool.not_eq_false, Bool.and_eq_true, beq_iff_eq, decide_eq_true_eq] at htrue
    exact h ⟨k, e, he, htrue.2, htrue.1.1, htrue.1.2⟩

/-! ### The loop -/

section Loop

variable {reg : Registry} {now : Time} {gp : GroupRegistrationPayment} {coachName refCode : String}
  {t t' : Table Enrollment}

/-- A created row is the only new one. -/
theorem get_createPaidEnrollment {part : ℕ} {it : GroupItem} {id : ℕ}
    (h : createPaidEnrollment reg now gp coachName refCode part it t = .ok (id, t')) {k : ℕ}
    {e : Enrollment} (he : t'.get k = some e) :
    t.get k = some e ∨ k = t.next ∧ PaidFor gp it e := by
  obtain ⟨-, -, hother, e₀, he₀, hpaid, -⟩ := createPaidEnrollment_ok h
  by_cases hk : k = t.next
  · subst hk
    obtain rfl : e₀ = e := Option.some.inj (he₀.symm.trans he)
    exact Or.inr ⟨rfl, hpaid⟩
  · exact Or.inl (by rw [← hother k hk, he])

/-- One more enrollment of a player who is not enrolled. -/
theorem OneEnrollment.createPaidEnrollment {part : ℕ} {it : GroupItem} {id : ℕ}
    (ht : OneEnrollment t)
    (h : createPaidEnrollment reg now gp coachName refCode part it t = .ok (id, t'))
    (hfresh : ¬ Enrolled t gp.competition it.playerId) : OneEnrollment t' := by
  intro k k' e e' he he' hstatus hstatus' hcomp hplayer
  -- an old row of that player would be an enrollment
  have hold : ∀ j f, t.get j = some f → f.status ≠ .canceled → f.competition = gp.competition →
      f.player = it.playerId → False := by
    intro j f hf hstatus hcomp hplayer
    exact hfresh ⟨j, f, hf, hstatus, hcomp, hplayer⟩
  rcases get_createPaidEnrollment h he with hk | ⟨hk, hpaid⟩
  · rcases get_createPaidEnrollment h he' with hk' | ⟨-, hpaid'⟩
    · exact ht k k' e e' hk hk' hstatus hstatus' hcomp hplayer
    · exact (hold k e hk hstatus (hcomp.trans hpaid'.competition)
        (hplayer.trans hpaid'.player)).elim
  · rcases get_createPaidEnrollment h he' with hk' | ⟨hk', -⟩
    · exact (hold k' e' hk' hstatus' (hcomp.symm.trans hpaid.competition)
        (hplayer.symm.trans hpaid.player)).elim
    · rw [hk, hk']

/-- Afterwards the player is enrolled, and nobody else newly so. -/
theorem Enrolled.of_createPaidEnrollment {part : ℕ} {it : GroupItem} {id compId : ℕ} {player : ℤ}
    (h : createPaidEnrollment reg now gp coachName refCode part it t = .ok (id, t'))
    (henrolled : Enrolled t' compId player) :
    Enrolled t compId player ∨ player = it.playerId := by
  obtain ⟨k, e, he, hstatus, hcomp, hplayer⟩ := henrolled
  rcases get_createPaidEnrollment h he with hk | ⟨-, hpaid⟩
  · exact Or.inl ⟨k, e, hk, hstatus, hcomp, hplayer⟩
  · exact Or.inr (hplayer.symm.trans hpaid.player)

/-- **The loop keeps the property** for different players who are not enrolled. -/
theorem OneEnrollment.createPaidEnrollments {parts : List ℕ} {items : List GroupItem} {idx : ℕ}
    {ids : List ℕ} (ht : OneEnrollment t)
    (h : createPaidEnrollments reg now gp coachName refCode parts idx items t = .ok (ids, t'))
    (hfresh : ItemsFresh t gp.competition items) : OneEnrollment t' := by
  -- induction on the items; the rest stays fresh because its players are others
  induction items generalizing idx t ids with
  | nil =>
    cases h
    exact ht
  | cons it items ih =>
    obtain ⟨hnodup, hnone⟩ := hfresh
    rw [List.map_cons, List.nodup_cons] at hnodup
    obtain ⟨id, t₁, ids₁, hx, hy, -⟩ := createPaidEnrollments_cons_ok h
    have hfirst := ht.createPaidEnrollment hx (hnone it List.mem_cons_self)
    refine ih hfirst hy ⟨hnodup.2, fun it' hit' henrolled => ?_⟩
    rcases Enrolled.of_createPaidEnrollment hx henrolled with hold | hsame
    · exact hnone it' (List.mem_cons_of_mem it hit') hold
    · exact hnodup.1 (hsame ▸ List.mem_map_of_mem hit')

/-- The property after the finalisation of an open group. -/
theorem OneEnrollment.finalize {intent : PaymentIntent} {db db' : Db} {g : ℕ} {ids : List ℕ}
    (hdb : OneEnrollment db.enrollments) (hname : groupId intent.description = some g)
    (hgp : db.groups.get g = some gp) (hopen : gp.isPaid = false) (hitems : gp.payload.items ≠ [])
    (h : finalizeGroupPaymentIfNeeded reg now intent refCode db = .ok (ids, db'))
    (hfresh : ItemsFresh db.enrollments gp.competition gp.payload.items) :
    OneEnrollment db'.enrollments := by
  obtain ⟨coachName, enrollments, hx, rfl⟩ := exists_created_of_finalize hname hgp hopen hitems h
  exact hdb.createPaidEnrollments hx hfresh

end Loop

/-! ### What a coach's request creates -/

section Coach

variable {cfg : Settings} {reg : Registry} {now : Time} {today : Date} {user : ℕ}
  {publicId key : String} {data : CoachRegisterData} {db db' : Db} {r : Response}

/-- The competition of a request. -/
def competitionByKey (reg : Registry) (key : String) : Option (ℕ × KyorugiCompetition) :=
  (reg.getCompByKey key).bind fun id => (reg.kyorugi id).map (Prod.mk id)

/-- The request is no preview, and there is nothing to pay or payments are switched off:
the enrollments are created at once. -/
def SettlesAtOnce (cfg : Settings) (compId : ℕ) (comp : KyorugiCompetition)
    (data : CoachRegisterData) (count : ℕ) (codes : Table DiscountCode) : Prop :=
  ["1", "true", "yes"].contains (Text.lower data.preview) = false ∧
    (cfg.paymentsEnabled = false ∨
      ∃ q, priceGroup compId comp.entryFee count (Text.strip data.discountCode) codes = .ok q ∧
        q.payableAmount = 0)

theorem not_enrolled_of_checkStudent {compId : ℕ} {comp : KyorugiCompetition} {st : Student}
    {it : GroupItem} (h : checkStudent reg db compId comp st = .item it) :
    ¬ Enrolled db.enrollments compId it.playerId := by
  obtain ⟨_, _, _, _, hfresh, -⟩ := checkStudent_item h
  exact alreadyEnrolled_eq_false_iff.mp hfresh

/-- No accepted student is enrolled when the request is checked. -/
theorem not_enrolled_checkStudents {compId : ℕ} {comp : KyorugiCompetition}
    (students : List Student) :
    ∀ it ∈ (checkStudents reg db compId comp students).items,
      ¬ Enrolled db.enrollments compId it.playerId :=
  forall_items_checkStudents (fun _ _ h => not_enrolled_of_checkStudent h) students

/-- The enrollments after a request: those before it, or with one more for each accepted
student. -/
theorem coachRegister_enrollments
    (h : coachRegister cfg reg now today user publicId key data db = .ok (r, db')) :
    db'.enrollments = db.enrollments ∨
    ∃ compId comp, competitionByKey reg key = some (compId, comp) ∧
      SettlesAtOnce cfg compId comp data
        (checkStudents reg db compId comp data.students).items.length db.codes ∧
      ∃ coach coachName q ref ids, finalizeFreeOrTest reg now coachName
        (newGroup coach compId (checkStudents reg db compId comp data.students).items q now) ref
        db.enrollments = .ok (ids, db'.enrollments) := by
  rcases coachRegister_cases h with rfl |
    ⟨compId, comp, coach, coachProfile, gateway, q, hcomp, -, hq, hend⟩
  · exact Or.inl rfl
  · rcases settleOrCharge_cases hend with rfl |
      ⟨hpreview, hatonce, coachName, ref, ids, t, hloop, rfl⟩ | ⟨-, rfl⟩
    · exact Or.inl rfl
    · have hsettles : SettlesAtOnce cfg compId comp data
          (checkStudents reg db compId comp data.students).items.length db.codes :=
        ⟨hpreview, hatonce.imp_right fun hzero => ⟨q, hq, hzero⟩⟩
      exact Or.inr ⟨compId, comp, hcomp, hsettles, coach, coachName, q, ref, ids, hloop⟩
    · exact Or.inl rfl

/-- The property after a coach's request that names no student twice. -/
theorem OneEnrollment.coachRegister (hdb : OneEnrollment db.enrollments)
    (h : coachRegister cfg reg now today user publicId key data db = .ok (r, db'))
    (hnodup : ∀ compId comp, competitionByKey reg key = some (compId, comp) →
      SettlesAtOnce cfg compId comp data
        (checkStudents reg db compId comp data.students).items.length db.codes →
      ((checkStudents reg db compId comp data.students).items.map GroupItem.playerId).Nodup) :
    OneEnrollment db'.enrollments := by
  rcases coachRegister_enrollments h with hsame | ⟨compId, comp, hcomp, hatonce, hcreated⟩
  · rw [hsame]
    exact hdb
  · obtain ⟨coach, coachName, q, ref, ids, hloop⟩ := hcreated
    exact hdb.createPaidEnrollments hloop
      ⟨hnodup compId comp hcomp hatonce, not_enrolled_checkStudents data.students⟩

end Coach

/-! ### Runs -/

/-- A request that may create enrollments, with what it reads. -/
inductive RegistrationAction where
  | coachRegister (cfg : Settings) (reg : Registry) (now : Time) (today : Date) (user : ℕ)
      (publicId key : String) (data : CoachRegisterData)
  | finalize (call : FinalizeCall)
  | registerSelf (reg : Registry) (self : SelfRegistry) (today : Date) (user : ℕ) (key : String)
      (data : SelfRegisterData)

/-- One request, each in its transaction: an exception rolls it back. -/
def registrationStep : RegistrationAction → Db → Db
  | .coachRegister cfg reg now today user publicId key data, db =>
    match coachRegister cfg reg now today user publicId key data db with
    | .ok (_, db') => db'
    | .error _ => db
  | .finalize call, db => (call.run db).2
  | .registerSelf reg self today user key data, db =>
    match registerSelf reg self today user key data db with
    | .ok (_, db') => db'
    | .error _ => db

/-- The items the step is about to create name different players, none of whom is
enrolled. A coach's request has looked for old enrollments itself. -/
def FreshItems : RegistrationAction → Db → Prop
  | .coachRegister cfg reg _ _ _ _ key data, db => ∀ compId comp,
    competitionByKey reg key = some (compId, comp) →
    SettlesAtOnce cfg compId comp data
      (checkStudents reg db compId comp data.students).items.length db.codes →
    ((checkStudents reg db compId comp data.students).items.map GroupItem.playerId).Nodup
  | .finalize call, db => ∀ g gp, groupId call.intent.description = some g →
    db.groups.get g = some gp → gp.isPaid = false →
    ItemsFresh db.enrollments gp.competition gp.payload.items
  | .registerSelf .., _ => True

/-- One request keeps the property if its items are fresh. -/
theorem oneEnrollment_step (a : RegistrationAction) (db : Db) (hfresh : FreshItems a db)
    (hdb : OneEnrollment db.enrollments) : OneEnrollment (registrationStep a db).enrollments := by
  cases a with
  | coachRegister cfg reg now today user publicId key data =>
    simp only [registrationStep]
    split
    · next h => exact hdb.coachRegister h hfresh
    · exact hdb
  | finalize call =>
    simp only [registrationStep, FinalizeCall.run]
    split
    · next ids db' h =>
      rcases finalize_cases h with rfl | ⟨g, gp, hname, hgp, hopen, hitems, -⟩
      · exact hdb
      · exact hdb.finalize hname hgp hopen hitems h (hfresh g gp hname hgp hopen)
    · exact hdb
  | registerSelf reg self today user key data =>
    simp only [registrationStep]
    split
    · next h =>
      rw [(registerSelf_ok h).2]
      exact hdb
    · exact hdb

/-- **One registration for each player** in every state of a run whose steps create
enrollments only for different players who are not enrolled. -/
theorem one_enrollment_of_fresh {db : Db} (hdb : OneEnrollment db.enrollments)
    {acts : List RegistrationAction} (hfresh : Along registrationStep FreshItems db acts) :
    ∀ db' ∈ visited registrationStep db acts, OneEnrollment db'.enrollments :=
  hfresh.forall_visited oneEnrollment_step hdb

/-- A competition with open registration. -/
def cupRegistry : Registry :=
  { openRegistry with
    kyorugi := fun _ => some { (default : KyorugiCompetition) with
      entryFee := 500000
      competitionDate := ⟨2025, 6, 1, by decide⟩
      registrationManual := some true }
    profile := fun _ => some { (default : UserProfile) with role := "player" }
    getCompByKey := fun _ => some 1
    coachFromRequest := fun _ => some 9
    parseInsuranceDate := fromisoformat
    findWeightCategoryFor := fun _ _ _ => some 3 }

/-- A coach registers two students while payments are switched off. -/
def registerTwo (first second : ℤ) : RegistrationAction :=
  let student (pid : ℤ) : Student :=
    { (default : Student) with
      playerId := some pid, declaredWeight := some 50, insuranceIssueDate := some "2025-03-01" }
  .coachRegister default cupRegistry 0 default 7 "g1" "cup"
    { (default : CoachRegisterData) with students := [student first, student second] }

/-- Two different students. -/
theorem one_enrollment_of_fresh_two :
    OneEnrollment (run registrationStep default [registerTwo 5 6]).enrollments ∧
      Enrolled (run registrationStep default [registerTwo 5 6]).enrollments 1 5 ∧
      Enrolled (run registrationStep default [registerTwo 5 6]).enrollments 1 6 := by
  have hempty : OneEnrollment (default : Db).enrollments := by
    intro k k' e e' he
    cases he
  have hfresh : Along registrationStep FreshItems default [registerTwo 5 6] := by
    refine ⟨fun compId comp hcomp _ => ?_, trivial⟩
    cases hcomp
    decide +kernel
  refine ⟨one_enrollment_of_fresh hempty hfresh _ (run_mem_visited _ _), ?_, ?_⟩
  · exact ⟨1, _, rfl, nofun, rfl, rfl⟩
  · exact ⟨2, _, rfl, nofun, rfl, rfl⟩

/-- The same student twice. -/
theorem enrolled_twice :
    ¬ OneEnrollment (run registrationStep default [registerTwo 5 5]).enrollments := by
  intro h
  have hsame : 1 = 2 := h 1 2 _ _ rfl rfl nofun nofun rfl rfl
  cases hsame

end Tkdchb
