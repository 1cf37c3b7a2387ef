import Tkdchb.Accounts.Approval
import Tkdchb.Lib.Forecast

/-!
# Approving a batch

The admin site approves the selected applications in one transaction, and sends each applicant
the credentials on the way. The actions for people let every exception leave the transaction. The
action for clubs catches what each club raises and goes on, although a database error that is
caught leaves a transaction in which every query fails. What `safe_delete_pending` catches is
such an error too.

## Main definitions

* `ApprovalWorld` — what fails, and which messages the gateway takes
* `sendApproveCredentialsSms`, `safeDeletePending` — the helpers
* `approvePendingPerson`, `approvePendingClub` — what one record does
* `PendingAdmin.approve` — the four actions

## Main results

* `approvePendingPerson_eq`, `approvePendingClub_eq` — a row is made, and then the record deleted
* `PendingAdmin.lawful` — how rows and records go on
-/

namespace Tkdchb.Accounts

open AtomicBatch

/-- How a call fails. -/
inductive Fault where
  /-- a database error, after which the transaction cannot be used -/
  | database
  /-- an exception that leaves the transaction as it was -/
  | other
  deriving DecidableEq, Repr

/-- How the deletion of a record fails. -/
inductive DeleteFault where
  | protectedError
  | integrityError
  | raises (fault : Fault)
  deriving DecidableEq, Repr

/-- What fails besides the uniqueness of the rows, record by record, and the SMS gateway. -/
structure ApprovalWorld where
  /-- `SMS_DRY_RUN` -/
  dryRun : Bool
  /-- The name, the password and the template for the gateway are set. -/
  configured : Bool
  /-- The gateway takes the message for the record. -/
  accepts : ℕ → Bool
  userFault : ℕ → Option Fault
  createFault : ℕ → Option Fault
  deleteFault : ℕ → Option DeleteFault

/-- `send_approve_credentials_sms`: whether a message goes out. -/
def sendApproveCredentialsSms (w : ApprovalWorld) (pk : ℕ) (phone nationalCode : String) : Bool :=
  let phone := viewsNormalizeDigits phone
  let nationalCode := viewsNormalizeDigits nationalCode
  isMobile phone && isNumberOf 10 nationalCode && !w.dryRun && w.configured && w.accepts pk

/-- `safe_delete_pending`, once the row `id` is made: what it does not catch goes to
`uncaught`. -/
def safeDeletePending (fault : Option DeleteFault) (t erased : AccountTables) (id : ℕ)
    (sent : Bool) (uncaught : Fault → Verdict AccountTables) : Verdict AccountTables :=
  match fault with
  | none => .passes erased (some id) sent true
  | some .protectedError => .passes t (some id) sent false
  | some .integrityError => .spoils sent
  | some (.raises fault) => uncaught fault

/-- The profile of an application. -/
def profileOfPending (pending : PendingUserProfile) (user : ℕ) : UserProfile :=
  ⟨some user, normalizePhone pending.phone, pending.nationalCode, pending.role⟩

/-- `create_profile_from_pending` -/
def createProfileFromPending (w : ApprovalWorld) (t : AccountTables) (pk : ℕ)
    (pending : PendingUserProfile) (user : ℕ) : Option AccountTables :=
  if (w.createFault pk).isSome then none else t.createProfile (profileOfPending pending user)

/-- The body of the loop for a player, a coach or a referee. -/
def approvePendingPerson (w : ApprovalWorld) (t : AccountTables) (pk : ℕ) :
    Verdict AccountTables :=
  match t.pendingProfiles.get pk with
  | none => .passes t none false false
  | some pending =>
    -- nothing in the loop catches what these calls raise
    if (w.userFault pk).isSome then .escapes false
    else
      let (t', user) := t.getOrCreateAuthUserByPhone pending.phone pending.nationalCode
      let phoneClean := normalizePhone pending.phone
      let nationalCodeClean := Text.strip (fa2en pending.nationalCode)
      match createProfileFromPending w t' pk pending user with
      | none => .escapes false
      | some t'' =>
        -- the message is out, whatever the deletion does
        let sent := sendApproveCredentialsSms w pk phoneClean nationalCodeClean
        safeDeletePending (w.deleteFault pk) t''
          { t'' with pendingProfiles := t''.pendingProfiles.erase pk } t'.profiles.next sent
          fun _ => .escapes sent

/-- `except Exception` around a club: a database error stays in the transaction. -/
def swallowed (t : AccountTables) (made : Option ℕ) (sent : Bool) : Fault → Verdict AccountTables
  | .database => .spoils sent
  | .other => .passes t made sent false

/-- `raw_phone` -/
def founderNumber (pending : PendingClub) : String :=
  Text.orElse pending.founderPhone pending.phone

/-- The club of an application. -/
def clubOfPending (pending : PendingClub) (user : ℕ) : TkdClub where
  user := some user
  clubName := pending.clubName
  city := pending.city
  founderPhone := normalizePhone (founderNumber pending)
  founderNationalCode := pending.founderNationalCode
  licenseNumber := pending.licenseNumber
  federationId := pending.federationId

/-- The body of the loop for a club. -/
def approvePendingClub (w : ApprovalWorld) (t : AccountTables) (pk : ℕ) : Verdict AccountTables :=
  match t.pendingClubs.get pk with
  | none => .passes t none false false
  | some pending =>
    -- without a number the club counts as failed
    if founderNumber pending = "" then .passes t none false false
    else
      let phoneClean := normalizePhone (founderNumber pending)
      let nationalCodeClean := Text.strip (fa2en pending.founderNationalCode)
      match w.userFault pk with
      | some fault => swallowed t none false fault  -- by the outer `except`
      | none =>
        let (t', user) := t.getOrCreateAuthUserByPhone phoneClean pending.founderNationalCode
        match w.createFault pk with
        | some fault => swallowed t' none false fault  -- by the inner one; the user stays
        | none =>
          match t'.createClub (clubOfPending pending user) with
          | none => swallowed t' none false .database  -- `IntegrityError`
          | some t'' =>
            let sent := nationalCodeClean ≠ "" &&
              sendApproveCredentialsSms w pk phoneClean nationalCodeClean
            safeDeletePending (w.deleteFault pk) t''
              { t'' with pendingClubs := t''.pendingClubs.erase pk } t'.clubs.next sent
              (swallowed t'' (some t'.clubs.next) sent)

/-! ### The actions -/

/-- The words of a report, around its two numbers. -/
structure ApproveWords where
  approved : String
  failed : String

def ApproveWords.message (words : ApproveWords) (report : ℕ × ℕ) : String :=
  toString report.1 ++ words.approved ++
    if report.2 = 0 then "" else " " ++ toString report.2 ++ words.failed

/-- `approve` of the admins of people. What the loop raises leaves the transaction, also what it
raises after `safe_delete_pending` has caught a database error. -/
def approvePeople (words : ApproveWords) (w : ApprovalWorld) (t : AccountTables)
    (queryset : List ℕ) : Result AccountTables ℕ × Option String :=
  let result := perform (approvePendingPerson w) true t queryset
  (result, result.reported.map words.message)

/-- `PendingPlayerAdmin.approve` -/
def pendingPlayerAdminApprove : ApprovalWorld → AccountTables → List ℕ →
    Result AccountTables ℕ × Option String :=
  approvePeople ⟨" بازیکن با موفقیت تأیید شد.", " مورد حذف نشد."⟩

/-- `PendingCoachAdmin.approve` -/
def pendingCoachAdminApprove : ApprovalWorld → AccountTables → List ℕ →
    Result AccountTables ℕ × Option String :=
  approvePeople ⟨" مربی با موفقیت تأیید شد.", " رکورد حذف نشد."⟩

/-- `PendingRefereeAdmin.approve` -/
def pendingRefereeAdminApprove : ApprovalWorld → AccountTables → List ℕ →
    Result AccountTables ℕ × Option String :=
  approvePeople ⟨" داور با موفقیت تأیید شد.", " حذف نشدند."⟩

/-- `PendingClubAdmin.approve`. Nothing leaves the transaction. -/
def pendingClubAdminApprove (w : ApprovalWorld) (t : AccountTables) (queryset : List ℕ) :
    Result AccountTables ℕ × Option String :=
  let words : ApproveWords :=
    ⟨" باشگاه با موفقیت تأیید شد.", " مورد به علت خطا یا وابستگی حذف/تأیید نشد."⟩
  let result := perform (approvePendingClub w) false t queryset
  (result, result.reported.map words.message)

inductive PendingAdmin where
  | player
  | coach
  | referee
  | club
  deriving DecidableEq, Repr

namespace PendingAdmin

def approve : PendingAdmin → ApprovalWorld → AccountTables → List ℕ →
    Result AccountTables ℕ × Option String
  | .player => pendingPlayerAdminApprove
  | .coach => pendingCoachAdminApprove
  | .referee => pendingRefereeAdminApprove
  | .club => pendingClubAdminApprove

def act : PendingAdmin → ApprovalWorld → AccountTables → ℕ → Verdict AccountTables
  | .player | .coach | .referee => approvePendingPerson
  | .club => approvePendingClub

def lateEscapes : PendingAdmin → Bool
  | .player | .coach | .referee => true
  | .club => false

/-- The profile or the club is there. -/
def present : PendingAdmin → AccountTables → ℕ → Bool
  | .player | .coach | .referee => fun t id => (t.profiles.get id).isSome
  | .club => fun t id => (t.clubs.get id).isSome

/-- The application is not in its table. -/
def removed : PendingAdmin → AccountTables → ℕ → Bool
  | .player | .coach | .referee => fun t pk => (t.pendingProfiles.get pk).isNone
  | .club => fun t pk => (t.pendingClubs.get pk).isNone

/-- Messages went to the applicants whose profile or club is committed, and the report has the
number of those that are committed and removed. -/
def MessagesMatch (admin : PendingAdmin) (result : Result AccountTables ℕ) (queryset : List ℕ) :
    Prop :=
  Matches admin.present admin.removed result queryset

instance (admin : PendingAdmin) (result : Result AccountTables ℕ) (queryset : List ℕ) :
    Decidable (admin.MessagesMatch result queryset) :=
  inferInstanceAs (Decidable (Matches ..))

theorem approve_fst (admin : PendingAdmin) (w : ApprovalWorld) (t : AccountTables)
    (queryset : List ℕ) :
    (admin.approve w t queryset).1 = perform (admin.act w) admin.lateEscapes t queryset := by
  cases admin with
  | player => rfl
  | coach => rfl
  | referee => rfl
  | club => rfl

end PendingAdmin

/-! ### What one record does -/

section Steps

variable {w : ApprovalWorld} {t t' erased s : AccountTables} {pk id : ℕ} {made : Option ℕ}
  {sent sent' counted : Bool}

/-- The helper writes users only. -/
theorem getOrCreate_fst (t : AccountTables) (phone code : String) :
    (t.getOrCreateAuthUserByPhone phone code).1 =
      { t with users := (t.getOrCreateAuthUserByPhone phone code).1.users } := by
  unfold AccountTables.getOrCreateAuthUserByPhone
  dsimp only
  split <;> rfl

/-- The message for a person goes out. -/
def tellsPerson (w : ApprovalWorld) (pk : ℕ) (pending : PendingUserProfile) : Bool :=
  sendApproveCredentialsSms w pk (normalizePhone pending.phone)
    (Text.strip (fa2en pending.nationalCode))

/-- The tables with the user and the profile, if nothing raises. -/
def profileMade (w : ApprovalWorld) (t : AccountTables) (pk : ℕ) (pending : PendingUserProfile) :
    Option AccountTables :=
  if (w.userFault pk).isSome then none
  else
    let (t', user) := t.getOrCreateAuthUserByPhone pending.phone pending.nationalCode
    createProfileFromPending w t' pk pending user

/-- A person's row is made, and then the record deleted. -/
theorem approvePendingPerson_eq {pending : PendingUserProfile}
    (hrow : t.pendingProfiles.get pk = some pending) :
    approvePendingPerson w t pk =
      match profileMade w t pk pending with
      | none => .escapes false
      | some t' =>
        safeDeletePending (w.deleteFault pk) t'
          { t' with pendingProfiles := t'.pendingProfiles.erase pk } t.profiles.next
          (tellsPerson w pk pending) fun _ => .escapes (tellsPerson w pk pending) := by
  have hnext : (t.getOrCreateAuthUserByPhone pending.phone pending.nationalCode).1.profiles.next =
      t.profiles.next := by
    rw [getOrCreate_fst]
  unfold approvePendingPerson profileMade
  simp only [hrow, hnext]
  split_ifs
  · rfl
  · rfl

/-- The message for a club goes out. -/
def tellsClub (w : ApprovalWorld) (pk : ℕ) (pending : PendingClub) : Bool :=
  Text.strip (fa2en pending.founderNationalCode) ≠ "" &&
    sendApproveCredentialsSms w pk (normalizePhone (founderNumber pending))
      (Text.strip (fa2en pending.founderNationalCode))

/-- The tables with the user and the club, or what becomes of the record without them. -/
def clubMade (w : ApprovalWorld) (t : AccountTables) (pk : ℕ) (pending : PendingClub) :
    Except (Verdict AccountTables) AccountTables :=
  if founderNumber pending = "" then .error (.passes t none false false)
  else
    match w.userFault pk with
    | some fault => .error (swallowed t none false fault)
    | none =>
      let (t', user) := t.getOrCreateAuthUserByPhone (normalizePhone (founderNumber pending))
        pending.founderNationalCode
      match w.createFault pk with
      | some fault => .error (swallowed t' none false fault)
      | none =>
        match t'.createClub (clubOfPending pending user) with
        | none => .error (swallowed t' none false .database)
        | some t'' => .ok t''

/-- A club's row is made, and then the record deleted. -/
theorem approvePendingClub_eq {pending : PendingClub}
    (hrow : t.pendingClubs.get pk = some pending) :
    approvePendingClub w t pk =
      match clubMade w t pk pending with
      | .error v => v
      | .ok t' =>
        safeDeletePending (w.deleteFault pk) t'
          { t' with pendingClubs := t'.pendingClubs.erase pk } t.clubs.next
          (tellsClub w pk pending)
          (swallowed t' (some t.clubs.next) (tellsClub w pk pending)) := by
  have hnext : (t.getOrCreateAuthUserByPhone (normalizePhone (founderNumber pending))
      pending.founderNationalCode).1.clubs.next = t.clubs.next := by
    rw [getOrCreate_fst]
  unfold approvePendingClub clubMade
  simp only [hrow, hnext]
  split_ifs
  · rfl
  · cases w.userFault pk with
    | some fault => rfl
    | none =>
      cases w.createFault pk with
      | some fault => rfl
      | none =>
        dsimp only
        cases AccountTables.createClub _ (clubOfPending pending _) with
        | none => rfl
        | some t'' => rfl

/-- Where the loop goes on after `safe_delete_pending`, the row is made, and only what is counted
is deleted. -/
theorem safeDeletePending_passes {fault : Option DeleteFault}
    {uncaught : Fault → Verdict AccountTables}
    (huncaught : ∀ fault,
      uncaught fault = .escapes sent ∨ uncaught fault = swallowed t (some id) sent fault)
    (h : safeDeletePending fault t erased id sent uncaught = .passes s made sent' counted) :
    made = some id ∧ s = if counted then erased else t := by
  cases fault with
  | none =>
    obtain ⟨rfl, rfl, rfl, rfl⟩ := Verdict.passes.inj h
    exact ⟨rfl, rfl⟩
  | some fault =>
    cases fault with
    | protectedError =>
      obtain ⟨rfl, rfl, rfl, rfl⟩ := Verdict.passes.inj h
      exact ⟨rfl, rfl⟩
    | integrityError => cases h
    | raises fault =>
      have h' : uncaught fault = .passes s made sent' counted := h
      rcases huncaught fault with hescapes | hswallowed
      · rw [hescapes] at h'
        cases h'
      · rw [hswallowed] at h'
        cases fault with
        | database => cases h'
        | other =>
          obtain ⟨rfl, rfl, rfl, rfl⟩ := Verdict.passes.inj h'
          exact ⟨rfl, rfl⟩

/-- The unique columns of two profiles clash. -/
def ProfilesClash (q p : UserProfile) : Prop :=
  q.nationalCode = p.nationalCode ∨ q.phone = p.phone ∨ q.user.isSome = true ∧ q.user = p.user

/-- The unique columns of two clubs clash. -/
def ClubsClash (d c : TkdClub) : Prop :=
  d.clubName = c.clubName ∧ d.city = c.city ∨ d.user.isSome = true ∧ d.user = c.user

/-- A row is written unless one of the rows clashes. -/
theorem unless_oldest_eq_some_iff {ρ α : Type*} {u : Table ρ} {clashes : ρ → Bool} {x y : α} :
    (if (u.oldest clashes).isSome then none else some x) = some y ↔
      (∀ k r, u.get k = some r → clashes r = false) ∧ x = y := by
  rw [← Table.oldest_eq_none_iff]
  cases u.oldest clashes with
  | none => simp
  | some r => simp

theorem createProfile_eq_some_iff {p : UserProfile} : t.createProfile p = some t' ↔
    (∀ k q, t.profiles.get k = some q → ¬ProfilesClash q p) ∧
      { t with profiles := t.profiles.insert p } = t' := by
  unfold AccountTables.createProfile
  rw [unless_oldest_eq_some_iff]
  simp [ProfilesClash, and_assoc]

theorem createClub_eq_some_iff {c : TkdClub} : t.createClub c = some t' ↔
    (∀ k d, t.clubs.get k = some d → ¬ClubsClash d c) ∧
      { t with clubs := t.clubs.insert c } = t' := by
  unfold AccountTables.createClub
  rw [unless_oldest_eq_some_iff]
  simp [ClubsClash]

theorem profileMade_eq_some {pending : PendingUserProfile}
    (h : profileMade w t pk pending = some t') :
    t' =
      let (t₁, user) := t.getOrCreateAuthUserByPhone pending.phone pending.nationalCode
      { t with
        users := t₁.users
        profiles := t.profiles.insert (profileOfPending pending user) } := by
  unfold profileMade createProfileFromPending at h
  dsimp only at h
  split_ifs at h
  rw [← (createProfile_eq_some_iff.mp h).2, getOrCreate_fst]

theorem clubMade_eq_ok {pending : PendingClub} (h : clubMade w t pk pending = .ok t') :
    t' =
      let (t₁, user) := t.getOrCreateAuthUserByPhone (normalizePhone (founderNumber pending))
        pending.founderNationalCode
      { t with
        users := t₁.users
        clubs := t.clubs.insert (clubOfPending pending user) } := by
  unfold clubMade at h
  split_ifs at h
  cases hfault : w.userFault pk with
  | some fault => rw [hfault] at h; cases h
  | none =>
    cases hfault' : w.createFault pk with
    | some fault => rw [hfault, hfault'] at h; cases h
    | none =>
      rw [hfault, hfault'] at h
      dsimp only at h
      split at h
      · cases h
      · next t'' hcreate =>
        rw [← Except.ok.inj h, ← (createClub_eq_some_iff.mp hcreate).2, getOrCreate_fst]

/-- A club is left out by something else than a database error, with these users. -/
structure LeftOut (w : ApprovalWorld) (t : AccountTables) (pk : ℕ) (pending : PendingClub)
    (users : Table User) : Prop where
  fails : founderNumber pending = "" ∨ w.userFault pk = some .other ∨
    w.userFault pk = none ∧ w.createFault pk = some .other
  users : users = t.users ∨
    users = (t.getOrCreateAuthUserByPhone (normalizePhone (founderNumber pending))
      pending.founderNationalCode).1.users

theorem clubMade_eq_error {pending : PendingClub} {v : Verdict AccountTables}
    (h : clubMade w t pk pending = .error v) :
    (v = .spoils false ∧ founderNumber pending ≠ "" ∧ (w.userFault pk = some .database ∨
        w.userFault pk = none ∧ w.createFault pk ≠ some .other)) ∨
      ∃ users, v = .passes { t with users } none false false ∧ LeftOut w t pk pending users := by
  unfold clubMade at h
  split_ifs at h with hempty
  · exact .inr ⟨t.users, (Except.error.inj h).symm, .inl hempty, .inl rfl⟩
  · cases hfault : w.userFault pk with
    | some fault =>
      rw [hfault] at h
      rw [← Except.error.inj h]
      cases fault with
      | database => exact .inl ⟨rfl, hempty, .inl rfl⟩
      | other => exact .inr ⟨t.users, rfl, .inr (.inl hfault), .inl rfl⟩
    | none =>
      rw [hfault] at h
      dsimp only at h
      rw [getOrCreate_fst] at h
      cases hfault' : w.createFault pk with
      | some fault =>
        rw [hfault'] at h
        rw [← Except.error.inj h]
        cases fault with
        | database => exact .inl ⟨rfl, hempty, .inr ⟨rfl, by simp⟩⟩
        | other => exact .inr ⟨_, rfl, .inr (.inr ⟨hfault, hfault'⟩), .inr rfl⟩
      | none =>
        rw [hfault'] at h
        dsimp only at h
        split at h
        · exact .inl ⟨(Except.error.inj h).symm, hempty, .inr ⟨rfl, by simp⟩⟩
        · cases h

/-- **What a person's record does** where the loop goes on. -/
theorem approvePendingPerson_passes {pending : PendingUserProfile}
    (hrow : t.pendingProfiles.get pk = some pending)
    (h : approvePendingPerson w t pk = .passes s made sent counted) :
    ∃ t', profileMade w t pk pending = some t' ∧ made = some t.profiles.next ∧
      s = if counted then { t' with pendingProfiles := t'.pendingProfiles.erase pk } else t' := by
  rw [approvePendingPerson_eq hrow] at h
  cases hmade : profileMade w t pk pending with
  | none => rw [hmade] at h; cases h
  | some t' =>
    rw [hmade] at h
    obtain ⟨hid, hs⟩ := safeDeletePending_passes (fun _ => .inl rfl) h
    exact ⟨t', rfl, hid, hs⟩

/-- **What a club's record does** where the loop goes on. -/
theorem approvePendingClub_passes {pending : PendingClub}
    (hrow : t.pendingClubs.get pk = some pending)
    (h : approvePendingClub w t pk = .passes s made sent counted) :
    (∃ users, s = { t with users } ∧ made = none ∧ sent = false ∧ counted = false ∧
        LeftOut w t pk pending users) ∨
      ∃ t', clubMade w t pk pending = .ok t' ∧ made = some t.clubs.next ∧
        s = if counted then { t' with pendingClubs := t'.pendingClubs.erase pk } else t' := by
  rw [approvePendingClub_eq hrow] at h
  cases hmade : clubMade w t pk pending with
  | error v =>
    rw [hmade] at h
    obtain ⟨hspoils, -⟩ | ⟨users, hpasses, hleft⟩ := clubMade_eq_error hmade
    · rw [hspoils] at h
      cases h
    · rw [hpasses] at h
      obtain ⟨rfl, rfl, rfl, rfl⟩ := Verdict.passes.inj h
      exact .inl ⟨users, rfl, rfl, rfl, rfl, hleft⟩
  | ok t' =>
    rw [hmade] at h
    obtain ⟨hid, hs⟩ := safeDeletePending_passes (fun _ => .inr rfl) h
    exact .inr ⟨t', rfl, hid, hs⟩

/-- Where every row that is made is inserted, and only the record that is counted is deleted,
rows and records go on as they should. -/
theorem lawful_of_insert {ρ κ : Type*} {rows : AccountTables → Table ρ}
    {pendings : AccountTables → Table κ} {act : AccountTables → ℕ → Verdict AccountTables}
    (h : ∀ t pk s made sent counted, act t pk = .passes s made sent counted →
      rows s = rows t ∧ pendings s = pendings t ∧ made = none ∧ sent = false ∧ counted = false ∨
        (∃ row, rows s = (rows t).insert row) ∧ made = some (rows t).next ∧
          pendings s = if counted then (pendings t).erase pk else pendings t) :
    Lawful act (fun t id => ((rows t).get id).isSome)
      (fun t pk => ((pendings t).get pk).isNone) where
  keeps := by
    intro t s pk made sent counted id hact hid
    rcases h _ _ _ _ _ _ hact with ⟨hrows, -⟩ | ⟨⟨row, hrows⟩, -⟩
    · rwa [hrows]
    · obtain ⟨r, hr⟩ := Option.isSome_iff_exists.mp hid
      rw [hrows, Table.get_insert_of_get hr, Option.isSome_some]
  makes := by
    intro t s pk sent counted id hact
    rcases h _ _ _ _ _ _ hact with ⟨-, -, hmade, -⟩ | ⟨⟨row, hrows⟩, hmade, -⟩
    · cases hmade
    · obtain rfl := Option.some.inj hmade
      rw [hrows, Table.get_insert_next, (rows t).fresh _ le_rfl]
      exact ⟨rfl, rfl⟩
  removes := by
    intro t s pk made sent counted pk' hact
    rcases h _ _ _ _ _ _ hact with ⟨-, hpendings, -, -, rfl⟩ | ⟨-, -, hpendings⟩
    · simp [hpendings]
    · cases counted with
      | false => simp [hpendings]
      | true =>
        rw [hpendings, if_pos rfl, Table.get_erase]
        by_cases heq : pk' = pk
        · simp [heq]
        · simp [heq]
  made_of_counted := by
    intro t s pk made sent hact
    rcases h _ _ _ _ _ _ hact with ⟨-, -, -, -, hcounted⟩ | ⟨-, hmade, -⟩
    · cases hcounted
    · rw [hmade, Option.isSome_some]
  made_of_sent := by
    intro t s pk made counted hact
    rcases h _ _ _ _ _ _ hact with ⟨-, -, -, hsent, -⟩ | ⟨-, hmade, -⟩
    · cases hsent
    · rw [hmade, Option.isSome_some]

theorem lawful_approvePendingPerson (w : ApprovalWorld) :
    Lawful (approvePendingPerson w) (fun t id => (t.profiles.get id).isSome)
      (fun t pk => (t.pendingProfiles.get pk).isNone) := by
  refine lawful_of_insert fun t pk s made sent counted h => ?_
  cases hrow : t.pendingProfiles.get pk with
  | none =>
    unfold approvePendingPerson at h
    rw [hrow] at h
    obtain ⟨rfl, rfl, rfl, rfl⟩ := Verdict.passes.inj h
    exact .inl ⟨rfl, rfl, rfl, rfl, rfl⟩
  | some pending =>
    obtain ⟨t', hmade, hid, hs⟩ := approvePendingPerson_passes hrow h
    have ht' := profileMade_eq_some hmade
    refine .inr ⟨⟨profileOfPending pending
      (t.getOrCreateAuthUserByPhone pending.phone pending.nationalCode).2, ?_⟩, hid, ?_⟩
    · rw [hs, ht']
      cases counted <;> rfl
    · rw [hs, ht']
      cases counted <;> rfl

theorem lawful_approvePendingClub (w : ApprovalWorld) :
    Lawful (approvePendingClub w) (fun t id => (t.clubs.get id).isSome)
      (fun t pk => (t.pendingClubs.get pk).isNone) := by
  refine lawful_of_insert fun t pk s made sent counted h => ?_
  cases hrow : t.pendingClubs.get pk with
  | none =>
    unfold approvePendingClub at h
    rw [hrow] at h
    obtain ⟨rfl, rfl, rfl, rfl⟩ := Verdict.passes.inj h
    exact .inl ⟨rfl, rfl, rfl, rfl, rfl⟩
  | some pending =>
    obtain ⟨users, rfl, hmade, hsent, hcounted, -⟩ | ⟨t', hmade, hid, hs⟩ :=
      approvePendingClub_passes hrow h
    · exact .inl ⟨rfl, rfl, hmade, hsent, hcounted⟩
    · have ht' := clubMade_eq_ok hmade
      refine .inr ⟨⟨clubOfPending pending (t.getOrCreateAuthUserByPhone
        (normalizePhone (founderNumber pending)) pending.founderNationalCode).2, ?_⟩, hid, ?_⟩
      · rw [hs, ht']
        cases counted <;> rfl
      · rw [hs, ht']
        cases counted <;> rfl

end Steps

/-- **Rows and records** go on as they should. -/
theorem PendingAdmin.lawful (admin : PendingAdmin) (w : ApprovalWorld) :
    Lawful (admin.act w) admin.present admin.removed := by
  cases admin with
  | player => exact lawful_approvePendingPerson w
  | coach => exact lawful_approvePendingPerson w
  | referee => exact lawful_approvePendingPerson w
  | club => exact lawful_approvePendingClub w

end Tkdchb.Accounts
