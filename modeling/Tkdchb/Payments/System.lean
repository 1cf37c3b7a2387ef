import Tkdchb.Competitions.CoachRegister
import Tkdchb.Lib.Transition
import Tkdchb.Payments.Gateway

/-!
# The payment system

All requests together, as one labelled step function. An action starts a request, lets a
request in flight do its next piece, or is something that happens outside: the bank
confirms a payment, an administrator changes what the handlers read, time passes. Any
list of actions is a run, so a statement about all runs is a statement about all
interleavings of all requests.

## Main definitions

* `State`, `Action`, `step`
* `Task.notice` — the settlement the next piece of a task attempts
* `Task.blindWrite` — the status the next piece of a task writes without looking
* `Action.locks` — the notification an action brings to the lock of an intent
* `Effect` — what an action may do to the database
* `Spawns` — which tasks an action may leave behind

## Main results

* `step_effect`, `step_tasks` — a step does only that
* `perform_of_notice`, `perform_of_blindWrite`, `step_locks` — and these pieces do
  exactly that
-/

namespace Tkdchb

open Calendar Web

/-- The database, the requests in flight, and what the handlers read from outside. -/
structure State where
  db : Db
  tasks : Table Task
  registry : Registry
  settings : Settings
  now : Time
  today : Date
  deriving Inhabited

/-- What a verification at the bank changes in a Bank record. -/
structure BankUpdate where
  isSuccess : Bool
  status : String
  referenceNumber : String
  bankTrackId : String
  extraInformation : ExtraInformation
  deriving Inhabited

/-- The Bank record after a verification. -/
def Bank.verified (b : Bank) (u : BankUpdate) : Bank :=
  { b with
    isSuccess := u.isSuccess
    status := u.status
    referenceNumber := u.referenceNumber
    bankTrackId := u.bankTrackId
    extraInformation := u.extraInformation }

inductive Action where
  | createIntent (user : ℕ) (publicId : String) (data : InitiateData)
  | coachRegister (user : ℕ) (publicId key : String) (data : CoachRegisterData)
  | start (rq : StartRequest)
  | resultRequest (tc : String)
  | callbackRequest (gatewayName : String) (tracking pid : Option String)
  /-- a request in flight goes on; the outcome is that of the gateway, if it is called -/
  | resume (task : ℕ) (outcome : GatewayOutcome)
  /-- the gateway package verifies a payment -/
  | verify (bankId : ℕ) (update : BankUpdate)
  /-- the gateway package creates a record outside a dispatch -/
  | otherBank (record : Bank)
  | configure (registry : Registry) (settings : Settings)
  | tick (now : Time) (today : Date)

/-! ### The step function -/

/-- The next piece of a task. -/
def perform (s : State) (outcome : GatewayOutcome) : Task → Reply × Db
  | .dispatch pk intent =>
    dispatchToGateway s.settings s.registry s.now pk intent outcome s.db
  | .gatewayReady pk bankId trackingCode payment =>
    recordReady pk bankId trackingCode payment s.db
  | .gatewayError pk known detail => recordError pk known detail s.db
  | .result tc bankId b pk intent =>
    resultCommit s.settings s.registry s.now tc bankId b pk intent s.db
  | .resultFinalize tc _ b _ intent => resultFinalize s.settings s.registry s.now tc b intent s.db
  | .callback bankId b pk returnUrl => callbackCommit s.registry s.now bankId b pk returnUrl s.db

/-- A new request has done its first piece. -/
def State.accept (s : State) : Reply × Db → State
  | (.next t, db) => { s with db, tasks := s.tasks.insert t }
  | (_, db) => { s with db }

/-- Task `k` has done its next piece. -/
def State.proceed (s : State) (k : ℕ) : Reply × Db → State
  | (.next t, db) => { s with db, tasks := s.tasks.modify k fun _ => t }
  | (_, db) => { s with db, tasks := s.tasks.erase k }

/-- A request that is over at once; an exception rolls it back. -/
def State.finish (s : State) : Except Failure (Response × Db) → State
  | .ok (_, db) => { s with db }
  | .error _ => s

/-- One action. Resuming a task that does not exist does nothing. -/
def step : Action → State → State
  -- requests that are over after one transaction
  | .createIntent user publicId data, s =>
    s.finish (createIntent s.settings s.registry user publicId data s.db)
  | .coachRegister user publicId key data, s =>
    s.finish (coachRegister s.settings s.registry s.now s.today user publicId key data s.db)
  -- requests that may leave a task behind
  | .start rq, s => s.accept (startPayment s.settings rq s.db)
  | .resultRequest tc, s => s.accept (resultRequest s.settings tc s.db, s.db)
  | .callbackRequest gatewayName tracking pid, s =>
    s.accept (callbackRequest s.settings gatewayName tracking pid s.db, s.db)
  | .resume k outcome, s =>
    match s.tasks.get k with
    | some t => s.proceed k (perform s outcome t)
    | none => s
  -- what happens outside the handlers
  | .verify bankId update, s =>
    { s with db := { s.db with banks := s.db.banks.modify bankId fun b => b.verified update } }
  | .otherBank record, s =>
    { s with db := { s.db with banks := s.db.banks.insert { record with intent := none } } }
  | .configure registry settings, s => { s with registry, settings }
  | .tick now today, s => { s with now, today }

/-! ### What a task is about to do -/

/-- The settlement the next piece of a task attempts, and of which intent. -/
def Task.notice : Task → Option (Notice × ℕ)
  | .dispatch pk i =>
    if i.amount = 0 then some (.free, pk)
    else if i.gateway = "dummy" then some (.dummy, pk)
    else none
  | .result tc bankId b pk i =>
    -- the copy read without a lock decides whether the lock is taken
    if b.isSuccess ∧ i.status ≠ .paid then some (.result bankId b tc, pk) else none
  | .callback bankId b pk _ => if b.isSuccess then some (.callback bankId b, pk) else none
  | _ => none

/-- The write the next piece of a task makes to an intent without looking at its
status, and to which intent. -/
def Task.blindWrite : Task → Option (ℕ × (PaymentIntent → PaymentIntent))
  | .gatewayReady pk bankId trackingCode _ =>
    some (pk, PaymentIntent.redirectTo trackingCode bankId)
  | .gatewayError pk _ _ => some (pk, PaymentIntent.fail)
  | .result _ bankId b pk i =>
    -- the status that is looked at is that of the copy, not of the row
    if ¬ b.isSuccess ∧ i.status ≠ .paid then some (pk, PaymentIntent.failResult bankId b) else none
  | .callback _ b pk _ => if b.isSuccess then none else some (pk, PaymentIntent.failCallback b)
  | _ => none

/-- The notification the action brings to the lock, and of which intent. -/
def Action.locks : Action → State → Option (Notice × ℕ)
  | .resume k _, s => (s.tasks.get k).bind Task.notice
  | _, _ => none

/-- The tasks that settle: a dispatch of a free or a dummy payment, and the two routes that read
a successful Bank record. -/
theorem Task.notice_cases {t : Task} {n : Notice} {pk : ℕ} (h : t.notice = some (n, pk)) :
    (∃ i, t = .dispatch pk i ∧
      (n = .free ∧ i.amount = 0 ∨ n = .dummy ∧ i.amount ≠ 0 ∧ i.gateway = "dummy")) ∨
    (∃ tc bankId b i, t = .result tc bankId b pk i ∧ n = .result bankId b tc ∧
      b.isSuccess = true ∧ i.status ≠ .paid) ∨
    ∃ bankId b url, t = .callback bankId b pk url ∧ n = .callback bankId b ∧
      b.isSuccess = true := by
  cases t with
  | gatewayReady | gatewayError | resultFinalize => cases h
  | dispatch pk' i =>
    simp only [Task.notice] at h
    split_ifs at h with hfree hdummy
    · cases h
      exact Or.inl ⟨i, rfl, Or.inl ⟨rfl, hfree⟩⟩
    · cases h
      exact Or.inl ⟨i, rfl, Or.inr ⟨rfl, hfree, hdummy⟩⟩
  | result tc bankId b pk' i =>
    simp only [Task.notice] at h
    split_ifs at h with hcond
    cases h
    exact Or.inr (Or.inl ⟨tc, bankId, b, i, rfl, rfl, hcond⟩)
  | callback bankId b pk' url =>
    simp only [Task.notice] at h
    split_ifs at h with hcond
    cases h
    exact Or.inr (Or.inr ⟨bankId, b, url, rfl, rfl, hcond⟩)

/-- The blind writes: the answer of the gateway, and the three failures. -/
theorem Task.blindWrite_cases {t : Task} {pk : ℕ} {f : PaymentIntent → PaymentIntent}
    (h : t.blindWrite = some (pk, f)) :
    (∃ bankId tc payment, t = .gatewayReady pk bankId tc payment ∧
      f = PaymentIntent.redirectTo tc bankId) ∨
    f = PaymentIntent.fail ∨ (∃ bankId b, f = PaymentIntent.failResult bankId b) ∨
      ∃ b, f = PaymentIntent.failCallback b := by
  cases t with
  | dispatch | resultFinalize => cases h
  | gatewayReady pk' bankId tc payment =>
    cases h
    exact Or.inl ⟨bankId, tc, payment, rfl, rfl⟩
  | gatewayError =>
    cases h
    exact Or.inr (Or.inl rfl)
  | result tc bankId b pk' j =>
    simp only [Task.blindWrite] at h
    split_ifs at h
    cases h
    exact Or.inr (Or.inr (Or.inl ⟨bankId, b, rfl⟩))
  | callback bankId b pk' url =>
    simp only [Task.blindWrite] at h
    split_ifs at h
    cases h
    exact Or.inr (Or.inr (Or.inr ⟨b, rfl⟩))

/-- No blind write is one of a payment. -/
theorem Task.blindWrite_status {t : Task} {pk : ℕ} {f : PaymentIntent → PaymentIntent}
    (h : t.blindWrite = some (pk, f)) (i : PaymentIntent) : (f i).status ≠ .paid := by
  rcases Task.blindWrite_cases h with ⟨_, _, _, -, rfl⟩ | rfl | ⟨_, _, rfl⟩ | ⟨_, rfl⟩
  all_goals exact nofun

/-- What an action may do to the database. -/
inductive Effect (s : State) : Action → Db → Prop
  | none (a : Action) : Effect s a s.db
  | created (user : ℕ) (publicId : String) (data : InitiateData) (v : Initiate)
      (competition : Option CompetitionRef) (d : Discounted)
      (hdesc : v.description = Text.strip (data.description.getD ""))
      (hfree : publicIdFree s.db publicId = true) :
      Effect s (.createIntent user publicId data)
        { s.db with
          intents := s.db.intents.insert
            (apiIntent s.settings user publicId competition v d) }
  | registered (user : ℕ) (publicId key : String) (data : CoachRegisterData) (db' : Db)
      (h : CoachWrites s.settings s.registry s.now user publicId s.db db') :
      Effect s (.coachRegister user publicId key data) db'
  | begun (rq : StartRequest) (gw callbackUrl : String) (pk : ℕ) :
      Effect s (.start rq)
        { s.db with intents := s.db.intents.modify pk fun i => i.begun rq gw callbackUrl }
  | settled (k : ℕ) (outcome : GatewayOutcome) (t : Task) (n : Notice) (pk : ℕ)
      (row : PaymentIntent) (db' : Db) (htask : s.tasks.get k = some t)
      (hnotice : t.notice = some (n, pk)) (hrow : s.db.intents.get pk = some row)
      (hunpaid : row.status ≠ .paid) (h : Settles pk (n.settle row) s.db db') :
      Effect s (.resume k outcome) db'
  | dispatched (k : ℕ) (outcome : GatewayOutcome) (pk : ℕ) (i : PaymentIntent) (record : Bank)
      (htask : s.tasks.get k = some (.dispatch pk i)) (hrecord : outcome.record? = some record) :
      Effect s (.resume k outcome)
        { s.db with banks := s.db.banks.insert (dispatchedBank record pk i.amount) }
  | blind (k : ℕ) (outcome : GatewayOutcome) (t : Task) (pk : ℕ)
      (f : PaymentIntent → PaymentIntent) (htask : s.tasks.get k = some t)
      (hblind : t.blindWrite = some (pk, f)) :
      Effect s (.resume k outcome) { s.db with intents := s.db.intents.modify pk f }
  | finalized (k : ℕ) (outcome : GatewayOutcome) (tc : String) (bankId : ℕ) (b : Bank) (pk : ℕ)
      (i : PaymentIntent) (ids : List ℕ) (db' : Db)
      (htask : s.tasks.get k = some (.resultFinalize tc bankId b pk i))
      (h : finalizeGroupPaymentIfNeeded s.registry s.now i (finalizeRefCode b tc) s.db =
        .ok (ids, db')) :
      Effect s (.resume k outcome) db'
  | verified (bankId : ℕ) (update : BankUpdate) :
      Effect s (.verify bankId update)
        { s.db with banks := s.db.banks.modify bankId fun b => b.verified update }
  | otherBank (record : Bank) :
      Effect s (.otherBank record)
        { s.db with banks := s.db.banks.insert { record with intent := Option.none } }

/-- The tasks an action may leave behind. -/
inductive Spawns (s : State) : Action → Task → Prop
  | dispatch (rq : StartRequest) (gw callbackUrl : String) (pk : ℕ) (i : PaymentIntent)
      (hrow : s.db.intents.get pk = some i) (hunpaid : i.status ≠ .paid) :
      Spawns s (.start rq) (.dispatch pk (i.begun rq gw callbackUrl))
  | ready (k pk : ℕ) (i : PaymentIntent) (record : Bank) (payment : Json)
      (htask : s.tasks.get k = some (.dispatch pk i))
      (hdb : (step (.resume k (.ready record payment)) s).db =
        { s.db with banks := s.db.banks.insert (dispatchedBank record pk i.amount) }) :
      Spawns s (.resume k (.ready record payment))
        (.gatewayReady pk s.db.banks.next record.trackingCode payment)
  | error (k pk : ℕ) (i : PaymentIntent) (outcome : GatewayOutcome) (known : Bool)
      (detail : String) (htask : s.tasks.get k = some (.dispatch pk i)) :
      Spawns s (.resume k outcome) (.gatewayError pk known detail)
  | result (tc : String) (bankId : ℕ) (b : Bank) (pk : ℕ) (i : PaymentIntent)
      (hne : Text.strip tc ≠ "")
      (hbank : (s.db.banks.oldest fun b => b.trackingCode == Text.strip tc) = some (bankId, b))
      (hintent : (intentByToken s.db (Text.strip tc)).or (intentByRefId s.db bankId) =
        some (pk, i)) :
      Spawns s (.resultRequest tc) (.result (Text.strip tc) bankId b pk i)
  | resultFinalize (k : ℕ) (outcome : GatewayOutcome) (tc : String) (bankId : ℕ) (b : Bank)
      (pk : ℕ) (i i' : PaymentIntent) (htask : s.tasks.get k = some (.result tc bankId b pk i))
      (hsuccess : b.isSuccess = true)
      (hi : i' = i ∨ ∃ db', lockAndMarkPaid s.registry s.now pk (.result bankId b tc) s.db =
        .ok (i', db')) :
      Spawns s (.resume k outcome) (.resultFinalize tc bankId b pk i')
  | callback (gatewayName tc : String) (pid : Option String) (bankId : ℕ) (b : Bank) (pk : ℕ)
      (i : PaymentIntent) (url : String) (hne : tc ≠ "") (hbank : getBank s.db tc = .ok (bankId, b))
      (hintent : ((intentByPid s.db pid).or (intentByToken s.db tc)).or
        (intentByRefId s.db bankId) = some (pk, i)) :
      Spawns s (.callbackRequest gatewayName (some tc) pid) (.callback bankId b pk url)

/-! ### A step has one of these effects -/

section Step

variable {s : State} {outcome : GatewayOutcome} {t : Task} {k pk : ℕ} {n : Notice}
  {f : PaymentIntent → PaymentIntent}

@[simp] theorem State.accept_db (s : State) (x : Reply × Db) : (s.accept x).db = x.2 := by
  obtain ⟨r | e | t, db⟩ := x <;> rfl

@[simp] theorem State.proceed_db (s : State) (k : ℕ) (x : Reply × Db) :
    (s.proceed k x).db = x.2 := by
  obtain ⟨r | e | t, db⟩ := x <;> rfl

theorem step_resume_db (h : s.tasks.get k = some t) :
    (step (.resume k outcome) s).db = (perform s outcome t).2 := by
  simp only [step, h, State.proceed_db]

/-- A piece that settles runs exactly the locked block. -/
theorem perform_of_notice (h : t.notice = some (n, pk)) :
    (perform s outcome t).2 = afterNotice s.registry s.now pk n s.db := by
  unfold afterNotice
  rcases Task.notice_cases h with ⟨i, rfl, ⟨rfl, hfree⟩ | ⟨rfl, hfree, hdummy⟩⟩ |
    ⟨tc, bankId, b, i, rfl, rfl, hsuccess, hunpaid⟩ | ⟨bankId, b, url, rfl, rfl, hsuccess⟩
  · simp only [perform, dispatchToGateway, hfree, ↓reduceIte]
    split <;> simp only [*]
  · simp only [perform, dispatchToGateway, hfree, hdummy, ↓reduceIte]
    split <;> simp only [*]
  · -- the check before `mark_paid` repeats the one inside it
    simp only [perform, resultCommit, hsuccess, hunpaid, ne_eq, not_false_eq_true, ↓reduceIte,
      resultBlock_eq]
    split <;> simp only [*]
  · simp only [perform, callbackCommit, hsuccess, ↓reduceIte]
    split <;> simp only [*]

/-- A piece that writes blindly does exactly that. -/
theorem perform_of_blindWrite (h : t.blindWrite = some (pk, f)) :
    (perform s outcome t).2 = { s.db with intents := s.db.intents.modify pk f } := by
  -- without a row the piece raises, and there is nothing to modify
  have hnone (hrow : s.db.intents.get pk = none) : s.db.intents.modify pk f = s.db.intents :=
    Table.modify_eq_self fun r hr => by simp [hrow] at hr
  cases t with
  | dispatch | resultFinalize => cases h
  | gatewayReady pk' bankId tc payment =>
    cases h
    simp only [perform, recordReady]
    split
    · next hrow => rw [hnone hrow]
    · rfl
  | gatewayError pk' known detail =>
    cases h
    simp only [perform, recordError]
    split
    · next hrow => rw [hnone hrow]
    · rfl
  | result tc bankId b pk' i =>
    simp only [Task.blindWrite] at h
    split_ifs at h with hcond
    cases h
    simp only [perform, resultCommit, hcond.1, hcond.2, ne_eq, not_false_eq_true, ↓reduceIte,
      Bool.false_eq_true]
  | callback bankId b pk' url =>
    simp only [Task.blindWrite] at h
    split_ifs at h with hcond
    cases h
    simp only [perform, callbackCommit, hcond, Bool.false_eq_true, ↓reduceIte]
    split
    · next hrow => rw [hnone hrow]
    · rfl

/-- The step of a notification that takes the lock is the locked block. -/
theorem step_locks {a : Action} (h : a.locks s = some (n, pk)) :
    (step a s).db = afterNotice s.registry s.now pk n s.db := by
  cases a with
  | resume k outcome =>
    obtain ⟨t, htask, hnotice⟩ := Option.bind_eq_some_iff.mp h
    rw [step_resume_db htask, perform_of_notice hnotice]
  | _ => cases h

/-- The effect of the next piece of a task. -/
theorem perform_effect (htask : s.tasks.get k = some t) :
    Effect s (.resume k outcome) (perform s outcome t).2 := by
  cases hnotice : t.notice with
  | some x =>
    obtain ⟨n, pk⟩ := x
    rw [perform_of_notice hnotice]
    -- a settlement has written all of it or nothing
    rcases afterNotice_cases s.registry s.now pk n s.db with hsame | ⟨row, hrow, hunpaid, hset⟩
    · rw [hsame]
      exact .none _
    · exact .settled k outcome t n pk row _ htask hnotice hrow hunpaid hset
  | none =>
    cases hblind : t.blindWrite with
    | some x =>
      obtain ⟨pk, f⟩ := x
      rw [perform_of_blindWrite hblind]
      exact .blind k outcome t pk f htask hblind
    | none =>
      -- what is left: the gateway call, the finalisation, and branches that only answer
      cases t with
      | gatewayReady | gatewayError => cases hblind
      | dispatch pk i =>
        have hpays : i.amount ≠ 0 ∧ i.gateway ≠ "dummy" := by
          simp only [Task.notice] at hnotice
          split_ifs at hnotice with hfree hdummy
          exact ⟨hfree, hdummy⟩
        have hcall : GatewayCall pk i.amount s.db outcome (perform s outcome (.dispatch pk i)) :=
          dispatchToGateway_call hpays.1 hpays.2
        generalize perform s outcome (.dispatch pk i) = x at hcall
        cases hcall with
        | none | error => exact .none _
        | ready record payment => exact .dispatched k _ pk i record htask rfl
        | readyError record known detail => exact .dispatched k _ pk i record htask rfl
      | result tc bankId b pk i =>
        -- no notice and no blind write: the copy was paid
        have hpaid : i.status = .paid := by
          by_contra hunpaid
          cases hsuccess : b.isSuccess <;>
            simp [Task.notice, Task.blindWrite, hsuccess, hunpaid] at hnotice hblind
        have hsame : (perform s outcome (.result tc bankId b pk i)).2 = s.db := by
          simp only [perform, resultCommit, hpaid, ne_eq, not_true_eq_false, ↓reduceIte]
          split <;> rfl
        rw [hsame]
        exact .none _
      | resultFinalize tc bankId b pk i =>
        cases hfin :
          finalizeGroupPaymentIfNeeded s.registry s.now i (finalizeRefCode b tc) s.db with
        | error e =>
          simp only [perform, resultFinalize, hfin]
          exact .none _
        | ok x =>
          simp only [perform, resultFinalize, hfin]
          exact .finalized k outcome tc bankId b pk i x.1 x.2 htask hfin
      | callback bankId b pk url =>
        cases hsuccess : b.isSuccess <;>
          simp [Task.notice, Task.blindWrite, hsuccess] at hnotice hblind

/-- **Every step has one of the effects.** -/
theorem step_effect (a : Action) (s : State) : Effect s a (step a s).db := by
  cases a with
  | createIntent user publicId data =>
    simp only [step]
    cases h : createIntent s.settings s.registry user publicId data s.db with
    | error e => exact .none _
    | ok x =>
      rcases createIntent_ok h with hsame | ⟨v, competition, d, hdesc, hfree, hdb⟩
      · simp only [State.finish, hsame]
        exact .none _
      · simp only [State.finish, hdb]
        exact .created user publicId data v competition d hdesc hfree
  | coachRegister user publicId key data =>
    simp only [step]
    cases h : coachRegister s.settings s.registry s.now s.today user publicId key data s.db with
    | error e => exact .none _
    | ok x => exact .registered user publicId key data x.2 (coachRegister_ok h)
  | start rq =>
    simp only [step, State.accept_db, startPayment]
    rcases begin_cases s.settings rq (pickGateway s.settings rq.gateway) (Text.strip rq.callbackUrl)
      s.db with ⟨-, hsame⟩ | ⟨pk, i, -, -, heq⟩
    · rw [hsame]
      exact .none _
    · rw [heq]
      exact .begun rq _ _ pk
  | resultRequest tc =>
    simp only [step, State.accept_db]
    exact .none _
  | callbackRequest gatewayName tracking pid =>
    simp only [step, State.accept_db]
    exact .none _
  | resume k outcome =>
    cases htask : s.tasks.get k with
    | none =>
      simp only [step, htask]
      exact .none _
    | some t =>
      rw [step_resume_db htask]
      exact perform_effect htask
  | verify bankId update => exact .verified bankId update
  | otherBank record => exact .otherBank record
  | configure registry settings => exact .none _
  | tick now today => exact .none _

/-! ### The tasks a step leaves -/

theorem State.accept_tasks {x : Reply × Db} {j : ℕ} (h : (s.accept x).tasks.get j = some t) :
    s.tasks.get j = some t ∨ x.1 = .next t := by
  obtain ⟨r | e | t', db⟩ := x
  · exact Or.inl h
  · exact Or.inl h
  · simp only [State.accept, Table.get_insert] at h
    split_ifs at h
    · cases h
      exact Or.inr rfl
    · exact Or.inl h

theorem State.proceed_tasks {x : Reply × Db} {j : ℕ} (h : (s.proceed k x).tasks.get j = some t) :
    s.tasks.get j = some t ∨ x.1 = .next t := by
  obtain ⟨r | e | t', db⟩ := x
  · exact Or.inl (Table.get_of_get_erase h)
  · exact Or.inl (Table.get_of_get_erase h)
  · simp only [State.proceed, Table.get_modify] at h
    split_ifs at h
    · obtain ⟨_, _, rfl⟩ := Option.map_eq_some_iff.mp h
      exact Or.inr rfl
    · exact Or.inl h

/-- The task a piece leaves behind. -/
theorem perform_spawns {t' : Task} (htask : s.tasks.get k = some t)
    (h : (perform s outcome t).1 = .next t') : Spawns s (.resume k outcome) t' := by
  cases t with
  | dispatch pk i =>
    -- the free and the dummy branch answer; the others may have called the gateway
    by_cases hsettles : i.amount = 0 ∨ i.gateway = "dummy"
    · have hnone : (perform s outcome (.dispatch pk i)).1.task? = none :=
        dispatchToGateway_settles hsettles s.settings s.registry s.now pk outcome s.db
      rw [h] at hnone
      cases hnone
    · rw [not_or] at hsettles
      have hcall : GatewayCall pk i.amount s.db outcome (perform s outcome (.dispatch pk i)) :=
        dispatchToGateway_call hsettles.1 hsettles.2
      have hdb : (step (.resume k outcome) s).db = _ := step_resume_db htask
      generalize perform s outcome (.dispatch pk i) = x at hcall h hdb
      cases hcall with
      | none _ r hr =>
        simp only at h
        rw [h] at hr
        cases hr
      | ready record payment =>
        cases h
        exact .ready k pk i record payment htask hdb
      | readyError record known detail =>
        cases h
        exact .error k pk i _ known detail htask
      | error known detail =>
        cases h
        exact .error k pk i _ known detail htask
  | gatewayReady pk bankId tc payment =>
    simp only [perform, recordReady] at h
    split at h <;> cases h
  | gatewayError pk known detail =>
    simp only [perform, recordError] at h
    split at h <;> cases h
  | result tc bankId b pk i =>
    simp only [perform, resultCommit, resultBlock_eq] at h
    split at h
    · next hsuccess =>
      split at h
      · split at h
        · cases h
        · next i' db' hblock =>
          cases h
          exact .resultFinalize k outcome tc bankId b pk i i' htask hsuccess (Or.inr ⟨db', hblock⟩)
      · cases h
        exact .resultFinalize k outcome tc bankId b pk i i htask hsuccess (Or.inl rfl)
    · split at h <;> cases h
  | resultFinalize tc bankId b pk i =>
    simp only [perform, resultFinalize] at h
    split at h <;> cases h
  | callback bankId b pk url =>
    simp only [perform, callbackCommit] at h
    split at h
    · split at h <;> cases h
    · split at h <;> cases h

/-- **Every task after a step was there before, or is one the action may spawn.** -/
theorem step_tasks {a : Action} {j : ℕ} (h : (step a s).tasks.get j = some t) :
    s.tasks.get j = some t ∨ Spawns s a t := by
  cases a with
  | createIntent user publicId data =>
    simp only [step, State.finish] at h
    split at h <;> exact Or.inl h
  | coachRegister user publicId key data =>
    simp only [step, State.finish] at h
    split at h <;> exact Or.inl h
  | start rq =>
    simp only [step] at h
    rcases State.accept_tasks h with hold | hnext
    · exact Or.inl hold
    · -- only the saved intent is handed on
      rcases begin_cases s.settings rq (pickGateway s.settings rq.gateway)
        (Text.strip rq.callbackUrl) s.db with ⟨hnone, -⟩ | ⟨pk, i, hrow, hunpaid, heq⟩
      · rw [startPayment] at hnext
        rw [hnext] at hnone
        cases hnone
      · rw [startPayment, heq] at hnext
        cases hnext
        exact Or.inr (.dispatch rq _ _ pk i hrow hunpaid)
  | resultRequest tc =>
    simp only [step] at h
    rcases State.accept_tasks h with hold | hnext
    · exact Or.inl hold
    · dsimp only at hnext
      obtain ⟨bankId, b, pk, i, rfl, hne, hbank, hintent⟩ := resultRequest_next hnext
      exact Or.inr (.result tc bankId b pk i hne hbank hintent)
  | callbackRequest gatewayName tracking pid =>
    simp only [step] at h
    rcases State.accept_tasks h with hold | hnext
    · exact Or.inl hold
    · dsimp only at hnext
      obtain ⟨tc, bankId, b, pk, i, rfl, rfl, hne, hbank, hintent⟩ := callbackRequest_next hnext
      exact Or.inr (.callback gatewayName tc pid bankId b pk i _ hne hbank hintent)
  | resume k outcome =>
    cases htask : s.tasks.get k with
    | none =>
      simp only [step, htask] at h
      exact Or.inl h
    | some t' =>
      simp only [step, htask] at h
      exact (State.proceed_tasks h).imp_right fun hnext => perform_spawns htask hnext
  | verify | otherBank | configure | tick => exact Or.inl h

end Step

end Tkdchb
