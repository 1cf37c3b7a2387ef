import Tkdchb.Payments.System

/-!
# What the records have to do with each other

Handlers write few columns. Who an intent belongs to, what it costs and what it is for
never change after its creation, nor do the tracking code, the amount and the origin of a
Bank record, nor the students and the price of a group. From this follows what a state
the system has reached looks like: a Bank record carries the amount of the intent it was
created for, a token is the tracking code of such a record, and what a request holds in
memory still agrees with the rows.

## Main definitions

* `PaymentIntent.frozen`, `Bank.frozen`, `GroupRegistrationPayment.frozen` — the columns
  that never change
* `Coherent` — the invariant

## Main results

* `Effect.keeps_intents`, `Effect.keeps_banks`, `Effect.keeps_groups` — rows stay
* `Effect.intent_cases`, `Effect.bank_cases` — where a row comes from
* `coherent_step`, `coherent_run` — every reachable state is coherent
-/

namespace Tkdchb

open Transition Web

/-! ### Columns that never change -/

/-- The intent without the columns the handlers write. -/
def PaymentIntent.frozen (i : PaymentIntent) : PaymentIntent :=
  { i with
    gateway := ""
    status := .initiated
    callbackUrl := ""
    token := ""
    refId := ""
    cardPan := ""
    extra := .empty
    initiatorIp := none
    userAgent := "" }

/-- The Bank record without the columns a verification writes. -/
def Bank.frozen (b : Bank) : Bank := b.verified default

/-- The group payment without the columns a finalisation writes. -/
def GroupRegistrationPayment.frozen (gp : GroupRegistrationPayment) : GroupRegistrationPayment :=
  { gp with
    isPaid := false
    bankRefCode := none
    payload := { gp.payload with enrollmentIds := none, paidAt := none } }

theorem Notice.frozen_preset (n : Notice) (i : PaymentIntent) :
    (n.preset i).frozen = i.frozen := by
  obtain ⟨_, _, _, h⟩ := n.preset_eq i
  rw [h]
  rfl

theorem Notice.frozen_settle (n : Notice) (i : PaymentIntent) :
    (n.settle i).frozen = i.frozen := by
  obtain ⟨_, _, _, h⟩ := n.settle_eq i
  rw [h]
  rfl

theorem Task.frozen_blindWrite {t : Task} {pk : ℕ} {f : PaymentIntent → PaymentIntent}
    (h : t.blindWrite = some (pk, f)) (i : PaymentIntent) : (f i).frozen = i.frozen := by
  rcases Task.blindWrite_cases h with ⟨_, _, _, -, rfl⟩ | rfl | ⟨_, _, rfl⟩ | ⟨_, rfl⟩
  all_goals rfl

/-- The intent a locked block returns differs from the row in written columns only. -/
theorem frozen_of_lockAndMarkPaid {reg : Registry} {now : Time} {pk : ℕ} {n : Notice}
    {db db' : Db} {i : PaymentIntent} (h : lockAndMarkPaid reg now pk n db = .ok (i, db')) :
    ∃ row, db.intents.get pk = some row ∧ i.frozen = row.frozen := by
  obtain ⟨row, hrow, ⟨-, rfl, -⟩ | ⟨-, rfl, -⟩⟩ := lockAndMarkPaid_cases h
  · exact ⟨row, hrow, n.frozen_preset row⟩
  · exact ⟨row, hrow, n.frozen_settle row⟩

/-! ### Rows stay -/

section Effects

variable {s : State} {a : Action} {db' : Db} {pk : ℕ}

theorem CoachWrites.keeps_intents {cfg : Settings} {reg : Registry} {now : Time} {user : ℕ}
    {publicId : String} {db : Db} (h : CoachWrites cfg reg now user publicId db db') :
    Table.Keeps PaymentIntent.frozen db.intents db'.intents := by
  cases h with
  | nothing | simulated => exact .refl _ _
  | opened => exact Table.keeps_insert _ _ _

theorem Effect.keeps_intents (h : Effect s a db') :
    Table.Keeps PaymentIntent.frozen s.db.intents db'.intents := by
  cases h with
  | none | dispatched | verified | otherBank => exact .refl _ _
  | created => exact Table.keeps_insert _ _ _
  | registered _ _ _ _ _ h => exact h.keeps_intents
  | begun rq gw callbackUrl pk => exact Table.keeps_modify _ _ fun _ => rfl
  | settled k outcome t n pk row _ htask hnotice hrow hunpaid h =>
    -- only the settled row changes, and only in written columns
    intro j i hi
    by_cases hj : j = pk
    · subst hj
      obtain rfl : i = row := Option.some.inj (hi.symm.trans hrow)
      exact ⟨n.settle i, h.get_self hrow, n.frozen_settle i⟩
    · exact ⟨i, by rw [h.get_of_ne hj, hi], rfl⟩
  | blind k outcome t pk f htask hwrite =>
    exact Table.keeps_modify _ _ fun i => Task.frozen_blindWrite hwrite i
  | finalized k outcome tc bankId b pk i ids _ htask h =>
    rw [finalize_intents h]
    exact .refl _ _

theorem Effect.keeps_banks (h : Effect s a db') :
    Table.Keeps Bank.frozen s.db.banks db'.banks := by
  cases h with
  | none | created | begun | blind => exact .refl _ _
  | registered _ _ _ _ _ h => cases h <;> exact .refl _ _
  | settled _ _ _ _ _ _ _ _ _ _ _ h =>
    rw [h.banks]
    exact .refl _ _
  | dispatched => exact Table.keeps_insert _ _ _
  | finalized k outcome tc bankId b pk i ids _ htask h =>
    rcases finalize_cases h with rfl | ⟨g, gp, -, -, -, -, hfin⟩
    · exact .refl _ _
    · rw [hfin.banks]
      exact .refl _ _
  | verified bankId update => exact Table.keeps_modify _ _ fun _ => rfl
  | otherBank => exact Table.keeps_insert _ _ _

theorem Effect.keeps_groups (h : Effect s a db') :
    Table.Keeps GroupRegistrationPayment.frozen s.db.groups db'.groups := by
  cases h with
  | none | created | begun | blind | dispatched | verified | otherBank => exact .refl _ _
  | registered _ _ _ _ _ h =>
    cases h with
    | nothing => exact .refl _ _
    | simulated => exact Table.keeps_insert _ _ _
    | opened => exact Table.keeps_insert _ _ _
  | settled _ _ _ _ _ _ _ _ _ _ _ h =>
    rw [h.groups]
    exact .refl _ _
  | finalized k outcome tc bankId b pk i ids _ htask h =>
    rcases finalize_cases h with rfl | ⟨g, gp, -, hgp, -, -, hfin⟩
    · exact .refl _ _
    -- the finalised group keeps its students and its price
    · obtain ⟨refCode, now, hgroups⟩ := hfin.group
      intro j r hr
      by_cases hj : j = g
      · subst hj
        obtain rfl : r = gp := Option.some.inj (hr.symm.trans hgp)
        exact ⟨r.finalized refCode ids now,
          by rw [hgroups, Table.get_modify_self, hr, Option.map_some], rfl⟩
      · exact ⟨r, by rw [hgroups, Table.get_modify_of_ne hj, hr], rfl⟩

/-! ### Where rows come from -/

/-- An intent an action may create. -/
inductive NewIntent (s : State) : Action → Db → PaymentIntent → Prop
  | api (user : ℕ) (publicId : String) (data : InitiateData) (v : Initiate)
      (competition : Option CompetitionRef) (d : Discounted) (db' : Db)
      (hdesc : v.description = Text.strip (data.description.getD ""))
      (hgroups : db'.groups = s.db.groups) :
      NewIntent s (.createIntent user publicId data) db'
        (apiIntent s.settings user publicId competition v d)
  | group (user : ℕ) (publicId key : String) (data : CoachRegisterData) (coach : ℤ) (compId : ℕ)
      (items : List GroupItem) (q : Quote) (gateway : String) (db' : Db) (hitems : items ≠ [])
      (hgroups : db'.groups = s.db.groups.insert (newGroup coach compId items q s.now)) :
      NewIntent s (.coachRegister user publicId key data) db'
        (groupIntent s.settings user publicId gateway s.db.groups.next q)

theorem NewIntent.token {i : PaymentIntent} (h : NewIntent s a db' i) : i.token = "" := by
  cases h with
  | api => rfl
  | group user publicId _ _ _ _ _ q gateway =>
    exact (groupIntent_spec s.settings user publicId gateway _ q).2.2.2.2.1

/-- An intent in the database after an action: one that was there, with its token or a
newly recorded one, or a new one under the next key. -/
theorem Effect.intent_cases (h : Effect s a db') {i' : PaymentIntent}
    (hi' : db'.intents.get pk = some i') :
    (∃ i, s.db.intents.get pk = some i ∧ i'.frozen = i.frozen ∧
      (i'.token = i.token ∨ ∃ k outcome bankId payment, a = .resume k outcome ∧
        s.tasks.get k = some (.gatewayReady pk bankId i'.token payment))) ∨
    (pk = s.db.intents.next ∧ NewIntent s a db' i') := by
  cases h with
  | none | dispatched | verified | otherBank => exact Or.inl ⟨i', hi', rfl, Or.inl rfl⟩
  | created user publicId data v competition d hdesc hfree =>
    rcases Table.get_insert_cases hi' with hold | ⟨hpk, rfl⟩
    · exact Or.inl ⟨i', hold, rfl, Or.inl rfl⟩
    · exact Or.inr ⟨hpk, .api user publicId data v competition d _ hdesc rfl⟩
  | registered user publicId key data _ h =>
    cases h with
    | nothing => exact Or.inl ⟨i', hi', rfl, Or.inl rfl⟩
    | simulated => exact Or.inl ⟨i', hi', rfl, Or.inl rfl⟩
    | opened coach compId items q gateway hitems hfree =>
      rcases Table.get_insert_cases hi' with hold | ⟨hpk, rfl⟩
      · exact Or.inl ⟨i', hold, rfl, Or.inl rfl⟩
      · exact Or.inr ⟨hpk, .group user publicId key data coach compId items q gateway _ hitems rfl⟩
  | begun rq gw callbackUrl pk' =>
    rcases Table.get_modify_cases hi' with hold | ⟨-, i, hi, rfl⟩
    · exact Or.inl ⟨i', hold, rfl, Or.inl rfl⟩
    · exact Or.inl ⟨i, hi, rfl, Or.inl rfl⟩
  | settled k outcome t n pk' row _ htask hnotice hrow hunpaid h =>
    by_cases hpk : pk = pk'
    · subst hpk
      obtain rfl : n.settle row = i' := Option.some.inj ((h.get_self hrow).symm.trans hi')
      obtain ⟨_, _, _, heq⟩ := n.settle_eq row
      exact Or.inl ⟨row, hrow, n.frozen_settle row, Or.inl (by rw [heq])⟩
    · exact Or.inl ⟨i', by rw [← h.get_of_ne hpk, hi'], rfl, Or.inl rfl⟩
  | blind k outcome t pk' f htask hwrite =>
    rcases Table.get_modify_cases hi' with hold | ⟨rfl, i, hi, rfl⟩
    · exact Or.inl ⟨i', hold, rfl, Or.inl rfl⟩
    · refine Or.inl ⟨i, hi, Task.frozen_blindWrite hwrite i, ?_⟩
      -- among the blind writes only the answered dispatch touches the token
      rcases Task.blindWrite_cases hwrite with
        ⟨bankId, tc, payment, rfl, rfl⟩ | rfl | ⟨_, _, rfl⟩ | ⟨_, rfl⟩
      · exact Or.inr ⟨k, outcome, bankId, payment, rfl, htask⟩
      all_goals exact Or.inl rfl
  | finalized k outcome tc bankId b pk' i ids _ htask h =>
    rw [finalize_intents h] at hi'
    exact Or.inl ⟨i', hi', rfl, Or.inl rfl⟩

/-- A Bank record in the database after an action: one that was there, one of no intent,
or the record of a dispatch in flight. -/
theorem Effect.bank_cases (h : Effect s a db') {bankId : ℕ} {b' : Bank}
    (hb' : db'.banks.get bankId = some b') :
    (∃ b, s.db.banks.get bankId = some b ∧ b'.frozen = b.frozen) ∨ b'.intent = Option.none ∨
    ∃ k pk i record, s.tasks.get k = some (.dispatch pk i) ∧
      b' = dispatchedBank record pk i.amount := by
  cases h with
  | none | created | begun | blind => exact Or.inl ⟨b', hb', rfl⟩
  | registered _ _ _ _ _ h => cases h <;> exact Or.inl ⟨b', hb', rfl⟩
  | settled _ _ _ _ _ _ _ _ _ _ _ h =>
    rw [h.banks] at hb'
    exact Or.inl ⟨b', hb', rfl⟩
  | dispatched k outcome pk i record htask hrecord =>
    rcases Table.get_insert_cases hb' with hold | ⟨-, rfl⟩
    · exact Or.inl ⟨b', hold, rfl⟩
    · exact Or.inr (Or.inr ⟨k, pk, i, record, htask, rfl⟩)
  | finalized k outcome tc bankId b pk i ids _ htask h =>
    rcases finalize_cases h with rfl | ⟨g, gp, -, -, -, -, hfin⟩
    · exact Or.inl ⟨b', hb', rfl⟩
    · rw [hfin.banks] at hb'
      exact Or.inl ⟨b', hb', rfl⟩
  | verified bankId' update =>
    -- a verification never touches the frozen columns
    rcases Table.get_modify_cases hb' with hold | ⟨-, b, hb, rfl⟩
    · exact Or.inl ⟨b', hold, rfl⟩
    · exact Or.inl ⟨b, hb, rfl⟩
  | otherBank record =>
    rcases Table.get_insert_cases hb' with hold | ⟨-, rfl⟩
    · exact Or.inl ⟨b', hold, rfl⟩
    · exact Or.inr (Or.inl rfl)

end Effects

/-! ### The invariant -/

/-- The intent under `pk` agrees with a copy of it. -/
def HasIntent (db : Db) (pk : ℕ) (copy : PaymentIntent) : Prop :=
  ∃ i, db.intents.get pk = some i ∧ i.frozen = copy.frozen

/-- The Bank record under a key agrees with a copy of it. -/
def HasBank (db : Db) (bankId : ℕ) (copy : Bank) : Prop :=
  ∃ b, db.banks.get bankId = some b ∧ b.frozen = copy.frozen

/-- The Bank record was created for the intent and has the tracking code. -/
def HasAttempt (db : Db) (pk bankId : ℕ) (tc : String) : Prop :=
  ∃ b, db.banks.get bankId = some b ∧ b.intent = some pk ∧ b.trackingCode = tc

/-- What a task holds in memory agrees with the rows. -/
def Task.Agrees (db : Db) : Task → Prop
  | .dispatch pk i => HasIntent db pk i
  | .gatewayReady pk bankId tc _ => HasAttempt db pk bankId tc
  | .gatewayError _ _ _ => True
  | .result _ bankId b pk i => HasBank db bankId b ∧ HasIntent db pk i
  | .resultFinalize _ bankId b pk i => HasBank db bankId b ∧ HasIntent db pk i
  | .callback bankId b _ _ => HasBank db bankId b

/-- The invariant of the system. -/
structure Coherent (s : State) : Prop where
  /-- a Bank record carries the amount of its intent -/
  bank : ∀ bankId b pk, s.db.banks.get bankId = some b → b.intent = some pk →
    ∃ i, s.db.intents.get pk = some i ∧ i.amount = b.amount
  /-- a token is the tracking code of a Bank record of the intent -/
  token : ∀ pk i, s.db.intents.get pk = some i → i.token ≠ "" →
    ∃ bankId, HasAttempt s.db pk bankId i.token
  task : ∀ k t, s.tasks.get k = some t → t.Agrees s.db

section Invariant

variable {s : State} {a : Action} {db db' : Db} {t : Task}

/-- Before any payment was started, the system is coherent. -/
theorem coherent_of_idle (hbanks : ∀ bankId, s.db.banks.get bankId = none)
    (htokens : ∀ pk i, s.db.intents.get pk = some i → i.token = "")
    (htasks : ∀ k, s.tasks.get k = none) : Coherent s where
  bank bankId b pk hb _ := by simp [hbanks] at hb
  token pk i hi htoken := absurd (htokens pk i hi) htoken
  task k t ht := by simp [htasks] at ht

theorem HasIntent.keeps {pk : ℕ} {i : PaymentIntent} (h : HasIntent db pk i)
    (hkeeps : Table.Keeps PaymentIntent.frozen db.intents db'.intents) : HasIntent db' pk i := by
  obtain ⟨row, hrow, hfrozen⟩ := h
  obtain ⟨row', hrow', hfrozen'⟩ := hkeeps pk row hrow
  exact ⟨row', hrow', hfrozen'.trans hfrozen⟩

theorem HasBank.keeps {bankId : ℕ} {b : Bank} (h : HasBank db bankId b)
    (hkeeps : Table.Keeps Bank.frozen db.banks db'.banks) : HasBank db' bankId b := by
  obtain ⟨row, hrow, hfrozen⟩ := h
  obtain ⟨row', hrow', hfrozen'⟩ := hkeeps bankId row hrow
  exact ⟨row', hrow', hfrozen'.trans hfrozen⟩

theorem Bank.intent_of_frozen {b b' : Bank} (h : b'.frozen = b.frozen) : b'.intent = b.intent :=
  Table.eq_of_view (g := Bank.intent) h fun _ => rfl

theorem Bank.amount_of_frozen {b b' : Bank} (h : b'.frozen = b.frozen) : b'.amount = b.amount :=
  Table.eq_of_view (g := Bank.amount) h fun _ => rfl

theorem Bank.trackingCode_of_frozen {b b' : Bank} (h : b'.frozen = b.frozen) :
    b'.trackingCode = b.trackingCode :=
  Table.eq_of_view (g := Bank.trackingCode) h fun _ => rfl

theorem PaymentIntent.amount_of_frozen {i i' : PaymentIntent} (h : i'.frozen = i.frozen) :
    i'.amount = i.amount :=
  Table.eq_of_view (g := PaymentIntent.amount) h fun _ => rfl

theorem HasAttempt.keeps {pk bankId : ℕ} {tc : String} (h : HasAttempt db pk bankId tc)
    (hkeeps : Table.Keeps Bank.frozen db.banks db'.banks) : HasAttempt db' pk bankId tc := by
  obtain ⟨b, hb, hintent, htc⟩ := h
  obtain ⟨b', hb', hfrozen⟩ := hkeeps bankId b hb
  exact ⟨b', hb', (Bank.intent_of_frozen hfrozen).trans hintent,
    (Bank.trackingCode_of_frozen hfrozen).trans htc⟩

theorem Task.Agrees.keeps (h : t.Agrees db)
    (hintents : Table.Keeps PaymentIntent.frozen db.intents db'.intents)
    (hbanks : Table.Keeps Bank.frozen db.banks db'.banks) : t.Agrees db' := by
  cases t with
  | dispatch => exact HasIntent.keeps h hintents
  | gatewayReady => exact HasAttempt.keeps h hbanks
  | gatewayError => trivial
  | result => exact ⟨h.1.keeps hbanks, h.2.keeps hintents⟩
  | resultFinalize => exact ⟨h.1.keeps hbanks, h.2.keeps hintents⟩
  | callback => exact HasBank.keeps h hbanks

/-- The two lookups of the result redirect find rows. -/
theorem get_of_lookup {tc : String} {bankId pk : ℕ} {i : PaymentIntent}
    (h : (intentByToken db tc).or (intentByRefId db bankId) = some (pk, i)) :
    db.intents.get pk = some i := by
  rcases Option.or_eq_some_iff.mp h with h | ⟨-, h⟩
  · exact (Table.newest_spec h).1
  · exact (Table.newest_spec h).1

theorem get_of_getBank {tc : String} {bankId : ℕ} {b : Bank}
    (h : getBank db tc = .ok (bankId, b)) :
    db.banks.get bankId = some b ∧ b.trackingCode = tc := by
  unfold getBank at h
  split at h
  · next hfirst _ =>
    split at h
    · cases h
      obtain ⟨hget, htc⟩ := Table.oldest_spec hfirst
      exact ⟨hget, by simpa using htc⟩
    · cases h
  · cases h

/-- A task that a coherent state spawns agrees with the rows after the step. -/
theorem Spawns.agrees (h : Spawns s a t) (hs : Coherent s) : t.Agrees (step a s).db := by
  have hintents := (step_effect a s).keeps_intents
  have hbanks := (step_effect a s).keeps_banks
  cases h with
  | dispatch rq gw callbackUrl pk i hrow hunpaid =>
    have hhas : HasIntent s.db pk (i.begun rq gw callbackUrl) := ⟨i, hrow, rfl⟩
    exact hhas.keeps hintents
  | ready k pk i record payment htask hdb =>
    rw [hdb]
    exact ⟨dispatchedBank record pk i.amount, Table.get_insert_next, rfl, rfl⟩
  | error => trivial
  | result tc bankId b pk i hne hbank hintent =>
    have hb : HasBank s.db bankId b := ⟨b, (Table.oldest_spec hbank).1, rfl⟩
    have hi : HasIntent s.db pk i := ⟨i, get_of_lookup hintent, rfl⟩
    exact ⟨hb.keeps hbanks, hi.keeps hintents⟩
  | resultFinalize k outcome tc bankId b pk i i' htask hsuccess hi =>
    obtain ⟨hb, hcopy⟩ := hs.task k _ htask
    refine ⟨hb.keeps hbanks, ?_⟩
    -- the copy handed on is the old one, or the one the locked block returned
    rcases hi with rfl | ⟨db', hblock⟩
    · exact hcopy.keeps hintents
    · obtain ⟨row, hrow, hfrozen⟩ := frozen_of_lockAndMarkPaid hblock
      have hhas : HasIntent s.db pk i' := ⟨row, hrow, hfrozen.symm⟩
      exact hhas.keeps hintents
  | callback gatewayName tc pid bankId b pk i url hne hbank hintent =>
    have hb : HasBank s.db bankId b := ⟨b, (get_of_getBank hbank).1, rfl⟩
    exact hb.keeps hbanks

theorem coherent_step (a : Action) (s : State) (hs : Coherent s) : Coherent (step a s) := by
  have heffect := step_effect a s
  have hintents := heffect.keeps_intents
  have hbanks := heffect.keeps_banks
  constructor
  · intro bankId b' pk hb' hown
    -- the intent was there before the step, with the amount of the record
    have hbefore : ∃ i, s.db.intents.get pk = some i ∧ i.amount = b'.amount := by
      rcases heffect.bank_cases hb' with ⟨b, hb, hfrozen⟩ | hnone | ⟨k, pk', i, record, htask, rfl⟩
      · rw [Bank.amount_of_frozen hfrozen]
        exact hs.bank bankId b pk hb ((Bank.intent_of_frozen hfrozen).symm.trans hown)
      · rw [hnone] at hown
        cases hown
      · obtain rfl : pk' = pk := Option.some.inj hown
        obtain ⟨row, hrow, hfrozen⟩ := hs.task k _ htask
        exact ⟨row, hrow, PaymentIntent.amount_of_frozen hfrozen⟩
    obtain ⟨i, hi, hamount⟩ := hbefore
    obtain ⟨i', hi', hfrozen⟩ := hintents pk i hi
    exact ⟨i', hi', (PaymentIntent.amount_of_frozen hfrozen).trans hamount⟩
  · intro pk i' hi' htoken
    -- a new token is the tracking code that the dispatch task holds
    rcases heffect.intent_cases hi' with ⟨i, hi, -, hsame | hready⟩ | ⟨-, hnew⟩
    · rw [hsame] at htoken ⊢
      obtain ⟨bankId, hattempt⟩ := hs.token pk i hi htoken
      exact ⟨bankId, hattempt.keeps hbanks⟩
    · obtain ⟨k, outcome, bankId, payment, -, htask⟩ := hready
      have hattempt : HasAttempt s.db pk bankId i'.token := hs.task k _ htask
      exact ⟨bankId, hattempt.keeps hbanks⟩
    · exact absurd hnew.token htoken
  · intro k t ht
    -- old copies stay good because no write touches a frozen column
    rcases step_tasks ht with hold | hnew
    · exact (hs.task k t hold).keeps hintents hbanks
    · exact hnew.agrees hs

/-- **Every state a run reaches from a coherent one is coherent.** -/
theorem coherent_run (hs : Coherent s) (acts : List Action) : Coherent (run step s acts) :=
  run_invariant coherent_step hs acts

end Invariant

end Tkdchb
