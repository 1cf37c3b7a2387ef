import Tkdchb.Payments.Coherence

/-!
# Whether a successful attempt is found again

An intent may be sent to the bank many times, and each attempt is a Bank record of its own.
The intent remembers two of them: the last recorded one by its token, and by its reference
number the first one, until a settlement overwrites that. The result redirect finds the
intent of a successful attempt exactly when one of the two still names it.

## Main definitions

* `Finds` — the result redirect goes on with the intent
* `Remembers` — the intent still names the attempt
* `resultCall` — the pieces of one result request, one after the other

## Main results

* `resultRequest_finds_iff` — the lookup
* `paid_resultCall_iff` — what the rest of the call makes of it
* `result_finds_and_pays_iff` — both, after any history of attempts
-/

namespace Tkdchb

open Transition Web

/-- `payment_result_redirect` called with the tracking code goes on with the intent. -/
def Finds (s : State) (tc : String) (pk : ℕ) : Prop :=
  ∃ bankId b i, resultRequest s.settings tc s.db = .next (.result (Text.strip tc) bankId b pk i)

/-- The intent under `pk` names the attempt by its token, or by its reference number with no
newer intent doing the same. -/
def Remembers (db : Db) (pk : ℕ) (i : PaymentIntent) (bankId : ℕ) (tc : String) : Prop :=
  i.token = tc ∨ i.refId = toString bankId ∧
    ∀ k j, pk < k → db.intents.get k = some j → j.refId ≠ toString bankId

/-- One call of `payment_result_redirect`: the reads, the locked block, the finalisation. -/
def resultCall (s : State) (tc : String) (outcome : GatewayOutcome) : List Action :=
  [.resultRequest tc, .resume s.tasks.next outcome, .resume s.tasks.next outcome]

/-! ### The lookup -/

section Lookup

variable {s : State} {bankId pk : ℕ} {b : Bank} {i : PaymentIntent}

/-- In a coherent state, only the intent of an attempt has its tracking code as token. -/
theorem Coherent.eq_of_token (hs : Coherent s) (hb : s.db.banks.get bankId = some b)
    (hown : b.intent = some pk)
    (huniq : ∀ k b', s.db.banks.get k = some b' → b'.trackingCode = b.trackingCode → k = bankId)
    (hne : b.trackingCode ≠ "") {k : ℕ} {j : PaymentIntent} (hj : s.db.intents.get k = some j)
    (htoken : j.token = b.trackingCode) : k = pk := by
  -- a token is the code of a record of the same intent, and codes are unique
  obtain ⟨bankId', b', hb', hown', htc'⟩ := hs.token k j hj (by rwa [htoken])
  obtain rfl := huniq bankId' b' hb' (by rw [htc', htoken])
  obtain rfl : b = b' := Option.some.inj (hb.symm.trans hb')
  exact Option.some.inj (hown'.symm.trans hown)

/-- The result redirect finds the intent of an attempt exactly when it remembers it. -/
theorem resultRequest_finds_iff (hs : Coherent s) (hb : s.db.banks.get bankId = some b)
    (hown : b.intent = some pk) (hi : s.db.intents.get pk = some i)
    (huniq : ∀ k b', s.db.banks.get k = some b' → b'.trackingCode = b.trackingCode → k = bankId)
    (hne : b.trackingCode ≠ "") (htrim : Text.strip b.trackingCode = b.trackingCode) :
    resultRequest s.settings b.trackingCode s.db = .next (.result b.trackingCode bankId b pk i) ∧
        Remembers s.db pk i bankId b.trackingCode ∨
      ¬ Finds s b.trackingCode pk ∧ ¬ Remembers s.db pk i bankId b.trackingCode := by
  have hbank : (s.db.banks.oldest fun b' => b'.trackingCode == b.trackingCode) =
      some (bankId, b) :=
    Table.oldest_eq_some_of_unique hb (by simp) fun k b' hb' heq =>
      huniq k b' hb' (by simpa using heq)
  -- the two answers of the lookup by token and then by reference number
  have hmissing (h : (intentByToken s.db b.trackingCode).or (intentByRefId s.db bankId) = none) :
      resultRequest s.settings b.trackingCode s.db =
        .respond (.redirect (resultUrl s.settings b.trackingCode b none [])) := by
    simp only [resultRequest, htrim, if_neg hne, hbank, h]
  have hfound (k : ℕ) (j : PaymentIntent)
      (h : (intentByToken s.db b.trackingCode).or (intentByRefId s.db bankId) = some (k, j)) :
      resultRequest s.settings b.trackingCode s.db =
        .next (.result b.trackingCode bankId b k j) := by
    simp only [resultRequest, htrim, if_neg hne, hbank, h]
  have honly : ∀ k j, s.db.intents.get k = some j → j.token = b.trackingCode → k = pk :=
    fun k j => hs.eq_of_token hb hown huniq hne
  by_cases htoken : i.token = b.trackingCode
  · left
    -- the token leads to the intent, since no other has it
    have hfind : intentByToken s.db b.trackingCode = some (pk, i) := by
      refine Table.newest_eq_some_iff.mpr ⟨hi, by simpa using htoken, fun k j hk hj => ?_⟩
      by_contra h
      exact hk.ne' (honly k j hj (by simpa using h))
    exact ⟨hfound pk i (by rw [hfind, Option.some_or]), Or.inl htoken⟩
  · have hnone : intentByToken s.db b.trackingCode = none := by
      refine Table.newest_eq_none_iff.mpr fun k j hj => ?_
      by_contra h
      have hjtoken : j.token = b.trackingCode := by simpa using h
      obtain rfl := honly k j hj hjtoken
      obtain rfl : i = j := Option.some.inj (hi.symm.trans hj)
      exact htoken hjtoken
    rw [hnone, Option.none_or] at hmissing
    simp only [hnone, Option.none_or] at hfound
    -- without the token the reference number decides
    have hremembers : Remembers s.db pk i bankId b.trackingCode ↔
        intentByRefId s.db bankId = some (pk, i) := by
      simp only [Remembers, htoken, false_or, intentByRefId, Table.newest_eq_some_iff, hi,
        true_and, beq_iff_eq, beq_eq_false_iff_ne]
    by_cases href : intentByRefId s.db bankId = some (pk, i)
    · exact Or.inl ⟨hfound pk i href, hremembers.mpr href⟩
    · refine Or.inr ⟨?_, hremembers.not.mpr href⟩
      rintro ⟨bankId', b', i', hnext⟩
      cases hfind : intentByRefId s.db bankId with
      | none =>
        rw [hmissing hfind] at hnext
        cases hnext
      | some x =>
        obtain ⟨k, j⟩ := x
        rw [hfound k j hfind] at hnext
        simp only [Reply.next.injEq, Task.result.injEq] at hnext
        obtain ⟨-, rfl, rfl, rfl, rfl⟩ := hnext
        have hj := (Table.newest_spec hfind).1
        obtain rfl : i = j := Option.some.inj (hi.symm.trans hj)
        exact href hfind

end Lookup

/-! ### The rest of the call -/

section Call

variable {s : State} {tc : String} {bankId pk k : ℕ} {b : Bank} {i : PaymentIntent}
  {outcome : GatewayOutcome}

/-- A task that is over, or about to finalise a group, does not touch the intents. -/
theorem intents_resume_of_done
    (h : s.tasks.get k = none ∨ ∃ tc bankId b pk i,
      s.tasks.get k = some (.resultFinalize tc bankId b pk i)) :
    (step (.resume k outcome) s).db.intents = s.db.intents := by
  rcases h with h | ⟨tc, bankId, b, pk, i, h⟩
  · simp only [step, h]
  · rw [step_resume_db h]
    simp only [perform, resultFinalize]
    split
    · next ids db' hfin => exact finalize_intents hfin
    · rfl

/-- A call that has found an intent leaves it paid exactly when it was paid or its target
is clean. -/
theorem paid_resultCall_iff (hi : s.db.intents.get pk = some i) (hsuccess : b.isSuccess = true)
    (hrequest : resultRequest s.settings tc s.db = .next (.result tc bankId b pk i)) :
    (run step s (resultCall s tc outcome)).db.Paid pk ↔
      i.status = .paid ∨ TargetClean s.registry i s.db.poomsae := by
  -- follow the three pieces of the call
  let task : Task := .result tc bankId b pk i
  let s₁ : State := { s with tasks := s.tasks.insert task }
  have hs₁ : step (.resultRequest tc) s = s₁ := by
    simp only [step, State.accept, hrequest, s₁, task]
  have htask : s₁.tasks.get s.tasks.next = some task := Table.get_insert_next
  have hs₂ : step (.resume s.tasks.next outcome) s₁ =
      s₁.proceed s.tasks.next (perform s₁ outcome task) := by simp only [step, htask]
  simp only [resultCall, run_cons, run_nil, hs₁, hs₂]
  by_cases hpaid : i.status = .paid
  · have hperform : perform s₁ outcome task = (.next (.resultFinalize tc bankId b pk i), s.db) := by
      simp only [perform, task, resultCommit, hsuccess, hpaid, ne_eq, not_true_eq_false, ↓reduceIte,
        s₁]
    rw [hperform]
    refine iff_of_true ⟨i, ?_, hpaid⟩ (Or.inl hpaid)
    rw [intents_resume_of_done (Or.inr ⟨tc, bankId, b, pk, i, ?_⟩)]
    · exact hi
    · simp only [State.proceed, Table.get_modify_self, htask, Option.map_some]
  · have hreturns : (i.status = .paid ∨ TargetClean s.registry i s.db.poomsae) ↔
        ∃ x, lockAndMarkPaid s.registry s.now pk (.result bankId b tc) s.db = .ok x :=
      (lockAndMarkPaid_returns_iff hi).symm
    rw [hreturns]
    cases hblock : lockAndMarkPaid s.registry s.now pk (.result bankId b tc) s.db with
    | error e =>
      -- the request is over, and the last resume finds no task
      have hperform : perform s₁ outcome task = (.raise e, s.db) := by
        simp only [perform, task, resultCommit, hsuccess, hpaid, ne_eq, not_false_eq_true,
          ↓reduceIte, resultBlock_eq, s₁, hblock]
      rw [hperform]
      have hraises : ¬ ∃ x, (Except.error e : Except Failure (PaymentIntent × Db)) = .ok x := by
        rintro ⟨x, hx⟩
        cases hx
      refine iff_of_false ?_ hraises
      have hsame : (step (.resume s.tasks.next outcome)
          (s₁.proceed s.tasks.next (.raise e, s.db))).db.intents = s.db.intents :=
        intents_resume_of_done (Or.inl Table.get_erase_self)
      rw [Db.paid_congr (congrArg (fun t => t.get pk) hsame), Db.paid_iff_of_get hi]
      exact hpaid
    | ok x =>
      have hperform : perform s₁ outcome task =
          (.next (.resultFinalize tc bankId b pk x.1), x.2) := by
        simp only [perform, task, resultCommit, hsuccess, hpaid, ne_eq, not_false_eq_true,
          ↓reduceIte, resultBlock_eq, s₁, hblock]
      rw [hperform]
      refine iff_of_true ?_ ⟨x, rfl⟩
      have hsame : (step (.resume s.tasks.next outcome) (s₁.proceed s.tasks.next
          (.next (.resultFinalize tc bankId b pk x.1), x.2))).db.intents = x.2.intents :=
        intents_resume_of_done (Or.inr ⟨tc, bankId, b, pk, x.1, by
          simp only [State.proceed, Table.get_modify_self, htask, Option.map_some]⟩)
      rw [Db.paid_congr (congrArg (fun t => t.get pk) hsame)]
      exact paid_of_lockAndMarkPaid hblock

end Call

/-- **Finding a payment again.** After any history of a coherent system, let a successful
Bank record belong to an intent, and let its tracking code be a proper one: nonempty,
without surrounding blanks, and of no other record. Calling `payment_result_redirect` with
it finds the intent and leaves it paid exactly when the intent remembers the attempt and,
unless it is paid already, its target is clean. -/
theorem result_finds_and_pays_iff {s₀ : State} (hs : Coherent s₀) (acts : List Action)
    {s : State} (hreached : s = run step s₀ acts) {bankId pk : ℕ} {b : Bank} {i : PaymentIntent}
    (hb : s.db.banks.get bankId = some b) (hown : b.intent = some pk)
    (hsuccess : b.isSuccess = true) (hi : s.db.intents.get pk = some i)
    (huniq : ∀ k b', s.db.banks.get k = some b' → b'.trackingCode = b.trackingCode → k = bankId)
    (hne : b.trackingCode ≠ "") (htrim : Text.strip b.trackingCode = b.trackingCode)
    (outcome : GatewayOutcome) :
    (Finds s b.trackingCode pk ∧
      (run step s (resultCall s b.trackingCode outcome)).db.Paid pk) ↔
    (Remembers s.db pk i bankId b.trackingCode ∧
      (i.status = .paid ∨ TargetClean s.registry i s.db.poomsae)) := by
  have hcoherent : Coherent s := hreached ▸ coherent_run hs acts
  rcases resultRequest_finds_iff hcoherent hb hown hi huniq hne htrim with
    ⟨hrequest, hremembers⟩ | ⟨hfinds, hremembers⟩
  · have hfinds : Finds s b.trackingCode pk := ⟨bankId, b, i, by rw [hrequest, htrim]⟩
    rw [and_iff_right hfinds, and_iff_right hremembers]
    exact paid_resultCall_iff hi hsuccess hrequest
  · exact iff_of_false (fun h => hfinds h.1) fun h => hremembers h.1

/-! ### Three attempts -/

/-- One intent of user 7 over 50,000 rials. -/
def oneIntent : State :=
  { (default : State) with
    settings := { (default : Settings) with paymentsEnabled := true, sadadCredsOk := true }
    db := { (default : Db) with
      intents := Table.empty.insert
        (PaymentIntent.create "a1" 7 50000 50000 "" "sadad" "" .api) } }

/-- The user starts the payment as task `k`, and the gateway answers. -/
def attempt (k : ℕ) (tc : String) : List Action :=
  [.start { (default : StartRequest) with user := 7, publicId := "a1" },
    .resume k (.ready { (default : Bank) with trackingCode := tc } .null),
    .resume k (.error false "")]

/-- The user comes back without having paid, as task `k`. -/
def giveUp (k : ℕ) (tc : String) : List Action := [.resultRequest tc, .resume k (.error false "")]

/-- The bank confirms the payment of a record. -/
def confirm (bankId : ℕ) : Action :=
  .verify bankId { (default : BankUpdate) with isSuccess := true, status := "Complete" }

/-- A single attempt is found again. -/
theorem result_finds_and_pays_single :
    let s := run step oneIntent (attempt 1 "111" ++ [confirm 1])
    Finds s "111" 1 ∧ (run step s (resultCall s "111" (.error false ""))).db.Paid 1 := by
  intro s
  have hcoherent : Coherent oneIntent :=
    coherent_of_idle (fun _ => rfl) (Table.forall_insert Table.forall_empty rfl) fun _ => rfl
  -- the run has created one Bank record
  have huniq : ∀ k b', s.db.banks.get k = some b' → b'.trackingCode = "111" → k = 1 := by
    intro k b' hb' _
    rcases Table.get_modify_cases hb' with hb' | ⟨hk, -⟩
    · rcases Table.get_insert_cases hb' with hb' | ⟨hk, -⟩
      · cases hb'
      · exact hk
    · exact hk
  obtain ⟨b, hb, hcolumns⟩ : ∃ b, s.db.banks.get 1 = some b ∧
      b.trackingCode = "111" ∧ b.intent = some 1 ∧ b.isSuccess = true := ⟨_, rfl, rfl, rfl, rfl⟩
  obtain ⟨i, hi, htoken, htarget⟩ : ∃ i, s.db.intents.get 1 = some i ∧
      i.token = "111" ∧ i.poomsaeEnrollment = none := ⟨_, rfl, rfl, rfl⟩
  have hiff := result_finds_and_pays_iff hcoherent _ rfl hb hcolumns.2.1 hcolumns.2.2 hi
    (by rwa [hcolumns.1]) (by rw [hcolumns.1]; decide) (by rw [hcolumns.1]; decide)
    (.error false "")
  rw [hcolumns.1] at hiff
  exact hiff.mpr ⟨Or.inl htoken, Or.inr fun k pe h => by simp [htarget] at h⟩

/-- After three attempts the second one, though successful, is not found. -/
theorem result_lost_second :
    let s := run step oneIntent (attempt 1 "111" ++ giveUp 2 "111" ++ attempt 3 "222" ++
      giveUp 4 "222" ++ attempt 5 "333" ++ [confirm 2])
    (s.db.banks.get 2).map (fun b => (b.trackingCode, b.isSuccess, b.intent)) =
        some ("222", true, some 1) ∧
      ¬ (Finds s "222" 1 ∧ (run step s (resultCall s "222" (.error false ""))).db.Paid 1) := by
  refine ⟨by decide, fun h => ?_⟩
  exact absurd h.2 (by decide)

end Tkdchb
