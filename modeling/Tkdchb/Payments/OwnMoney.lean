import Tkdchb.Payments.Coherence

/-!
# Whose money pays an intent

A notification names a Bank record by its tracking code. The intent it settles is found by
other keys: the `pid` a callback may send along, then the token, then the reference
number. Nothing ties these keys to the record. An intent is paid by its own money exactly
as far as its keys lead to it: along every run in which, for each successful Bank record
notified, the record's own intent outranks all others that answer to the keys.

## Main definitions

* `findIntent` — the lookups of both endpoints
* `keyRank`, `Outranks` — which of two intents a request prefers
* `KeysOwn` — the keys of a request lead to the record's own intent
* `PaysWith` — a step that turns an intent into a paid one, with a Bank record

## Main results

* `findIntent_own_iff` — what the lookups find, in terms of the rows
* `paid_by_own_money` — every payment of such a run is by the intent's own record, over
  its amount, and no record pays two intents
* `paid_by_foreign_money` — a callback with a chosen `pid`
-/

namespace Tkdchb

open Transition Web

/-! ### Which intent a request finds -/

/-- The lookups of `_handle_sadad`, and with no `pid` those of `payment_result_redirect`. -/
def findIntent (db : Db) (pid : Option String) (tc : String) (bankId : ℕ) :
    Option (ℕ × PaymentIntent) :=
  ((intentByPid db pid).or (intentByToken db tc)).or (intentByRefId db bankId)

/-- How strongly an intent answers to the keys of a request: by `pid`, by token, by
reference number, or not at all. -/
def keyRank (pid : Option String) (tc : String) (bankId : ℕ) (i : PaymentIntent) : ℕ :=
  if pid.filter (· ≠ "") = some i.publicId then 3
  else if i.token = tc then 2
  else if i.refId = toString bankId then 1
  else 0

/-- Every other intent that answers to the keys is outranked by the own one: it answers to
a weaker key, or to the same key and is older. -/
def Outranks (db : Db) (pid : Option String) (tc : String) (bankId : ℕ) (own : Option ℕ) : Prop :=
  ∀ k i, db.intents.get k = some i → 0 < keyRank pid tc bankId i → own ≠ some k →
    ∃ k' i', own = some k' ∧ db.intents.get k' = some i' ∧
      (keyRank pid tc bankId i < keyRank pid tc bankId i' ∨
        keyRank pid tc bankId i = keyRank pid tc bankId i' ∧ k < k')

section Lookup

variable {db : Db} {pid : Option String} {tc : String} {bankId k pk : ℕ} {i j : PaymentIntent}

theorem intentByPid_eq_none_iff :
    intentByPid db pid = none ↔
      ∀ k i, db.intents.get k = some i → pid.filter (· ≠ "") ≠ some i.publicId := by
  unfold intentByPid
  split
  · simp
  · simp
  · next p hp =>
    have hne : p ≠ "" := fun h => hp (h ▸ rfl)
    rw [Table.newest_eq_none_iff]
    simp only [beq_eq_false_iff_ne, Option.filter_some, hne, ne_eq, not_false_eq_true, decide_true,
      ↓reduceIte, Option.some.injEq]
    exact forall₃_congr fun k i _ => not_congr eq_comm

theorem intentByPid_spec (h : intentByPid db pid = some (pk, i)) :
    db.intents.get pk = some i ∧ pid.filter (· ≠ "") = some i.publicId ∧
      ∀ k j, db.intents.get k = some j → pid.filter (· ≠ "") = some j.publicId → k ≤ pk := by
  unfold intentByPid at h
  split at h
  · cases h
  · cases h
  · next p hp =>
    have hne : p ≠ "" := fun h => hp (h ▸ rfl)
    obtain ⟨hget, heq⟩ := Table.newest_spec h
    simp only [Option.filter_some, hne, ne_eq, not_false_eq_true, decide_true, ↓reduceIte,
      Option.some.injEq]
    refine ⟨hget, (by simpa using heq : i.publicId = p).symm, fun k j hj hjp => ?_⟩
    exact Table.le_of_newest h hj (by simpa using hjp.symm)

/-- The intent that is found answers to a key, and no intent beats it. -/
theorem findIntent_spec (h : findIntent db pid tc bankId = some (pk, i)) :
    db.intents.get pk = some i ∧ 0 < keyRank pid tc bankId i ∧
      ∀ k j, db.intents.get k = some j →
        keyRank pid tc bankId j < keyRank pid tc bankId i ∨
          keyRank pid tc bankId j = keyRank pid tc bankId i ∧ k ≤ pk := by
  -- one case for each key: `pid`, then token, then reference number
  rcases Option.or_eq_some_iff.mp h with h | ⟨hnone, href⟩
  · rcases Option.or_eq_some_iff.mp h with hpid | ⟨hnopid, htoken⟩
    · obtain ⟨hget, heq, hlast⟩ := intentByPid_spec hpid
      have hrank : keyRank pid tc bankId i = 3 := if_pos heq
      refine ⟨hget, by omega, fun k j hj => ?_⟩
      by_cases hjpid : pid.filter (· ≠ "") = some j.publicId
      · exact Or.inr ⟨by rw [hrank]; exact if_pos hjpid, hlast k j hj hjpid⟩
      · left
        rw [hrank, keyRank, if_neg hjpid]
        split_ifs <;> omega
    · have hno := intentByPid_eq_none_iff.mp hnopid
      obtain ⟨hget, heq⟩ := Table.newest_spec htoken
      have hrank : keyRank pid tc bankId i = 2 := by
        rw [keyRank, if_neg (hno pk i hget), if_pos (by simpa using heq)]
      refine ⟨hget, by omega, fun k j hj => ?_⟩
      rw [hrank, keyRank, if_neg (hno k j hj)]
      split_ifs with hjtoken
      · exact Or.inr ⟨rfl, Table.le_of_newest htoken hj (by simpa using hjtoken)⟩
      · omega
      · omega
  · rw [Option.or_eq_none_iff] at hnone
    have hno := intentByPid_eq_none_iff.mp hnone.1
    have hnotoken (k : ℕ) (j : PaymentIntent) (hj : db.intents.get k = some j) : j.token ≠ tc := by
      simpa using Table.newest_eq_none_iff.mp hnone.2 k j hj
    obtain ⟨hget, heq⟩ := Table.newest_spec href
    have hrank : keyRank pid tc bankId i = 1 := by
      rw [keyRank, if_neg (hno pk i hget), if_neg (hnotoken pk i hget), if_pos (by simpa using heq)]
    refine ⟨hget, by omega, fun k j hj => ?_⟩
    rw [hrank, keyRank, if_neg (hno k j hj), if_neg (hnotoken k j hj)]
    split_ifs with hjref
    · exact Or.inr ⟨rfl, Table.le_of_newest href hj (by simpa using hjref)⟩
    · omega

theorem findIntent_eq_none (h : findIntent db pid tc bankId = none)
    (hi : db.intents.get k = some i) : keyRank pid tc bankId i = 0 := by
  rw [findIntent, Option.or_eq_none_iff, Option.or_eq_none_iff] at h
  obtain ⟨⟨hpid, htoken⟩, href⟩ := h
  have hno := intentByPid_eq_none_iff.mp hpid k i hi
  have hnotoken : i.token ≠ tc := by simpa using Table.newest_eq_none_iff.mp htoken k i hi
  have hnoref : i.refId ≠ toString bankId := by
    simpa using Table.newest_eq_none_iff.mp href k i hi
  rw [keyRank, if_neg hno, if_neg hnotoken, if_neg hnoref]

/-- The lookups lead to the own intent, if anywhere, exactly when it outranks the others. -/
theorem findIntent_own_iff {own : Option ℕ} :
    (∀ pk i, findIntent db pid tc bankId = some (pk, i) → own = some pk) ↔
      Outranks db pid tc bankId own := by
  constructor
  · intro hown k i hi hrank hne
    -- an intent that answers to a key is found, or beaten by the one that is
    cases hfind : findIntent db pid tc bankId with
    | none => exact absurd (findIntent_eq_none hfind hi) (by omega)
    | some x =>
      obtain ⟨pk, j⟩ := x
      obtain ⟨hj, -, htop⟩ := findIntent_spec hfind
      have hpk := hown pk j hfind
      refine ⟨pk, j, hpk, hj, (htop k i hi).imp_right fun ⟨heq, hle⟩ => ⟨heq, ?_⟩⟩
      exact lt_of_le_of_ne hle fun h => hne (h ▸ hpk)
  · intro hout pk i hfind
    obtain ⟨hi, hrank, htop⟩ := findIntent_spec hfind
    by_contra hne
    obtain ⟨k', i', -, hi', hbeats⟩ := hout pk i hi hrank hne
    rcases htop k' i' hi' with hlt | ⟨heq, hle⟩ <;> omega

end Lookup

/-! ### Payments along a run -/

/-- The keys of a request lead to the intent the Bank record was created for. It is asked of
requests about successful records only; the others pay nothing. -/
def KeysOwn (a : Action) (s : State) : Prop :=
  match a with
  | .resultRequest tc => ∀ bankId b,
      (s.db.banks.oldest fun b => b.trackingCode == Text.strip tc) = some (bankId, b) →
      b.isSuccess = true → Outranks s.db none (Text.strip tc) bankId b.intent
  | .callbackRequest _ (some tc) pid => ∀ bankId b, getBank s.db tc = .ok (bankId, b) →
      b.isSuccess = true → Outranks s.db pid tc bankId b.intent
  | _ => True

/-- The action is the locked block of a notification about Bank record `bankId`, read as
`b`, and turns intent `pk` into a paid one. -/
def PaysWith (s : State) (a : Action) (bankId : ℕ) (b : Bank) (pk : ℕ) : Prop :=
  ∃ k outcome t n, a = .resume k outcome ∧ s.tasks.get k = some t ∧ t.notice = some (n, pk) ∧
    n.bank? = some (bankId, b) ∧ ¬ s.db.Paid pk ∧ (step a s).db.Paid pk

/-- Every notification in flight is about the intent's own Bank record. -/
def OwnTasks (s : State) : Prop :=
  ∀ k t n pk bankId b, s.tasks.get k = some t → t.notice = some (n, pk) →
    n.bank? = some (bankId, b) → b.intent = some pk

section Payments

variable {s : State} {a : Action} {bankId pk : ℕ} {b : Bank} {t : Task} {n : Notice}

/-- The Bank record of a notification is successful, and is the one the task has read. -/
theorem Task.bank_of_notice {db : Db} (h : t.notice = some (n, pk))
    (hbank : n.bank? = some (bankId, b)) (hagrees : t.Agrees db) :
    b.isSuccess = true ∧ HasBank db bankId b := by
  rcases Task.notice_cases h with ⟨i, rfl, ⟨rfl, -⟩ | ⟨rfl, -⟩⟩ |
    ⟨tc, bankId', b', i, rfl, rfl, hsuccess, -⟩ | ⟨bankId', b', url, rfl, rfl, hsuccess⟩
  · cases hbank
  · cases hbank
  · cases hbank
    exact ⟨hsuccess, hagrees.1⟩
  · cases hbank
    exact ⟨hsuccess, hagrees⟩

/-- A request whose keys lead to the own intent leaves an own notification. -/
theorem Spawns.own (h : Spawns s a t) (hkeys : KeysOwn a s) (hnotice : t.notice = some (n, pk))
    (hbank : n.bank? = some (bankId, b)) : b.intent = some pk := by
  rcases Task.notice_cases hnotice with ⟨i, rfl, ⟨rfl, -⟩ | ⟨rfl, -⟩⟩ |
    ⟨tc, bankId', b', i, rfl, rfl, hsuccess, -⟩ | ⟨bankId', b', url, rfl, rfl, hsuccess⟩
  · cases hbank
  · cases hbank
  · cases hbank
    cases h with
    | result _ _ _ _ _ hne hread hintent =>
      exact findIntent_own_iff.mpr (hkeys _ _ hread hsuccess) _ _ hintent
  · cases hbank
    cases h with
    | callback _ _ _ _ _ _ _ _ hne hread hintent =>
      exact findIntent_own_iff.mpr (hkeys _ _ hread hsuccess) _ _ hintent

theorem ownTasks_step (hkeys : KeysOwn a s) (hs : OwnTasks s) : OwnTasks (step a s) := by
  intro k t n pk bankId b ht hnotice hbank
  -- a new notification comes from a request, and its keys are good ones
  rcases step_tasks ht with hold | hnew
  · exact hs k t n pk bankId b hold hnotice hbank
  · exact hnew.own hkeys hnotice hbank

/-- A payment by the intent's own money: the record was successful when it was read, was
created for the intent, and carries its amount. -/
structure OwnPayment (db : Db) (bankId : ℕ) (b : Bank) (pk : ℕ) : Prop where
  isSuccess : b.isSuccess = true
  intent : b.intent = some pk
  record : HasBank db bankId b
  amount : ∃ i, db.intents.get pk = some i ∧ i.amount = b.amount

theorem PaysWith.own (h : PaysWith s a bankId b pk) (hs : Coherent s) (hown : OwnTasks s) :
    OwnPayment s.db bankId b pk := by
  obtain ⟨k, outcome, t, n, -, htask, hnotice, hbank, -, -⟩ := h
  obtain ⟨hsuccess, hrecord⟩ := t.bank_of_notice hnotice hbank (hs.task k t htask)
  have hintent := hown k t n pk bankId b htask hnotice hbank
  refine ⟨hsuccess, hintent, hrecord, ?_⟩
  obtain ⟨row, hrow, hfrozen⟩ := hrecord
  rw [← Bank.amount_of_frozen hfrozen]
  exact hs.bank bankId row pk hrow ((Bank.intent_of_frozen hfrozen).trans hintent)

end Payments

theorem run_keeps_banks (s : State) (acts : List Action) :
    Table.Keeps Bank.frozen s.db.banks (run step s acts).db.banks := by
  induction acts generalizing s with
  | nil => exact .refl _ _
  | cons a acts ih => exact (step_effect a s).keeps_banks.trans (ih (step a s))

/-- **Own money.** Start from any coherent state without requests in flight, and take any
run whose requests all have keys that lead to the notified record's own intent. Then every
step that pays an intent with a Bank record does so with a successful record that was
created for this intent, over its amount; and two steps that pay with the same record pay
the same intent. -/
theorem paid_by_own_money {s : State} (hs : Coherent s) (hidle : ∀ k, s.tasks.get k = none)
    (acts : List Action) (hkeys : Along step KeysOwn s acts) :
    (∀ front a back bankId b pk, acts = front ++ a :: back →
      PaysWith (run step s front) a bankId b pk →
      OwnPayment (run step s front).db bankId b pk) ∧
    (∀ front a back front' a' back' bankId b b' pk pk', acts = front ++ a :: back →
      acts = front' ++ a' :: back' → PaysWith (run step s front) a bankId b pk →
      PaysWith (run step s front') a' bankId b' pk' → pk = pk') := by
  -- every notification in flight is an own one, at every prefix of the run
  have hown : ∀ front back, acts = front ++ back → OwnTasks (run step s front) := by
    rintro front back rfl
    refine (along_append.mp hkeys).1.invariant (fun a s => ownTasks_step) ?_
    intro k t _ _ _ _ ht
    simp [hidle] at ht
  have hpayment : ∀ front a back bankId b pk, acts = front ++ a :: back →
      PaysWith (run step s front) a bankId b pk →
      OwnPayment (run step s front).db bankId b pk :=
    fun front a back bankId b pk hacts hpays =>
      hpays.own (coherent_run hs front) (hown front _ hacts)
  refine ⟨hpayment, ?_⟩
  -- both copies agree with the record as it is at the end of the run
  have hfinal : ∀ front a back bankId b pk, acts = front ++ a :: back →
      PaysWith (run step s front) a bankId b pk →
      HasBank (run step s acts).db bankId b := by
    rintro front a back bankId b pk rfl hpays
    rw [run_append]
    exact (hpayment front a back bankId b pk rfl hpays).record.keeps (run_keeps_banks _ _)
  intro front a back front' a' back' bankId b b' pk pk' hacts hacts' hpays hpays'
  obtain ⟨row, hrow, hfrozen⟩ := hfinal front a back bankId b pk hacts hpays
  obtain ⟨row', hrow', hfrozen'⟩ := hfinal front' a' back' bankId b' pk' hacts' hpays'
  obtain rfl : row = row' := Option.some.inj (hrow.symm.trans hrow')
  have hintent := (hpayment front a back bankId b pk hacts hpays).intent
  have hintent' := (hpayment front' a' back' bankId b' pk' hacts' hpays').intent
  rw [← Bank.intent_of_frozen hfrozen] at hintent
  rw [← Bank.intent_of_frozen hfrozen'] at hintent'
  exact Option.some.inj (hintent.symm.trans hintent')

/-! ### A callback with a chosen `pid` -/

/-- Two intents of user 7, over 10,000 and over 5,000,000 rials. -/
def twoIntents : State :=
  { (default : State) with
    settings := { (default : Settings) with paymentsEnabled := true, sadadCredsOk := true }
    db := { (default : Db) with
      intents := (Table.empty.insert
        (PaymentIntent.create "a1" 7 10000 10000 "" "sadad" "" .api)).insert
        (PaymentIntent.create "b2" 7 5000000 5000000 "" "sadad" "" .api) } }

/-- The user pays the cheap one and then calls the callback with a `pid`. -/
def payCheapThenCall (pid : String) : List Action :=
  [.start { (default : StartRequest) with user := 7, publicId := "a1" },
    .resume 1 (.ready { (default : Bank) with trackingCode := "111" } .null),
    .resume 1 (.error false ""),
    .verify 1 { (default : BankUpdate) with isSuccess := true, status := "Complete" },
    .callbackRequest "sadad" (some "111") (some pid)]

/-- With its own `pid` the run is one of `paid_by_own_money`. -/
theorem paid_by_own_money_cheap :
    ∃ b, PaysWith (run step twoIntents (payCheapThenCall "a1")) (.resume 2 (.error false ""))
        1 b 1 ∧
      OwnPayment (run step twoIntents (payCheapThenCall "a1")).db 1 b 1 := by
  have hcoherent : Coherent twoIntents :=
    coherent_of_idle (fun _ => rfl)
      (Table.forall_insert (Table.forall_insert Table.forall_empty rfl) rfl) fun _ => rfl
  have hkeys : Along step KeysOwn twoIntents
      (payCheapThenCall "a1" ++ [.resume 2 (.error false "")]) := by
    refine ⟨trivial, trivial, trivial, trivial, fun bankId b hb _ => ?_, trivial, trivial⟩
    cases hb
    refine findIntent_own_iff.mp fun pk i hfind => ?_
    cases hfind
    rfl
  have hpays : PaysWith (run step twoIntents (payCheapThenCall "a1")) (.resume 2 (.error false ""))
      1 _ 1 := ⟨2, _, _, _, rfl, rfl, rfl, rfl, by decide, by decide⟩
  exact ⟨_, hpays,
    (paid_by_own_money hcoherent (fun _ => rfl) _ hkeys).1 _ _ [] 1 _ 1 rfl hpays⟩

/-- With the `pid` of the other intent, the cheap payment pays the expensive intent. -/
theorem paid_by_foreign_money :
    ∃ b, PaysWith (run step twoIntents (payCheapThenCall "b2")) (.resume 2 (.error false ""))
        1 b 2 ∧
      ¬ OwnPayment (run step twoIntents (payCheapThenCall "b2")).db 1 b 2 ∧
      b.intent = some 1 ∧ b.amount = 10000 ∧
      ((run step twoIntents (payCheapThenCall "b2")).db.intents.get 2).map PaymentIntent.amount =
        some 5000000 :=
  ⟨_, ⟨2, _, _, _, rfl, rfl, rfl, rfl, by decide, by decide⟩,
    fun h => absurd h.intent (by decide), rfl, rfl, rfl⟩

end Tkdchb
