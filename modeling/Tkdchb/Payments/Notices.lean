import Tkdchb.Payments.Settlement

/-!
# Success notifications

Four routes settle an intent: the free and the dummy branch of the dispatch, the
gateway callback and the result redirect. Each locks the row of the intent, assigns a
few columns in memory and calls `mark_paid`. They differ in what they assign and pass.

## Main definitions

* `Notice` — a route, with the Bank record it acts on
* `lockAndMarkPaid` — the locked block all routes share
* `resultBlock` — the locked block of the result redirect, which checks the status itself
* `afterNotice` — the database after the block

## Main results

* `lockAndMarkPaid_paid`, `lockAndMarkPaid_ok` — the block on a paid and on an unpaid row
* `lockAndMarkPaid_returns_iff` — when the block returns
* `paid_of_lockAndMarkPaid` — a block that returns leaves its intent paid
* `afterNotice_of_unpaid`, `afterNotice_of_paid`, `afterNotice_of_not_clean`,
  `settles_afterNotice` — the database after the block
-/

namespace Tkdchb

/-- A success notification: the route it comes by, with what it has read before it
takes the lock. -/
inductive Notice where
  | free
  | dummy
  | callback (bankId : ℕ) (bank : Bank)
  | result (bankId : ℕ) (bank : Bank) (tc : String)

namespace Notice

/-- The assignments to the locked intent before `mark_paid`. -/
def preset : Notice → PaymentIntent → PaymentIntent
  | .free, i => { i with refId := Text.orElse i.refId "FREE-0-RIAL" }
  | .dummy, i =>
    { i with
      refId := Text.orElse i.refId "DUMMY-REF"
      cardPan := Text.orElse i.cardPan "603799******0000" }
  | .callback _ b, i =>
    { i with
      refId := Text.orElse b.refFromBank i.refId
      cardPan := (maskedPan b.extraInformation).getD i.cardPan
      extra := .callback b.status b.refFromBank b.extraInformation }
  | .result _ _ _, i => i

/-- The `ref_id` passed to `mark_paid`. -/
def refId : Notice → PaymentIntent → String
  | .result _ b tc, i =>
    Text.orElse (extractRefFromExtra b.extraInformation)
      (Text.orElse (Text.strip b.referenceNumber) (Text.orElse i.refId tc))
  | _, i => i.refId

/-- The `card_pan` passed to `mark_paid`. -/
def cardPan : Notice → PaymentIntent → String
  | .free, _ => ""
  | _, i => i.cardPan

/-- The `extra` passed to `mark_paid`. -/
def extra : Notice → PaymentIntent → IntentExtra
  | .free, _ => .free
  | .dummy, _ => .dummy
  | .callback _ _, i => i.extra
  | .result bankId b _, _ => .result bankId b.status b.extraInformation

/-- The Bank record the notification is about. -/
def bank? : Notice → Option (ℕ × Bank)
  | .free | .dummy => none
  | .callback bankId b | .result bankId b _ => some (bankId, b)

/-- The intent as `mark_paid` leaves it in memory. -/
def settle (n : Notice) (row : PaymentIntent) : PaymentIntent :=
  let self := n.preset row
  self.settled (n.refId self) (n.cardPan self) (n.extra self)

variable (n : Notice) (row : PaymentIntent)

theorem preset_eq : ∃ refId cardPan extra,
    n.preset row = { row with refId := refId, cardPan := cardPan, extra := extra } := by
  cases n <;> exact ⟨_, _, _, rfl⟩

/-- Settling writes the status, the reference, the card and the extra data. -/
theorem settle_eq : ∃ refId cardPan extra, n.settle row =
    { row with refId := refId, cardPan := cardPan, extra := extra, status := .paid } := by
  obtain ⟨refId, cardPan, extra, h⟩ := n.preset_eq row
  rw [settle, h]
  exact ⟨_, _, _, rfl⟩

@[simp] theorem preset_status : (n.preset row).status = row.status := by
  obtain ⟨_, _, _, h⟩ := n.preset_eq row
  rw [h]

@[simp] theorem settle_status : (n.settle row).status = .paid := rfl

@[simp] theorem settle_discountCode : (n.settle row).discountCode = row.discountCode := by
  obtain ⟨_, _, _, h⟩ := n.settle_eq row
  rw [h]

/-- The columns `save` writes are all that settling changes. -/
@[simp] theorem saveSettled_settle : (n.settle row).saveSettled row = n.settle row := by
  obtain ⟨_, _, _, h⟩ := n.settle_eq row
  rw [h]
  rfl

end Notice

/-! ### The locked block -/

/-- Lock the row, assign, and call `mark_paid`: the intent in memory and the database
after the transaction. -/
def lockAndMarkPaid (reg : Registry) (now : Time) (pk : ℕ) (n : Notice) (db : Db) :
    Except Failure (PaymentIntent × Db) :=
  match db.intents.get pk with
  | none => .error (.doesNotExist "PaymentIntent")
  | some row =>
    let self := n.preset row
    markPaid reg now pk self (n.refId self) (n.cardPan self) (n.extra self) db

/-- The locked block of `payment_result_redirect`. -/
def resultBlock (reg : Registry) (now : Time) (pk bankId : ℕ) (b : Bank) (tc : String) (db : Db) :
    Except Failure (PaymentIntent × Db) :=
  match db.intents.get pk with
  | none => .error (.doesNotExist "PaymentIntent")
  | some row =>
    if row.status ≠ .paid then
      let n := Notice.result bankId b tc
      markPaid reg now pk row (n.refId row) (n.cardPan row) (n.extra row) db
    else .ok (row, db)

/-- The database after the locked block; an exception rolls it back. -/
def afterNotice (reg : Registry) (now : Time) (pk : ℕ) (n : Notice) (db : Db) : Db :=
  match lockAndMarkPaid reg now pk n db with
  | .ok (_, db') => db'
  | .error _ => db

section Block

variable {reg : Registry} {now : Time} {pk : ℕ} {n : Notice} {db db' : Db}
  {row self : PaymentIntent}

/-- The check before `mark_paid` repeats the one inside it. -/
theorem resultBlock_eq (reg : Registry) (now : Time) (pk bankId : ℕ) (b : Bank) (tc : String)
    (db : Db) :
    resultBlock reg now pk bankId b tc db =
      lockAndMarkPaid reg now pk (.result bankId b tc) db := by
  unfold resultBlock lockAndMarkPaid
  split
  · rfl
  · next row _ =>
    split
    · rfl
    · next hpaid =>
      -- a paid row: the guard and `mark_paid` both return it
      rw [not_not] at hpaid
      exact (markPaid_of_paid hpaid).symm

/-- On a paid row the block writes nothing. -/
theorem lockAndMarkPaid_paid (hrow : db.intents.get pk = some row) (hpaid : row.status = .paid) :
    lockAndMarkPaid reg now pk n db = .ok (n.preset row, db) := by
  simp only [lockAndMarkPaid, hrow]
  exact markPaid_of_paid (by rw [n.preset_status, hpaid])

/-- On an unpaid row a block that returns has settled the row, its targets and the
counter of its code. -/
theorem lockAndMarkPaid_ok (hrow : db.intents.get pk = some row) (hunpaid : row.status ≠ .paid)
    (h : lockAndMarkPaid reg now pk n db = .ok (self, db')) :
    self = n.settle row ∧ Settles pk (n.settle row) db db' := by
  simp only [lockAndMarkPaid, hrow] at h
  obtain ⟨hself, hdb⟩ := markPaid_ok h (by rwa [n.preset_status])
  rw [hself] at hdb
  exact ⟨hself, hdb⟩

/-- What a block that returns has done: nothing on a paid row, the settlement of an unpaid
one. -/
theorem lockAndMarkPaid_cases (h : lockAndMarkPaid reg now pk n db = .ok (self, db')) :
    ∃ row, db.intents.get pk = some row ∧
      (row.status = .paid ∧ self = n.preset row ∧ db' = db ∨
        row.status ≠ .paid ∧ self = n.settle row ∧ Settles pk (n.settle row) db db') := by
  cases hrow : db.intents.get pk with
  | none =>
    simp only [lockAndMarkPaid, hrow] at h
    cases h
  | some row =>
    refine ⟨row, rfl, ?_⟩
    by_cases hpaid : row.status = .paid
    · rw [lockAndMarkPaid_paid hrow hpaid] at h
      cases h
      exact Or.inl ⟨hpaid, rfl, rfl⟩
    · exact Or.inr ⟨hpaid, lockAndMarkPaid_ok hrow hpaid h⟩

/-- The block returns on a paid row, and on an unpaid one exactly when its target is
clean. Nothing of the notification matters. -/
theorem lockAndMarkPaid_returns_iff (hrow : db.intents.get pk = some row) :
    (∃ x, lockAndMarkPaid reg now pk n db = .ok x) ↔
      row.status = .paid ∨ TargetClean reg row db.poomsae := by
  by_cases hpaid : row.status = .paid
  · exact iff_of_true ⟨_, lockAndMarkPaid_paid hrow hpaid⟩ (Or.inl hpaid)
  · have hpreset : TargetClean reg (n.preset row) db.poomsae ↔ TargetClean reg row db.poomsae := by
      obtain ⟨_, _, _, h⟩ := n.preset_eq row
      rw [h]
      exact Iff.rfl
    simp only [lockAndMarkPaid, hrow]
    rw [markPaid_returns_iff (by rwa [n.preset_status]), hpreset]
    exact (or_iff_right hpaid).symm

/-- The row after its settlement. -/
theorem Settles.get_self (h : Settles pk (n.settle row) db db')
    (hrow : db.intents.get pk = some row) : db'.intents.get pk = some (n.settle row) := by
  rw [h.intents, Table.get_modify_self, hrow, Option.map_some, n.saveSettled_settle]

/-- The other rows after a settlement. -/
theorem Settles.get_of_ne {j : ℕ} (h : Settles pk self db db') (hj : j ≠ pk) :
    db'.intents.get j = db.intents.get j := by
  rw [h.intents, Table.get_modify_of_ne hj]

/-- The database after the block: unchanged, or with an unpaid row settled. -/
theorem afterNotice_cases (reg : Registry) (now : Time) (pk : ℕ) (n : Notice) (db : Db) :
    afterNotice reg now pk n db = db ∨ ∃ row, db.intents.get pk = some row ∧ row.status ≠ .paid ∧
      Settles pk (n.settle row) db (afterNotice reg now pk n db) := by
  unfold afterNotice
  split
  · next self db' h =>
    obtain ⟨row, hrow, ⟨-, -, rfl⟩ | ⟨hpaid, -, hset⟩⟩ := lockAndMarkPaid_cases h
    · exact Or.inl rfl
    · exact Or.inr ⟨row, hrow, hpaid, hset⟩
  · exact Or.inl rfl

/-- A block that returns leaves its intent paid. -/
theorem paid_of_lockAndMarkPaid (h : lockAndMarkPaid reg now pk n db = .ok (self, db')) :
    db'.Paid pk := by
  obtain ⟨row, hrow, ⟨hpaid, -, rfl⟩ | ⟨-, -, hset⟩⟩ := lockAndMarkPaid_cases h
  · exact ⟨row, hrow, hpaid⟩
  · exact ⟨_, hset.get_self hrow, n.settle_status row⟩

/-- The database after the locked block on an unpaid row, written out. -/
theorem afterNotice_of_unpaid (hrow : db.intents.get pk = some row) (hunpaid : row.status ≠ .paid) :
    afterNotice reg now pk n db =
      match settlePoomsaeTarget reg (n.settle row) db.poomsae with
      | .error _ => db
      | .ok poomsae =>
        { db with
          intents := db.intents.modify pk (n.settle row).saveSettled
          enrollments := settleKyorugi (n.settle row) db.enrollments
          poomsae := poomsae
          seminars := settleSeminar now (n.settle row) db.seminars
          codes := consumeCode (n.settle row) db.codes } := by
  -- the assignments before `mark_paid` do not touch the status it checks
  have hpreset : (n.preset row).status ≠ .paid := by rwa [n.preset_status]
  simp only [afterNotice, lockAndMarkPaid, hrow, markPaid, if_neg hpreset, applySuccessToTargets,
    bind, Except.bind, pure, Except.pure]
  unfold Notice.settle
  dsimp only
  cases settlePoomsaeTarget reg ((n.preset row).settled (n.refId (n.preset row))
    (n.cardPan (n.preset row)) (n.extra (n.preset row))) db.poomsae <;> rfl

theorem afterNotice_of_paid (hrow : db.intents.get pk = some row) (hpaid : row.status = .paid) :
    afterNotice reg now pk n db = db := by
  simp only [afterNotice, lockAndMarkPaid_paid hrow hpaid]

/-- A notification that raises writes nothing. -/
theorem afterNotice_of_not_clean (hrow : db.intents.get pk = some row)
    (hunpaid : row.status ≠ .paid) (hclean : ¬ TargetClean reg row db.poomsae) :
    afterNotice reg now pk n db = db := by
  unfold afterNotice
  split
  · next x db' h =>
    have hreturns := (lockAndMarkPaid_returns_iff hrow).mp ⟨_, h⟩
    exact absurd hreturns (not_or.mpr ⟨hunpaid, hclean⟩)
  · rfl

/-- A notification that does not raise leaves the intent paid. -/
theorem paid_afterNotice (hrow : db.intents.get pk = some row)
    (hclean : TargetClean reg row db.poomsae) : (afterNotice reg now pk n db).Paid pk := by
  have hreturns : ∃ x, lockAndMarkPaid reg now pk n db = .ok x :=
    (lockAndMarkPaid_returns_iff hrow).mpr (Or.inr hclean)
  obtain ⟨x, hx⟩ := hreturns
  simp only [afterNotice, hx]
  exact paid_of_lockAndMarkPaid hx

/-- On an unpaid row a notification that does not raise settles the row. -/
theorem settles_afterNotice (hrow : db.intents.get pk = some row) (hunpaid : row.status ≠ .paid)
    (hclean : TargetClean reg row db.poomsae) :
    Settles pk (n.settle row) db (afterNotice reg now pk n db) := by
  rcases afterNotice_cases reg now pk n db with hsame | ⟨row', hrow', -, hset⟩
  -- an unchanged row would be unpaid
  · have hpaid : (afterNotice reg now pk n db).Paid pk := paid_afterNotice hrow hclean
    rw [hsame, Db.paid_iff_of_get hrow] at hpaid
    exact absurd hpaid hunpaid
  · obtain rfl : row = row' := Option.some.inj (hrow.symm.trans hrow')
    exact hset

/-- The codes after a notification on an unpaid row that does not raise. -/
theorem codes_afterNotice (hrow : db.intents.get pk = some row) (hunpaid : row.status ≠ .paid)
    (hclean : TargetClean reg row db.poomsae) :
    (afterNotice reg now pk n db).codes = consumeCode row db.codes := by
  rw [(settles_afterNotice hrow hunpaid hclean).codes]
  simp only [consumeCode, n.settle_discountCode]

end Block

end Tkdchb
