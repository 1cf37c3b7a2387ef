import Tkdchb.Payments.GroupFinalization

/-!
# Two ways to settle an enrollment

A kyorugi enrollment is settled by the intent that points to it, or by its own `mark_paid`.
Each has its own conditions on which columns it writes. They leave the same row only from
some states: the intent never writes the time of the payment, takes back a status beyond
"paid", and keeps an amount or a reference that is already there.

## Main definitions

* `SettledAlike` — two rows with the same payment columns, both with a time of payment
* `SettlesAlike` — the states from which the two ways agree

## Main results

* `settleKyorugi_single` — the bulk targets do not matter for the single one
* `settledAlike_iff` — on one row
* `two_settlements_agree_iff` — on the table, for an intent that settles
-/

namespace Tkdchb

open Calendar

/-! ### One row -/

/-- The same payment columns, and both with a time of payment. -/
structure SettledAlike (x y : Enrollment) : Prop where
  isPaid : x.isPaid = y.isPaid
  status : x.status = y.status
  paidAmount : x.paidAmount = y.paidAmount
  bankRefCode : x.bankRefCode = y.bankRefCode
  paidAt : x.paidAt.isSome ∧ y.paidAt.isSome

/-- There is a time of payment already. If the row is paid, `mark_paid` leaves it alone, so the
intent must find nothing to write; if it is not, the status is one that `mark_paid` sets to paid,
and what the intent would keep is what `mark_paid` writes. -/
def SettlesAlike (amount : ℕ) (refCode : String) (e : Enrollment) : Prop :=
  e.paidAt.isSome ∧
    if e.isPaid then
      e.status = .paid ∧ (e.paidAmount = 0 → amount = 0) ∧ (e.bankRefCode = "" → refCode = "")
    else
      e.status ∈ [EnrollmentStatus.pendingPayment, .canceled, .blank, .paid] ∧
        (e.paidAmount = 0 ∨ e.paidAmount = amount) ∧
        (e.bankRefCode = "" ∨ refCode = "" ∨ e.bankRefCode = refCode)

instance (amount : ℕ) (refCode : String) (e : Enrollment) :
    Decidable (SettlesAlike amount refCode e) := by
  unfold SettlesAlike
  infer_instance

section Row

variable {amount : ℕ} {refCode : String} {now : Time} {e : Enrollment}

theorem markEnrollmentPaid_paidAmount :
    (markEnrollmentPaid amount refCode true e).paidAmount =
      if e.paidAmount = 0 then amount else e.paidAmount := by
  by_cases h : e.paidAmount = 0
  · simp [markEnrollmentPaid, h]
  · simp [markEnrollmentPaid, h]

/-- What a bulk target has written, the single target would write as well. -/
theorem markEnrollmentPaid_bulk :
    markEnrollmentPaid amount refCode true (markEnrollmentPaid amount refCode false e) =
      markEnrollmentPaid amount refCode true e := by
  have href : Text.orElse (Text.orElse e.bankRefCode refCode) refCode =
      Text.orElse e.bankRefCode refCode := by
    unfold Text.orElse
    by_cases h : e.bankRefCode = ""
    · rw [if_pos h, ite_self]
    · rw [if_neg h, if_neg h]
  simp [markEnrollmentPaid, href]

/-- A paid row: `mark_paid` writes nothing. -/
theorem settledAlike_iff_of_paid (hpaid : e.isPaid = true) :
    SettledAlike (markEnrollmentPaid amount refCode true e) (e.markPaid amount refCode now) ↔
      e.paidAt.isSome ∧ e.status = .paid ∧ (e.paidAmount = 0 → amount = 0) ∧
        (e.bankRefCode = "" → refCode = "") := by
  have hsame : e.markPaid amount refCode now = e := if_pos hpaid
  rw [hsame]
  constructor
  · intro h
    refine ⟨h.paidAt.1, h.status.symm, ?_, ?_⟩
    · intro hzero
      have hamount := h.paidAmount
      rw [markEnrollmentPaid_paidAmount, if_pos hzero] at hamount
      exact hamount.trans hzero
    · intro hempty
      have href : Text.orElse e.bankRefCode refCode = e.bankRefCode := h.bankRefCode
      rw [Text.orElse, if_pos hempty] at href
      exact href.trans hempty
  · rintro ⟨hat, hstatus, hamount, href⟩
    refine ⟨hpaid.symm, hstatus.symm, ?_, ?_, hat, hat⟩
    · rw [markEnrollmentPaid_paidAmount]
      split
      · next hzero => rw [hzero, hamount hzero]
      · rfl
    · show Text.orElse e.bankRefCode refCode = e.bankRefCode
      unfold Text.orElse
      split
      · next hempty => rw [hempty, href hempty]
      · rfl

/-- An open row: both write, by different rules. -/
theorem settledAlike_iff_of_unpaid (hpaid : e.isPaid = false) :
    SettledAlike (markEnrollmentPaid amount refCode true e) (e.markPaid amount refCode now) ↔
      e.paidAt.isSome ∧ e.status ∈ [EnrollmentStatus.pendingPayment, .canceled, .blank, .paid] ∧
        (e.paidAmount = 0 ∨ e.paidAmount = amount) ∧
        (e.bankRefCode = "" ∨ refCode = "" ∨ e.bankRefCode = refCode) := by
  have hwrites : e.markPaid amount refCode now =
      { e with
        isPaid := true
        paidAmount := amount
        bankRefCode := if refCode ≠ "" then refCode else e.bankRefCode
        paidAt := some now
        status := if e.status = .pendingPayment ∨ e.status = .canceled ∨ e.status = .blank
          then .paid else e.status } := if_neg (by simp [hpaid])
  have hstatus : EnrollmentStatus.paid = (if e.status = .pendingPayment ∨ e.status = .canceled ∨
      e.status = .blank then .paid else e.status) ↔
        e.status ∈ [EnrollmentStatus.pendingPayment, .canceled, .blank, .paid] := by
    cases e.status <;> decide
  have hamount : (if e.paidAmount = 0 then amount else e.paidAmount) = amount ↔
      e.paidAmount = 0 ∨ e.paidAmount = amount := by
    split_ifs <;> omega
  have href : Text.orElse e.bankRefCode refCode =
      (if refCode ≠ "" then refCode else e.bankRefCode) ↔
        e.bankRefCode = "" ∨ refCode = "" ∨ e.bankRefCode = refCode := by
    unfold Text.orElse
    split_ifs <;> simp_all
  rw [hwrites, ← hstatus, ← hamount, ← href, ← markEnrollmentPaid_paidAmount]
  constructor
  · intro h
    exact ⟨h.paidAt.1, h.status, h.paidAmount, h.bankRefCode⟩
  · rintro ⟨hat, hs, ha, hr⟩
    exact ⟨rfl, hs, ha, hr, hat, rfl⟩

/-- On one row the two ways agree exactly from the states of `SettlesAlike`. -/
theorem settledAlike_iff (now : Time) :
    SettledAlike (markEnrollmentPaid amount refCode true e) (e.markPaid amount refCode now) ↔
      SettlesAlike amount refCode e := by
  unfold SettlesAlike
  cases hpaid : e.isPaid with
  | true =>
    rw [if_pos rfl]
    exact settledAlike_iff_of_paid hpaid
  | false =>
    rw [if_neg (by decide)]
    exact settledAlike_iff_of_unpaid hpaid

end Row

/-! ### The table -/

/-- The bulk targets do not change what the single target ends as, even if it is one of them. -/
theorem settleKyorugi_single {self : PaymentIntent} {t : Table Enrollment} {k : ℕ}
    (hsingle : self.kyorugiEnrollment = some k) :
    (settleKyorugi self t).get k =
      (t.get k).map (markEnrollmentPaid self.amount self.refId true) := by
  -- by induction on the bulk targets; settling one of them first changes nothing
  have hbulk : ∀ (bulk : List ℕ) (t : Table Enrollment),
      ((bulk.foldl (fun t e => t.modify e (markEnrollmentPaid self.amount self.refId false)) t).modify
        k (markEnrollmentPaid self.amount self.refId true)).get k =
          (t.get k).map (markEnrollmentPaid self.amount self.refId true) := by
    intro bulk
    induction bulk with
    | nil =>
      intro t
      exact Table.get_modify_self
    | cons j bulk ih =>
      intro t
      rw [List.foldl_cons, ih]
      by_cases hj : j = k
      · subst hj
        rw [Table.get_modify_self, Option.map_map]
        congr 1
        funext e
        exact markEnrollmentPaid_bulk
      · rw [Table.get_modify_of_ne (Ne.symm hj)]
  unfold settleKyorugi
  rw [hsingle]
  exact hbulk self.kyorugiEnrollments t

/-- **When the two ways agree**: an intent that settles leaves its single kyorugi enrollment as
`mark_paid` with its amount and reference leaves it, exactly if the row was in one of the states
of `SettlesAlike`. -/
theorem two_settlements_agree_iff (reg : Registry) (now : Time) (self : PaymentIntent)
    (db : Db) {db' : Db} {k : ℕ} {e : Enrollment} (hsingle : self.kyorugiEnrollment = some k)
    (hrow : db.enrollments.get k = some e)
    (hsettled : applySuccessToTargets reg now self db = .ok db') :
    (∃ x y, db'.enrollments.get k = some x ∧
      (db.enrollments.modify k (Enrollment.markPaid self.amount self.refId now)).get k = some y ∧
      SettledAlike x y) ↔ SettlesAlike self.amount self.refId e := by
  -- each of the two calls leaves one row under `k`; what they leave is compared row by row
  have hleft : db'.enrollments.get k = some (markEnrollmentPaid self.amount self.refId true e) := by
    obtain ⟨poomsae, -, rfl⟩ : ∃ poomsae, settlePoomsaeTarget reg self db.poomsae = .ok poomsae ∧
        db' = { db with
          enrollments := settleKyorugi self db.enrollments
          poomsae
          seminars := settleSeminar now self db.seminars } := by
      simp only [applySuccessToTargets, bind, Except.bind, pure, Except.pure] at hsettled
      split at hsettled
      · cases hsettled
      · next poomsae hpoomsae =>
        cases hsettled
        exact ⟨poomsae, hpoomsae, rfl⟩
    rw [settleKyorugi_single hsingle, hrow]
    rfl
  have hright : (db.enrollments.modify k (Enrollment.markPaid self.amount self.refId now)).get k =
      some (e.markPaid self.amount self.refId now) := by
    rw [Table.get_modify_self, hrow]
    rfl
  rw [← settledAlike_iff now, hleft, hright]
  constructor
  · rintro ⟨x, y, hx, hy, h⟩
    cases hx
    cases hy
    exact h
  · intro h
    exact ⟨_, _, rfl, rfl, h⟩

/-- An intent for one enrollment that the bank has confirmed. -/
def singleIntent : PaymentIntent :=
  { (default : PaymentIntent) with
    amount := 500000
    refId := "ref-1"
    kyorugiEnrollment := some 1 }

/-- The tables with one enrollment. -/
def enrollmentOnly (e : Enrollment) : Db :=
  { (default : Db) with enrollments := Table.empty.insert e }

/-- An enrollment that `mark_paid` has settled already. -/
theorem two_settlements_agree_iff_again :
    ∃ x y, (settleKyorugi singleIntent
        (Table.empty.insert ((default : Enrollment).markPaid 500000 "ref-1" 40))).get 1 = some x ∧
      ((Table.empty.insert ((default : Enrollment).markPaid 500000 "ref-1" 40)).modify 1
        (Enrollment.markPaid 500000 "ref-1" 41)).get 1 = some y ∧ SettledAlike x y :=
  (two_settlements_agree_iff default 41 singleIntent
    (enrollmentOnly ((default : Enrollment).markPaid 500000 "ref-1" 40)) rfl rfl rfl).mpr
    (by decide)

/-- **A new enrollment is settled differently**: the intent leaves it without a time of
payment. -/
theorem settled_without_date :
    ∃ db' x y, applySuccessToTargets default 41 singleIntent (enrollmentOnly default) = .ok db' ∧
      db'.enrollments.get 1 = some x ∧ ((enrollmentOnly default).enrollments.modify 1
        (Enrollment.markPaid 500000 "ref-1" 41)).get 1 = some y ∧
      ¬ SettledAlike x y ∧ x.paidAt = none ∧ y.paidAt = some 41 := by
  refine ⟨_, _, _, rfl, rfl, rfl, ?_, rfl, rfl⟩
  intro h
  cases h.paidAt.1

end Tkdchb
