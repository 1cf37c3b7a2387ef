import Tkdchb.Payments.System

/-!
# Many notifications, one settlement

The bank's success reaches the program by several routes and several times. Whatever the
order and the interleaving, the first notification to take the lock of the intent's row
decides: all later ones find the intent paid and leave everything as it is. If the first
one raises, so do the others, and nothing is written.

## Main definitions

* `SameOutcome` — two databases agree on what notifications for an intent write
* `Undisturbed` — no other settlement, no blind write to the intent, no reconfiguration

## Main results

* `afterNotice_idem` — a second notification changes nothing
* `SameOutcome.notify` — a notification depends on the outcome so far only
* `notifications_idempotent` — every run
-/

namespace Tkdchb

open Transition

/-! ### What notifications write -/

/-- The intent without the columns a start or a dispatch writes. -/
def PaymentIntent.settlement (i : PaymentIntent) : PaymentIntent :=
  { i with gateway := "", callbackUrl := "", token := "", initiatorIp := none, userAgent := "" }

/-- The databases agree on the intent, as far as settlements read or write it, on the
enrollments with keys below `bound`, and on poomsae enrollments, seminar registrations
and discount codes. -/
structure SameOutcome (pk bound : ℕ) (db db' : Db) : Prop where
  intent : ∃ i i', db.intents.get pk = some i ∧ db'.intents.get pk = some i' ∧
    i'.settlement = i.settlement
  bound_le : bound ≤ db'.enrollments.next
  enrollments : ∀ k < bound, db'.enrollments.get k = db.enrollments.get k
  poomsae : db'.poomsae = db.poomsae
  seminars : db'.seminars = db.seminars
  codes : db'.codes = db.codes

section Outcome

variable {reg : Registry} {now : Time} {pk bound : ℕ} {n : Notice} {db db' db'' : Db}
  {row : PaymentIntent}

theorem SameOutcome.refl (hrow : db.intents.get pk = some row) :
    SameOutcome pk db.enrollments.next db db :=
  ⟨⟨row, row, hrow, hrow, rfl⟩, le_rfl, fun _ _ => rfl, rfl, rfl, rfl⟩

theorem Notice.settlement_settle (n : Notice) (i : PaymentIntent) :
    (n.settle i).settlement = n.settle i.settlement := by
  cases n <;> rfl

theorem next_foldl_modify (es : List ℕ) (f : Enrollment → Enrollment) (t : Table Enrollment) :
    (es.foldl (fun t e => t.modify e f) t).next = t.next := by
  induction es generalizing t with
  | nil => rfl
  | cons e es ih => rw [List.foldl_cons, ih, Table.next_modify]

theorem get_foldl_modify_congr (es : List ℕ) (f : Enrollment → Enrollment) {t t' : Table Enrollment}
    {k : ℕ} (h : t'.get k = t.get k) :
    (es.foldl (fun t e => t.modify e f) t').get k =
      (es.foldl (fun t e => t.modify e f) t).get k := by
  induction es generalizing t t' with
  | nil => exact h
  | cons e es ih => exact ih (by rw [Table.get_modify, Table.get_modify, h])

theorem next_settleKyorugi (i : PaymentIntent) (t : Table Enrollment) :
    (settleKyorugi i t).next = t.next := by
  unfold settleKyorugi
  dsimp only
  split
  · rw [Table.next_modify, next_foldl_modify]
  · rw [next_foldl_modify]

/-- Settling an enrollment depends on its own row only. -/
theorem get_settleKyorugi_congr (i : PaymentIntent) {t t' : Table Enrollment} {k : ℕ}
    (h : t'.get k = t.get k) : (settleKyorugi i t').get k = (settleKyorugi i t).get k := by
  unfold settleKyorugi
  dsimp only
  split
  · rw [Table.get_modify, Table.get_modify, get_foldl_modify_congr _ _ h]
  · rw [get_foldl_modify_congr _ _ h]

/-- **A second notification changes nothing**, whatever it brings. -/
theorem afterNotice_idem (hrow : db.intents.get pk = some row) (n' : Notice) (now' : Time) :
    afterNotice reg now' pk n' (afterNotice reg now pk n db) = afterNotice reg now pk n db := by
  by_cases hpaid : row.status = .paid
  · rw [afterNotice_of_paid hrow hpaid, afterNotice_of_paid hrow hpaid]
  · by_cases hclean : TargetClean reg row db.poomsae
    · have hafter : (afterNotice reg now pk n db).Paid pk := paid_afterNotice hrow hclean
      obtain ⟨row', hrow', hpaid'⟩ := hafter
      exact afterNotice_of_paid hrow' hpaid'
    · rw [afterNotice_of_not_clean hrow hpaid hclean, afterNotice_of_not_clean hrow hpaid hclean]

/-- A notification on databases with the same outcome so far gives the same outcome. -/
theorem SameOutcome.notify (h : SameOutcome pk bound db db') :
    SameOutcome pk bound (afterNotice reg now pk n db) (afterNotice reg now pk n db') := by
  obtain ⟨i, i', hi, hi', hsame⟩ := h.intent
  have hstatus : i'.status = i.status :=
    Table.eq_of_view (g := PaymentIntent.status) hsame fun _ => rfl
  by_cases hpaid : i.status = .paid
  · rwa [afterNotice_of_paid hi hpaid, afterNotice_of_paid hi' (hstatus.trans hpaid)]
  · have hpaid' : i'.status ≠ .paid := by rwa [hstatus]
    -- the settlement reads and writes what both rows agree on
    have hsettle : (n.settle i').settlement = (n.settle i).settlement := by
      rw [n.settlement_settle, n.settlement_settle, hsame]
    have htarget : settlePoomsaeTarget reg (n.settle i') db'.poomsae =
        settlePoomsaeTarget reg (n.settle i) db.poomsae := by
      rw [h.poomsae]
      exact Table.eq_of_view (g := fun j => settlePoomsaeTarget reg j db.poomsae) hsettle
        fun _ => rfl
    rw [afterNotice_of_unpaid hi hpaid, afterNotice_of_unpaid hi' hpaid', htarget]
    -- either both raise and nothing happens, or both write the same
    cases settlePoomsaeTarget reg (n.settle i) db.poomsae with
    | error e => exact h
    | ok poomsae =>
      refine ⟨⟨n.settle i, n.settle i', ?_, ?_, hsettle⟩, ?_, fun k hk => ?_, rfl, ?_, ?_⟩
      · rw [Table.get_modify_self, hi, Option.map_some, n.saveSettled_settle]
      · rw [Table.get_modify_self, hi', Option.map_some, n.saveSettled_settle]
      · exact h.bound_le.trans (next_settleKyorugi _ _).ge
      · have hkyorugi : settleKyorugi (n.settle i') db'.enrollments =
            settleKyorugi (n.settle i) db'.enrollments :=
          Table.eq_of_view (g := fun j => settleKyorugi j db'.enrollments) hsettle fun _ => rfl
        dsimp only
        rw [hkyorugi]
        exact get_settleKyorugi_congr _ (h.enrollments k hk)
      · dsimp only
        rw [h.seminars]
        exact Table.eq_of_view (g := fun j => settleSeminar now j db.seminars) hsettle fun _ => rfl
      · dsimp only
        rw [h.codes]
        exact Table.eq_of_view (g := fun j => consumeCode j db.codes) hsettle fun _ => rfl

end Outcome

/-! ### Runs -/

/-- The action settles no other intent, writes no status of this intent blindly, and leaves
the registry alone. -/
def Undisturbed (pk : ℕ) (a : Action) (s : State) : Prop :=
  match a with
  | .configure _ _ => False
  | .resume k _ => ∀ t, s.tasks.get k = some t →
      (∀ f, t.blindWrite ≠ some (pk, f)) ∧ ∀ n pk', t.notice = some (n, pk') → pk' = pk
  | _ => True

section Runs

variable {s : State} {a : Action} {pk bound : ℕ} {n : Notice} {db : Db}

theorem step_registry (h : Undisturbed pk a s) : (step a s).registry = s.registry := by
  cases a with
  | createIntent user publicId data => simp only [step, State.finish]; split <;> rfl
  | coachRegister user publicId key data => simp only [step, State.finish]; split <;> rfl
  | start rq => simp only [step, State.accept]; split <;> rfl
  | resultRequest tc => simp only [step, State.accept]; split <;> rfl
  | callbackRequest gatewayName tracking pid => simp only [step, State.accept]; split <;> rfl
  | resume k outcome =>
    simp only [step, State.proceed]
    split
    · split <;> rfl
    · rfl
  | verify | otherBank | tick => rfl
  | configure => exact h.elim

/-- Every other step of an undisturbed run leaves the outcome as it is. -/
theorem SameOutcome.calm (h : SameOutcome pk bound db s.db) (hcalm : Undisturbed pk a s)
    (hlocks : ∀ n, a.locks s ≠ some (n, pk)) : SameOutcome pk bound db (step a s).db := by
  obtain ⟨i, i', hi, hi', hsame⟩ := h.intent
  have heffect := step_effect a s
  generalize (step a s).db = db' at heffect
  cases heffect with
  | none | dispatched | verified | otherBank => exact ⟨h.intent, h.2, h.3, h.4, h.5, h.6⟩
  | created =>
    exact ⟨⟨i, i', hi, Table.get_insert_of_get hi', hsame⟩, h.2, h.3, h.4, h.5, h.6⟩
  | registered _ _ _ _ _ hwrites =>
    cases hwrites with
    | nothing => exact h
    | simulated coach compId items q coachName ref ids t hitems hloop =>
      obtain ⟨-, hnext, hkept, -⟩ := createPaidEnrollments_ok hloop
      refine ⟨h.intent, ?_, fun k hk => ?_, h.4, h.5, h.6⟩
      · exact h.bound_le.trans (by dsimp only; omega)
      · exact (hkept k (hk.trans_le h.bound_le)).trans (h.enrollments k hk)
    | opened =>
      exact ⟨⟨i, i', hi, Table.get_insert_of_get hi', hsame⟩, h.2, h.3, h.4, h.5, h.6⟩
  | begun rq gw callbackUrl pk' =>
    refine ⟨?_, h.2, h.3, h.4, h.5, h.6⟩
    by_cases hpk : pk = pk'
    · subst hpk
      exact ⟨i, i'.begun rq gw callbackUrl, hi,
        by rw [Table.get_modify_self, hi', Option.map_some], hsame⟩
    · exact ⟨i, i', hi, by rw [Table.get_modify_of_ne hpk, hi'], hsame⟩
  | settled k outcome t n pk' row _ htask hnotice =>
    -- it would be a notification for this intent
    obtain rfl := (hcalm t htask).2 n pk' hnotice
    exact absurd (by simp [Action.locks, htask, hnotice]) (hlocks n)
  | blind k outcome t pk' f htask hwrite =>
    have hpk : pk ≠ pk' := by
      rintro rfl
      exact (hcalm t htask).1 f hwrite
    exact ⟨⟨i, i', hi, by rw [Table.get_modify_of_ne hpk, hi'], hsame⟩, h.2, h.3, h.4, h.5, h.6⟩
  | finalized k outcome tc bankId b pk' j ids _ htask hfin =>
    rcases finalize_cases hfin with rfl | ⟨g, gp, -, -, -, -, hfinal⟩
    · exact h
    · refine ⟨⟨i, i', hi, by rw [hfinal.intents, hi'], hsame⟩, ?_, fun k hk => ?_, ?_, ?_, ?_⟩
      · exact h.bound_le.trans (by rw [hfinal.next_eq]; omega)
      · exact (hfinal.kept k (hk.trans_le h.bound_le)).trans (h.enrollments k hk)
      · rw [hfinal.poomsae, h.poomsae]
      · rw [hfinal.seminars, h.seminars]
      · rw [hfinal.codes, h.codes]

/-- After the first notification, every step keeps the outcome: a later notification finds
it settled, or raises as the first one did. -/
theorem SameOutcome.calm_settled {base : Db} {row : PaymentIntent} {now : Time}
    (hrow : base.intents.get pk = some row)
    (h : SameOutcome pk bound (afterNotice s.registry now pk n base) s.db)
    (hcalm : Undisturbed pk a s) :
    SameOutcome pk bound (afterNotice s.registry now pk n base) (step a s).db := by
  by_cases hlocks : ∃ n', a.locks s = some (n', pk)
  · obtain ⟨n', hlocks⟩ := hlocks
    -- a later notification acts on what the first one has left
    have hagain : SameOutcome pk bound
        (afterNotice s.registry s.now pk n' (afterNotice s.registry now pk n base))
        (afterNotice s.registry s.now pk n' s.db) := h.notify
    rw [afterNotice_idem hrow] at hagain
    rwa [step_locks hlocks]
  · exact h.calm hcalm (not_exists.mp hlocks)

/-- **Success notifications are idempotent.** Take an unpaid intent and a run that settles no
other intent, writes no status of this one blindly and leaves the registry alone. Let `a`
be the first step of the run that takes the intent's lock, with notification `n`. Then
the run ends with the outcome of `n` alone: on the intent, on every enrollment that
existed, on poomsae enrollments, seminar registrations and discount codes. If `n` does
not raise, the intent is paid, and the counter of its code has gone up by one, with the
code deactivated if that exhausts it. -/
theorem notifications_idempotent {row : PaymentIntent} (hrow : s.db.intents.get pk = some row)
    (hunpaid : row.status ≠ .paid) (front back : List Action)
    (hcalm : Along step (Undisturbed pk) s (front ++ a :: back))
    (hbefore : Along step (fun a s => ∀ n, a.locks s ≠ some (n, pk)) s front)
    (hfirst : a.locks (run step s front) = some (n, pk)) :
    SameOutcome pk s.db.enrollments.next
      (afterNotice s.registry (run step s front).now pk n s.db)
      (run step s (front ++ a :: back)).db ∧
    (TargetClean s.registry row s.db.poomsae →
      (run step s (front ++ a :: back)).db.Paid pk ∧
      ∀ c dc, row.discountCode = some c → s.db.codes.get c = some dc →
        ∃ dc', (run step s (front ++ a :: back)).db.codes.get c = some dc' ∧
          dc'.usedCount = dc.usedCount + 1 ∧ (dc'.exhausted = true → dc'.active = false)) := by
  obtain ⟨hcalm₁, hcalm₂⟩ := along_append.mp hcalm
  let reg := s.registry
  -- up to the first lock nothing of the outcome changes
  have hfront : SameOutcome pk s.db.enrollments.next s.db (run step s front).db ∧
      (run step s front).registry = reg :=
    (hcalm₁.and hbefore).invariant
      (I := fun t => SameOutcome pk s.db.enrollments.next s.db t.db ∧ t.registry = reg)
      (fun a t hC ht => ⟨ht.1.calm hC.1 hC.2, (step_registry hC.1).trans ht.2⟩)
      ⟨.refl hrow, rfl⟩
  have hlock : SameOutcome pk s.db.enrollments.next
      (afterNotice reg (run step s front).now pk n s.db) (step a (run step s front)).db := by
    rw [step_locks hfirst, hfront.2]
    exact hfront.1.notify
  have hfinal : SameOutcome pk s.db.enrollments.next
      (afterNotice reg (run step s front).now pk n s.db) (run step s (front ++ a :: back)).db := by
    rw [run_append, run_cons]
    refine (hcalm₂.2.invariant (I := fun t => SameOutcome pk s.db.enrollments.next
      (afterNotice reg (run step s front).now pk n s.db) t.db ∧ t.registry = reg) ?_ ?_).1
    · rintro a t hC ⟨ht, hreg⟩
      refine ⟨?_, (step_registry hC).trans hreg⟩
      rw [← hreg] at ht ⊢
      exact ht.calm_settled hrow hC
    · exact ⟨hlock, (step_registry hcalm₂.1).trans hfront.2⟩
  refine ⟨hfinal, fun hclean => ⟨?_, fun c dc hc hdc => ?_⟩⟩
  · have halone : (afterNotice reg (run step s front).now pk n s.db).Paid pk :=
      paid_afterNotice hrow hclean
    obtain ⟨i, i', hi, hi', hsame⟩ := hfinal.intent
    refine ⟨i', hi', ?_⟩
    rw [Table.eq_of_view (g := PaymentIntent.status) hsame fun _ => rfl]
    exact (Db.paid_iff_of_get hi).mp halone
  · have hcodes : (afterNotice reg (run step s front).now pk n s.db).codes =
        consumeCode row s.db.codes := codes_afterNotice hrow hunpaid hclean
    refine ⟨dc.recordUse, ?_, dc.saveUse_usedCount dc, DiscountCode.saveUse_inactive rfl⟩
    rw [hfinal.codes, hcodes, consumeCode, hc]
    dsimp only
    rw [Table.get_modify_self, hdc, Option.map_some]

end Runs

/-! ### Two notifications for one payment -/

/-- A code for one use, and an intent that carries it, redirected to the bank and paid
there. -/
def paidAtBank : State :=
  { (default : State) with
    db := { (default : Db) with
      codes := Table.empty.insert
        { (default : DiscountCode) with maxUses := some 1, active := true }
      intents := Table.empty.insert
        { PaymentIntent.create "a1" 7 50000 60000 "" "sadad" "" .api with
          discountCode := some 1, status := .redirected, token := "111", refId := "1" }
      banks := Table.empty.insert { (default : Bank) with
        trackingCode := "111", amount := 50000, isSuccess := true, intent := some 1 } } }

/-- The result redirect and the callback have both read the intent; the result redirect is
first at the lock. -/
theorem notifications_idempotent_two :
    let requests : List Action := [.resultRequest "111", .callbackRequest "sadad" (some "111") none]
    let s := run step paidAtBank
      (requests ++ .resume 1 (.error false "") :: [.resume 2 (.error false "")])
    s.db.Paid 1 ∧ ∃ dc, s.db.codes.get 1 = some dc ∧ dc.usedCount = 1 ∧
      (dc.exhausted = true → dc.active = false) := by
  intro requests s
  have hcalm : Along step (Undisturbed 1) paidAtBank
      (requests ++ .resume 1 (.error false "") :: [.resume 2 (.error false "")]) := by
    refine ⟨trivial, trivial, fun t ht => ?_, fun t ht => ?_, trivial⟩
    · cases ht
      refine ⟨fun f h => ?_, fun n pk h => ?_⟩ <;> cases h
      rfl
    · cases ht
      refine ⟨fun f h => ?_, fun n pk h => ?_⟩ <;> cases h
      rfl
  have hbefore : Along step (fun a s => ∀ n, a.locks s ≠ some (n, 1)) paidAtBank requests :=
    ⟨fun n => nofun, fun n => nofun, trivial⟩
  obtain ⟨-, hsettled⟩ := notifications_idempotent (s := paidAtBank) rfl (by decide) requests
    [.resume 2 (.error false "")] hcalm hbefore rfl
  obtain ⟨hpaid, hcode⟩ := hsettled fun k pe h => by cases h
  exact ⟨hpaid, hcode 1 _ rfl rfl⟩

end Tkdchb
