import Tkdchb.Lib.EvenSplit
import Tkdchb.Payments.Settlement

/-!
# Finalising a group registration

When the intent of a coach's group is paid, `_finalize_group_payment_if_needed`
turns each student of the stored payload into a paid enrollment and marks the
group payment. It finds the group by the number after `GP#` in the description of
the intent, locks its row, and runs in one transaction.

## Main definitions

* `splitAmounts` — `_split_amounts`
* `Enrollment.markPaid` — `Enrollment.mark_paid`
* `groupId` — the group a description names
* `finalizeGroupPaymentIfNeeded` — the finalisation of one intent
* `finalizeCalls` — a sequence of finalisations, each in its own transaction

## Main results

* `sum_splitAmounts` — splitting loses nothing
* `finalize_ok`, `finalize_cases` — what a finalisation that returns has written
* `finalize_returns_iff` — when it returns
* `finalizeCalls_exactlyOnce` — over any sequence of calls naming a group, one of
  them at most creates the enrollments, and all later ones return their numbers
-/

namespace Tkdchb

open Calendar

/-! ### Splitting the amount -/

/-- `_split_amounts`: equal parts, the remainder spread over the first ones. -/
def splitAmounts (total n : ℕ) : List ℕ :=
  if n = 0 then []
  else
    let base := total / n
    let rem := total - base * n
    -- `for i in range(rem): parts[i] += 1`
    (List.range rem).foldl (fun parts i => parts.modify i (· + 1)) (List.replicate n base)

/-- The remainder is raised in the first parts, all of which are there. -/
theorem splitAmounts_eq_runs (total : ℕ) {n : ℕ} (hn : n ≠ 0) :
    splitAmounts total n = EvenSplit.runs (total / n) (total % n) (n - total % n) := by
  have hle : total % n ≤ n := (Nat.mod_lt total (Nat.pos_of_ne_zero hn)).le
  have hmod : total - total / n * n = total % n := by
    rw [Nat.mul_comm]
    exact (Nat.mod_eq_sub_mul_div ..).symm
  rw [splitAmounts, if_neg hn]
  dsimp only
  rw [hmod]
  apply EvenSplit.foldl_modify_eq ()
  rw [← EvenSplit.foldlM_raise, Nat.add_sub_cancel' hle]

theorem length_splitAmounts (total n : ℕ) : (splitAmounts total n).length = n := by
  by_cases hn : n = 0
  · rw [splitAmounts, if_pos hn, hn, List.length_nil]
  · have hle : total % n ≤ n := (Nat.mod_lt total (Nat.pos_of_ne_zero hn)).le
    rw [splitAmounts_eq_runs total hn, EvenSplit.length_runs, Nat.add_sub_cancel' hle]

/-- Splitting an amount over at least one part loses nothing. -/
theorem sum_splitAmounts (total : ℕ) {n : ℕ} (hn : n ≠ 0) :
    (splitAmounts total n).sum = total := by
  have hle : total % n ≤ n := (Nat.mod_lt total (Nat.pos_of_ne_zero hn)).le
  calc (splitAmounts total n).sum
      = total / n * (total % n + (n - total % n)) + total % n := by
        rw [splitAmounts_eq_runs total hn, EvenSplit.sum_runs]
        rfl
    _ = total / n * n + total % n := by rw [Nat.add_sub_cancel' hle]
    _ = total := Nat.div_add_mod' total n

/-! ### Creating the enrollments -/

/-- `Enrollment.mark_paid` on the row it has locked. The ranking award that follows
it concerns other tables. -/
def Enrollment.markPaid (amount : ℕ) (refCode : String) (now : Time) (e : Enrollment) :
    Enrollment :=
  if e.isPaid then e
  else
    { e with
      isPaid := true
      paidAmount := amount
      bankRefCode := if refCode ≠ "" then refCode else e.bankRefCode
      paidAt := some now
      status := if e.status = .pendingPayment ∨ e.status = .canceled ∨ e.status = .blank
        then .paid else e.status }

/-- The row `Enrollment.objects.create` inserts for one payload item. A key of zero
or an empty code is stored as null (`or None`). -/
def pendingEnrollment (gp : GroupRegistrationPayment) (coachName : String) (part : ℕ)
    (it : GroupItem) (insDate : Date) : Enrollment where
  competition := gp.competition
  player := it.playerId
  coach := some gp.coach
  coachName := coachName
  club := it.clubId.filter (· ≠ 0)
  clubName := it.clubName
  board := it.boardId.filter (· ≠ 0)
  boardName := it.boardName
  beltGroup := it.beltGroupId.filter (· ≠ 0)
  weightCategory := it.weightCategoryId.filter (· ≠ 0)
  declaredWeight := it.declaredWeight
  insuranceNumber := it.insuranceNumber
  insuranceIssueDate := insDate
  discountCode := gp.payload.discountCode.filter (· ≠ "")
  discountAmount := 0
  payableAmount := part
  status := .pendingPayment
  isPaid := false
  paidAmount := 0
  bankRefCode := ""
  paidAt := none

/-- Create and settle the enrollment of one payload item: the body of the loop. -/
def createPaidEnrollment (reg : Registry) (now : Time) (gp : GroupRegistrationPayment)
    (coachName refCode : String) (part : ℕ) (it : GroupItem) (t : Table Enrollment) :
    Except Failure (ℕ × Table Enrollment) :=
  match reg.profile it.playerId with
  | none => .error (.doesNotExist "UserProfile")
  | some _ =>
    match fromisoformat it.insuranceIssueDate with
    | none => .error (.valueError it.insuranceIssueDate)
    | some insDate =>
      let e := pendingEnrollment gp coachName part it insDate
      let paid := e.markPaid part refCode now
      -- the insert and the save of `mark_paid`
      if reg.acceptsEnrollment e && reg.acceptsEnrollment paid then
        .ok (t.next, (t.insert e).modify t.next fun _ => paid)
      else .error (.integrityError "Enrollment")

/-- The loop over the payload items, from index `idx` on. -/
def createPaidEnrollments (reg : Registry) (now : Time) (gp : GroupRegistrationPayment)
    (coachName refCode : String) (parts : List ℕ) :
    ℕ → List GroupItem → Table Enrollment → Except Failure (List ℕ × Table Enrollment)
  | _, [], t => .ok ([], t)
  | idx, it :: items, t => do
    let (id, t) ← createPaidEnrollment reg now gp coachName refCode (parts.getD idx 0) it t
    let (ids, t) ← createPaidEnrollments reg now gp coachName refCode parts (idx + 1) items t
    return (id :: ids, t)

/-! ### The finalisation -/

/-- The number after `GP#` in a description. -/
def groupId (description : String) : Option ℕ :=
  Text.searchNumber "GP#".toList description.toList

/-- The description `CoachRegisterStudentsView` gives the intent of a group. -/
def groupDescription (gp : ℕ) : String := "Group registration GP#" ++ toString gp

/-- A group's description names the group. -/
theorem groupId_groupDescription (gp : ℕ) : groupId (groupDescription gp) = some gp := by
  unfold groupId groupDescription
  simp [Text.searchNumber, List.dropPrefix?, Text.readNumber_toDigits]

/-- `int(payload.get("payable_amount") or gp.total_amount or 0)` -/
def GroupRegistrationPayment.payable (gp : GroupRegistrationPayment) : ℕ :=
  match gp.payload.payableAmount with
  | none | some 0 => gp.totalAmount
  | some amount => amount

/-- The row of a group payment after its finalisation. -/
def GroupRegistrationPayment.finalized (gp : GroupRegistrationPayment) (refCode : String)
    (ids : List ℕ) (now : Time) : GroupRegistrationPayment :=
  { gp with
    isPaid := true
    bankRefCode := some refCode
    payload := { gp.payload with enrollmentIds := some ids, paidAt := some now } }

/-- `_finalize_group_payment_if_needed` -/
def finalizeGroupPaymentIfNeeded (reg : Registry) (now : Time) (intent : PaymentIntent)
    (refCode : String) (db : Db) : Except Failure (List ℕ × Db) :=
  match groupId intent.description with
  | none => .ok ([], db)
  | some gpId =>
    match db.groups.get gpId with
    | none => .ok ([], db)
    | some gp =>
      -- finalised before: answer with what is on record
      if gp.isPaid then .ok (gp.payload.enrollmentIds.getD [], db)
      else if gp.payload.items.isEmpty then .ok ([], db)
      else
        match reg.profile gp.coach with
        | none => .error (.doesNotExist "UserProfile")
        | some coach => do
          let parts := splitAmounts gp.payable gp.payload.items.length
          let (ids, enrollments) ← createPaidEnrollments reg now gp
            (Text.strip coach.fullName) refCode parts 0 gp.payload.items db.enrollments
          let gp' := gp.finalized refCode ids now
          if reg.acceptsGroup gp' then
            return (ids, { db with enrollments, groups := db.groups.modify gpId fun _ => gp' })
          else .error (.integrityError "GroupRegistrationPayment")

/-! ### What the loop creates -/

/-- A paid enrollment of the group's competition for the player of a payload item. -/
structure PaidFor (gp : GroupRegistrationPayment) (it : GroupItem) (e : Enrollment) : Prop where
  competition : e.competition = gp.competition
  player : e.player = it.playerId
  isPaid : e.isPaid = true
  status : e.status = .paid

section Loop

variable {reg : Registry} {now : Time} {gp : GroupRegistrationPayment} {coachName refCode : String}
  {parts : List ℕ}

theorem paidFor_markPaid (gp : GroupRegistrationPayment) (coachName refCode : String) (part : ℕ)
    (it : GroupItem) (insDate : Date) (now : Time) :
    PaidFor gp it ((pendingEnrollment gp coachName part it insDate).markPaid part refCode now) := by
  constructor <;> rfl

/-- One item becomes one paid enrollment under the next key. -/
theorem createPaidEnrollment_ok {part : ℕ} {it : GroupItem} {t t' : Table Enrollment} {id : ℕ}
    (h : createPaidEnrollment reg now gp coachName refCode part it t = .ok (id, t')) :
    id = t.next ∧ t'.next = t.next + 1 ∧ (∀ k, k ≠ t.next → t'.get k = t.get k) ∧
      ∃ e, t'.get t.next = some e ∧ PaidFor gp it e ∧ e.paidAmount = part := by
  unfold createPaidEnrollment at h
  split at h
  · cases h
  · split at h
    · cases h
    · next insDate _ =>
      dsimp only at h
      split at h
      · cases h
        refine ⟨rfl, rfl, fun k hk => ?_, _, ?_,
          paidFor_markPaid gp coachName refCode part it insDate now, rfl⟩
        · rw [Table.get_modify_of_ne hk, Table.get_insert_of_ne hk]
        · rw [Table.get_modify_self, Table.get_insert_next, Option.map_some]
      · cases h

/-- The loop over the items, one item further. -/
theorem createPaidEnrollments_cons_ok {it : GroupItem} {items : List GroupItem} {idx : ℕ}
    {t t' : Table Enrollment} {ids : List ℕ}
    (h : createPaidEnrollments reg now gp coachName refCode parts idx (it :: items) t =
      .ok (ids, t')) :
    ∃ id t₁ ids₁,
      createPaidEnrollment reg now gp coachName refCode (parts.getD idx 0) it t = .ok (id, t₁) ∧
      createPaidEnrollments reg now gp coachName refCode parts (idx + 1) items t₁ = .ok (ids₁, t') ∧
      ids = id :: ids₁ := by
  simp only [createPaidEnrollments, bind, Except.bind, pure, Except.pure] at h
  split at h
  · cases h
  · next x hx =>
    obtain ⟨id, t₁⟩ := x
    dsimp only at h
    split at h
    · cases h
    · next y hy =>
      obtain ⟨ids₁, t₂⟩ := y
      cases h
      exact ⟨id, t₁, ids₁, hx, hy, rfl⟩

/-- The loop creates one paid enrollment per item, in order, under consecutive new
keys, and leaves the rows that were there alone. -/
theorem createPaidEnrollments_ok {items : List GroupItem} {idx : ℕ} {t t' : Table Enrollment}
    {ids : List ℕ}
    (h : createPaidEnrollments reg now gp coachName refCode parts idx items t = .ok (ids, t')) :
    ids = List.range' t.next items.length ∧ t'.next = t.next + items.length ∧
      (∀ k < t.next, t'.get k = t.get k) ∧
      ∃ es : List Enrollment, ids.map t'.get = es.map some ∧
        es.map Enrollment.paidAmount = (List.range' idx items.length).map (parts.getD · 0) ∧
        List.Forall₂ (PaidFor gp) items es := by
  -- induction on the items; the table grows by one row per item
  induction items generalizing idx t ids with
  | nil =>
    cases h
    exact ⟨rfl, rfl, fun _ _ => rfl, [], rfl, rfl, .nil⟩
  | cons it items ih =>
    obtain ⟨id, t₁, ids₁, hx, hy, rfl⟩ := createPaidEnrollments_cons_ok h
    obtain ⟨rfl, hnext, hother, e, he, hpaid, hpart⟩ := createPaidEnrollment_ok hx
    obtain ⟨hids, hnext₂, hold, es, hes, hparts, hall⟩ := ih hy
    rw [hnext] at hids hnext₂ hold
    -- the rest of the loop writes above the row just created
    have hkeep : t'.get t.next = some e := by rw [hold _ (Nat.lt_succ_self _), he]
    refine ⟨?_, by rw [hnext₂, List.length_cons]; omega, fun k hk => ?_, e :: es, ?_, ?_,
      .cons hpaid hall⟩
    · rw [hids, List.length_cons, List.range'_succ]
    · rw [hold k (by omega), hother k (by omega)]
    · rw [List.map_cons, List.map_cons, hkeep, hes]
    · rw [List.map_cons, List.length_cons, List.range'_succ, List.map_cons, hparts, hpart]

/-- The item becomes an enrollment without an exception: the player exists, the date can
be read, and the database accepts the row before and after its payment. -/
def ItemFinalizable (reg : Registry) (now : Time) (gp : GroupRegistrationPayment)
    (coachName refCode : String) (part : ℕ) (it : GroupItem) : Prop :=
  (∃ player, reg.profile it.playerId = some player) ∧
  ∃ insDate, fromisoformat it.insuranceIssueDate = some insDate ∧
    reg.acceptsEnrollment (pendingEnrollment gp coachName part it insDate) = true ∧
    reg.acceptsEnrollment
      ((pendingEnrollment gp coachName part it insDate).markPaid part refCode now) = true

theorem createPaidEnrollment_returns_iff {part : ℕ} {it : GroupItem} {t : Table Enrollment} :
    (∃ x, createPaidEnrollment reg now gp coachName refCode part it t = .ok x) ↔
      ItemFinalizable reg now gp coachName refCode part it := by
  unfold createPaidEnrollment ItemFinalizable
  cases reg.profile it.playerId with
  | none => exact iff_of_false (fun ⟨_, h⟩ => by cases h) fun ⟨⟨_, h⟩, _⟩ => by cases h
  | some player =>
    cases hdate : fromisoformat it.insuranceIssueDate with
    | none => exact iff_of_false (fun ⟨_, h⟩ => by cases h) fun ⟨_, _, h, _⟩ => by cases h
    | some insDate =>
      dsimp only
      split
      · next haccepts =>
        rw [Bool.and_eq_true] at haccepts
        exact iff_of_true ⟨_, rfl⟩ ⟨⟨player, rfl⟩, insDate, rfl, haccepts⟩
      · next hrejects =>
        rw [Bool.and_eq_true] at hrejects
        refine iff_of_false (fun ⟨_, h⟩ => by cases h) ?_
        rintro ⟨-, _, ⟨⟩, haccepts⟩
        exact hrejects haccepts

/-- The loop returns exactly when every item becomes an enrollment. -/
theorem createPaidEnrollments_returns_iff {items : List GroupItem} {idx : ℕ}
    {t : Table Enrollment} :
    (∃ x, createPaidEnrollments reg now gp coachName refCode parts idx items t = .ok x) ↔
      ∀ j it, items[j]? = some it →
        ItemFinalizable reg now gp coachName refCode (parts.getD (idx + j) 0) it := by
  induction items generalizing idx t with
  | nil => exact iff_of_true ⟨_, rfl⟩ fun j it h => by simp at h
  | cons it items ih =>
    -- the first item and the rest, each at its index
    have hsplit : (∀ j it', (it :: items)[j]? = some it' →
          ItemFinalizable reg now gp coachName refCode (parts.getD (idx + j) 0) it') ↔
        ItemFinalizable reg now gp coachName refCode (parts.getD idx 0) it ∧
        ∀ j it', items[j]? = some it' →
          ItemFinalizable reg now gp coachName refCode (parts.getD (idx + 1 + j) 0) it' := by
      constructor
      · intro h
        refine ⟨h 0 it rfl, fun j it' hj => ?_⟩
        have hnext := h (j + 1) it' hj
        rwa [show idx + (j + 1) = idx + 1 + j by omega] at hnext
      · rintro ⟨hfirst, hrest⟩ (_ | j) it' hj
        · obtain rfl : it = it' := Option.some.inj hj
          exact hfirst
        · have hnext := hrest j it' hj
          rwa [show idx + 1 + j = idx + (j + 1) by omega] at hnext
    rw [hsplit, ← createPaidEnrollment_returns_iff]
    simp only [createPaidEnrollments, bind, Except.bind, pure, Except.pure]
    cases createPaidEnrollment reg now gp coachName refCode (parts.getD idx 0) it t with
    | error e => exact iff_of_false (fun ⟨_, h⟩ => by cases h) fun ⟨⟨_, h⟩, _⟩ => by cases h
    | ok x =>
      rw [← ih, and_iff_right ⟨x, rfl⟩]
      dsimp only
      cases createPaidEnrollments reg now gp coachName refCode parts (idx + 1) items x.2 with
      | error e => exact iff_of_false (fun ⟨_, h⟩ => by cases h) fun ⟨_, h⟩ => by cases h
      | ok y => exact iff_of_true ⟨_, rfl⟩ ⟨y, rfl⟩

end Loop

/-! ### What a finalisation writes -/

/-- The effect of finalising group `g`, whose row was `gp`: one new paid enrollment
per payload item, in payload order, together holding the payable amount; the group
marked paid with their numbers; nothing else. -/
structure Finalizes (g : ℕ) (gp : GroupRegistrationPayment) (ids : List ℕ) (db db' : Db) :
    Prop where
  ids_eq : ids = List.range' db.enrollments.next gp.payload.items.length
  next_eq : db'.enrollments.next = db.enrollments.next + gp.payload.items.length
  kept : ∀ k < db.enrollments.next, db'.enrollments.get k = db.enrollments.get k
  created : ∃ es : List Enrollment, ids.map db'.enrollments.get = es.map some ∧
    List.Forall₂ (PaidFor gp) gp.payload.items es ∧
    (es.map Enrollment.paidAmount).sum = gp.payable
  group : ∃ refCode now, db'.groups = db.groups.modify g fun _ => gp.finalized refCode ids now
  intents : db'.intents = db.intents
  banks : db'.banks = db.banks
  poomsae : db'.poomsae = db.poomsae
  seminars : db'.seminars = db.seminars
  codes : db'.codes = db.codes

theorem map_getD_range' (parts : List ℕ) :
    (List.range' 0 parts.length).map (parts.getD · 0) = parts := by
  refine List.ext_getElem (by simp) fun j hj _ => ?_
  have hlt : j < parts.length := by simpa using hj
  simp [hlt]

section Finalize

variable {reg : Registry} {now : Time} {intent : PaymentIntent} {refCode : String} {db db' : Db}
  {g : ℕ} {gp : GroupRegistrationPayment} {ids : List ℕ}

/-- A finalised group is left alone and answers with its enrollment numbers. -/
theorem finalize_of_isPaid (hname : groupId intent.description = some g)
    (hgp : db.groups.get g = some gp) (hpaid : gp.isPaid = true) :
    finalizeGroupPaymentIfNeeded reg now intent refCode db =
      .ok (gp.payload.enrollmentIds.getD [], db) := by
  simp only [finalizeGroupPaymentIfNeeded, hname, hgp, hpaid, ↓reduceIte]

/-- The finalisation of an open group has run the loop over its items. -/
theorem exists_created_of_finalize (hname : groupId intent.description = some g)
    (hgp : db.groups.get g = some gp) (hopen : gp.isPaid = false) (hitems : gp.payload.items ≠ [])
    (h : finalizeGroupPaymentIfNeeded reg now intent refCode db = .ok (ids, db')) :
    ∃ coachName enrollments, createPaidEnrollments reg now gp coachName refCode
        (splitAmounts gp.payable gp.payload.items.length) 0 gp.payload.items db.enrollments =
          .ok (ids, enrollments) ∧
      db' = { db with
        enrollments
        groups := db.groups.modify g fun _ => gp.finalized refCode ids now } := by
  have hnil : gp.payload.items.isEmpty = false := by simpa using hitems
  simp only [finalizeGroupPaymentIfNeeded, hname, hgp, hopen, hnil, Bool.false_eq_true, ↓reduceIte,
    bind, Except.bind, pure, Except.pure] at h
  split at h
  · cases h
  · split at h
    · cases h
    · next x hx =>
      obtain ⟨ids', enrollments⟩ := x
      dsimp only at h
      split at h
      · cases h
        exact ⟨_, enrollments, hx, rfl⟩
      · cases h

/-- The finalisation of an open group, when it returns. -/
theorem finalize_ok (hname : groupId intent.description = some g)
    (hgp : db.groups.get g = some gp) (hopen : gp.isPaid = false) (hitems : gp.payload.items ≠ [])
    (h : finalizeGroupPaymentIfNeeded reg now intent refCode db = .ok (ids, db')) :
    Finalizes g gp ids db db' := by
  have hlen : gp.payload.items.length ≠ 0 := List.length_eq_zero_iff.not.mpr hitems
  obtain ⟨coachName, enrollments, hx, rfl⟩ := exists_created_of_finalize hname hgp hopen hitems h
  obtain ⟨hids, hnext, hkept, es, hes, hparts, hall⟩ := createPaidEnrollments_ok hx
  -- the parts paid are all parts of the split
  have hsum : (es.map Enrollment.paidAmount).sum = gp.payable := by
    have hwhole := map_getD_range' (splitAmounts gp.payable gp.payload.items.length)
    rw [length_splitAmounts] at hwhole
    rw [hparts, hwhole, sum_splitAmounts _ hlen]
  exact ⟨hids, hnext, hkept, ⟨es, hes, hall, hsum⟩, ⟨refCode, now, rfl⟩, rfl, rfl, rfl, rfl, rfl⟩

/-- The group can be finalised without an exception: its coach exists, every item becomes
an enrollment, and the database accepts the group's row. -/
def Finalizable (reg : Registry) (now : Time) (refCode : String) (db : Db)
    (gp : GroupRegistrationPayment) : Prop :=
  ∃ coach, reg.profile gp.coach = some coach ∧
    (∀ j it, gp.payload.items[j]? = some it →
      ItemFinalizable reg now gp (Text.strip coach.fullName) refCode
        ((splitAmounts gp.payable gp.payload.items.length).getD j 0) it) ∧
    reg.acceptsGroup (gp.finalized refCode
      (List.range' db.enrollments.next gp.payload.items.length) now) = true

/-- The finalisation of an open group returns exactly when the group is finalizable. -/
theorem finalize_returns_iff (hname : groupId intent.description = some g)
    (hgp : db.groups.get g = some gp) (hopen : gp.isPaid = false)
    (hitems : gp.payload.items ≠ []) :
    (∃ x, finalizeGroupPaymentIfNeeded reg now intent refCode db = .ok x) ↔
      Finalizable reg now refCode db gp := by
  have hnil : gp.payload.items.isEmpty = false := by simpa using hitems
  simp only [finalizeGroupPaymentIfNeeded, hname, hgp, hopen, hnil, Bool.false_eq_true, ↓reduceIte,
    bind, Except.bind, pure, Except.pure]
  unfold Finalizable
  cases reg.profile gp.coach with
  | none => exact iff_of_false (fun ⟨_, h⟩ => by cases h) fun ⟨_, h, _⟩ => by cases h
  | some coach =>
    -- the loop starts at index zero
    have hloop : (∀ j it, gp.payload.items[j]? = some it →
          ItemFinalizable reg now gp (Text.strip coach.fullName) refCode
            ((splitAmounts gp.payable gp.payload.items.length).getD j 0) it) ↔
        ∃ x, createPaidEnrollments reg now gp (Text.strip coach.fullName) refCode
          (splitAmounts gp.payable gp.payload.items.length) 0 gp.payload.items db.enrollments =
            .ok x := by
      rw [createPaidEnrollments_returns_iff]
      simp only [Nat.zero_add]
    simp only [Option.some.injEq, exists_eq_left', hloop]
    cases hx : createPaidEnrollments reg now gp (Text.strip coach.fullName) refCode
      (splitAmounts gp.payable gp.payload.items.length) 0 gp.payload.items db.enrollments with
    | error e => exact iff_of_false (fun ⟨_, h⟩ => by cases h) fun ⟨⟨_, h⟩, _⟩ => by cases h
    | ok x =>
      obtain ⟨ids, t⟩ := x
      obtain ⟨rfl, -⟩ := createPaidEnrollments_ok hx
      rw [and_iff_right ⟨_, rfl⟩]
      dsimp only
      split
      · next haccepts => exact iff_of_true ⟨_, rfl⟩ haccepts
      · next hrejects => exact iff_of_false (fun ⟨_, h⟩ => by cases h) hrejects

/-- A finalisation that returns has changed nothing, or has finalised an open group
that the description names. -/
theorem finalize_cases
    (h : finalizeGroupPaymentIfNeeded reg now intent refCode db = .ok (ids, db')) :
    db' = db ∨ ∃ g gp, groupId intent.description = some g ∧ db.groups.get g = some gp ∧
      gp.isPaid = false ∧ gp.payload.items ≠ [] ∧ Finalizes g gp ids db db' := by
  cases hname : groupId intent.description with
  | none =>
    simp only [finalizeGroupPaymentIfNeeded, hname] at h
    cases h
    exact Or.inl rfl
  | some g =>
    cases hgp : db.groups.get g with
    | none =>
      simp only [finalizeGroupPaymentIfNeeded, hname, hgp] at h
      cases h
      exact Or.inl rfl
    | some gp =>
      -- a paid group and a group without students are left alone
      by_cases hpaid : gp.isPaid = true
      · rw [finalize_of_isPaid hname hgp hpaid] at h
        cases h
        exact Or.inl rfl
      · rw [Bool.not_eq_true] at hpaid
        by_cases hitems : gp.payload.items = []
        · simp only [finalizeGroupPaymentIfNeeded, hname, hgp, hpaid, hitems, List.isEmpty_nil,
            Bool.false_eq_true, ↓reduceIte] at h
          cases h
          exact Or.inl rfl
        · exact Or.inr ⟨g, gp, rfl, hgp, hpaid, hitems, finalize_ok hname hgp hpaid hitems h⟩

/-- A finalisation does not touch the intents. -/
theorem finalize_intents
    (h : finalizeGroupPaymentIfNeeded reg now intent refCode db = .ok (ids, db')) :
    db'.intents = db.intents := by
  rcases finalize_cases h with rfl | ⟨g, gp, -, -, -, -, hfin⟩
  · rfl
  · exact hfin.intents

end Finalize

/-! ### Sequences of finalisations -/

/-- One call of `_finalize_group_payment_if_needed`, with what it reads. -/
structure FinalizeCall where
  reg : Registry
  now : Time
  intent : PaymentIntent
  refCode : String

/-- The call in its transaction: an exception rolls everything back. -/
def FinalizeCall.run (c : FinalizeCall) (db : Db) : Except Failure (List ℕ) × Db :=
  match finalizeGroupPaymentIfNeeded c.reg c.now c.intent c.refCode db with
  | .ok (ids, db') => (.ok ids, db')
  | .error e => (.error e, db)

/-- A sequence of calls: their results, and the database after them. The lock on the
group's row makes every interleaving of calls on one group such a sequence. -/
def finalizeCalls : List FinalizeCall → Db → List (Except Failure (List ℕ)) × Db
  | [], db => ([], db)
  | c :: cs, db =>
    let (result, db) := c.run db
    let (results, db) := finalizeCalls cs db
    (result :: results, db)

/-- Once the group is paid, every call returns its enrollment numbers and changes
nothing. -/
theorem finalizeCalls_of_isPaid {db : Db} {g : ℕ} {gp : GroupRegistrationPayment}
    (hgp : db.groups.get g = some gp) (hpaid : gp.isPaid = true) (calls : List FinalizeCall)
    (hnames : ∀ c ∈ calls, groupId c.intent.description = some g) :
    finalizeCalls calls db =
      (List.replicate calls.length (.ok (gp.payload.enrollmentIds.getD [])), db) := by
  induction calls with
  | nil => rfl
  | cons c calls ih =>
    have hrun : c.run db = (.ok (gp.payload.enrollmentIds.getD []), db) := by
      rw [FinalizeCall.run, finalize_of_isPaid (hnames c List.mem_cons_self) hgp hpaid]
    rw [finalizeCalls, hrun]
    dsimp only
    rw [ih fun c' hc' => hnames c' (List.mem_cons_of_mem c hc')]
    rfl

/-- **Exactly-once finalisation.** Take any group payment with students and any
sequence of finalisations that name it. If it is open, then either every call
raised and nothing changed, or the calls before some call raised and changed
nothing, that call finalised the group, and it and every later call returned the
same enrollment numbers without changing anything more. If it was finalised before,
every call returns the recorded numbers and changes nothing. -/
theorem finalizeCalls_exactlyOnce {db : Db} {g : ℕ} {gp : GroupRegistrationPayment}
    (hgp : db.groups.get g = some gp) (hitems : gp.payload.items ≠ [])
    (calls : List FinalizeCall) (hnames : ∀ c ∈ calls, groupId c.intent.description = some g) :
    (gp.isPaid = false →
      (∃ errors : List Failure, finalizeCalls calls db = (errors.map .error, db)) ∨
      ∃ (errors : List Failure) (ids : List ℕ) (later : ℕ) (db' : Db),
        Finalizes g gp ids db db' ∧ calls.length = errors.length + 1 + later ∧
        finalizeCalls calls db =
          (errors.map .error ++ .ok ids :: List.replicate later (.ok ids), db')) ∧
    (gp.isPaid = true →
      finalizeCalls calls db =
        (List.replicate calls.length (.ok (gp.payload.enrollmentIds.getD [])), db)) := by
  refine ⟨fun hopen => ?_, fun hpaid => finalizeCalls_of_isPaid hgp hpaid calls hnames⟩
  -- induction on the calls: the first that returns ends the argument
  induction calls with
  | nil => exact Or.inl ⟨[], rfl⟩
  | cons c calls ih =>
    have hname := hnames c List.mem_cons_self
    have hrest : ∀ c' ∈ calls, groupId c'.intent.description = some g :=
      fun c' hc' => hnames c' (List.mem_cons_of_mem c hc')
    cases hrun : finalizeGroupPaymentIfNeeded c.reg c.now c.intent c.refCode db with
    | error e =>
      have hc : c.run db = (.error e, db) := by rw [FinalizeCall.run, hrun]
      rcases ih hrest with ⟨errors, hcalls⟩ | ⟨errors, ids, later, db', hfin, hcount, hcalls⟩
      · refine Or.inl ⟨e :: errors, ?_⟩
        rw [finalizeCalls, hc]
        dsimp only
        rw [hcalls]
        rfl
      · refine Or.inr ⟨e :: errors, ids, later, db', hfin, ?_, ?_⟩
        · rw [List.length_cons, List.length_cons, hcount]
          omega
        · rw [finalizeCalls, hc]
          dsimp only
          rw [hcalls]
          rfl
    | ok x =>
      obtain ⟨ids, db'⟩ := x
      have hfin := finalize_ok hname hgp hopen hitems hrun
      have hc : c.run db = (.ok ids, db') := by rw [FinalizeCall.run, hrun]
      obtain ⟨refCode, now, hgroups⟩ := hfin.group
      have hgp' : db'.groups.get g = some (gp.finalized refCode ids now) := by
        rw [hgroups, Table.get_modify_self, hgp, Option.map_some]
      refine Or.inr ⟨[], ids, calls.length, db', hfin, by rw [List.length_cons]; simp; omega, ?_⟩
      rw [finalizeCalls, hc]
      dsimp only
      rw [finalizeCalls_of_isPaid hgp' rfl calls hrest]
      rfl

/-- A registry in which every profile exists and the database accepts every row. -/
def openRegistry : Registry :=
  { (default : Registry) with
    profile := fun _ => some default
    acceptsEnrollment := fun _ => true
    acceptsGroup := fun _ => true }

/-- A pending group of two students over an odd amount. -/
def pendingPair : GroupRegistrationPayment :=
  let item : GroupItem := { (default : GroupItem) with insuranceIssueDate := "2025-03-01" }
  { (default : GroupRegistrationPayment) with
    payload := { (default : GroupPayload) with
      items := [{ item with playerId := 5 }, { item with playerId := 6 }]
      payableAmount := some 250001 }
    totalAmount := 250001 }

/-- Two notifications for the first group. -/
def pairCalls : List FinalizeCall :=
  List.replicate 2
    { reg := openRegistry, now := 7, refCode := "R"
      intent := { (default : PaymentIntent) with description := groupDescription 1 } }

theorem finalizeCalls_exactlyOnce_pair :
    let db : Db := { (default : Db) with groups := Table.empty.insert pendingPair }
    (finalizeCalls pairCalls db).1 = [.ok [1, 2], .ok [1, 2]] ∧
      ((∃ errors : List Failure, finalizeCalls pairCalls db = (errors.map .error, db)) ∨
        ∃ (errors : List Failure) (ids : List ℕ) (later : ℕ) (db' : Db),
          Finalizes 1 pendingPair ids db db' ∧ pairCalls.length = errors.length + 1 + later ∧
          finalizeCalls pairCalls db =
            (errors.map .error ++ .ok ids :: List.replicate later (.ok ids), db')) :=
  ⟨rfl, (finalizeCalls_exactlyOnce rfl (List.cons_ne_nil _ _) pairCalls fun c hc => by
    rw [List.eq_of_mem_replicate hc]
    exact groupId_groupDescription 1).1 rfl⟩

end Tkdchb
