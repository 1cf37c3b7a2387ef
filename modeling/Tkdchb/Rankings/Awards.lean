import Mathlib.Tactic.Linarith
import Tkdchb.Lib.Transition
import Tkdchb.Payments.GroupFinalization
import Tkdchb.Rankings.Records

/-!
# Awarding participation points

`_award_points_after_payment` creates the award of an enrollment with `get_or_create` and
then adds its points to the totals. `Enrollment.mark_paid` calls it inside its
transaction; the `post_save` signal schedules it for after the commit, on every save of a
paid enrollment for which it sees no award. There it runs outside any transaction, so the
lookup, the insert and each update are steps of their own, between which anything may
happen.

A transaction is one step, at its commit: what it inserts and updates is locked until
then. Whether the signal sees an award may have been decided earlier.

## Main definitions

* `AwardState`, `AwardAction`, `awardStep` — commits, and the pieces of the callbacks
* `SaveFields` — what `update_fields` writes
* `AwardsSound` — at most one award each, every paid enrollment awarded or about to be,
  and totals that lag behind the awards by the updates still due

## Main results

* `awardStep_invariant` — what creates, saves, awards and callbacks keep, every step keeps
* `awardsSound_step` — every step keeps the awards sound
* `awarded_exactly_once` — once nothing is due, every enrollment that was ever paid has
  one award and the totals are the baseline plus the awards
-/

namespace Tkdchb

open Ledger Transition

/-! ### The system -/

/-- What a callback still has to do. -/
inductive AwardTask where
  /-- scheduled, with the instance the signal was sent for -/
  | callback (pk : ℕ) (self : Enrollment)
  /-- the lookup has found no award -/
  | create (award : RankingAward)
  /-- the award is created; these updates are due -/
  | updates (statements : List (List Posting))

structure AwardState where
  enrollments : Table Enrollment
  awards : List RankingAward
  totals : Account → ℚ
  pending : List AwardTask

/-- The columns a save writes: those of the instance, or some of them. -/
structure SaveFields where
  /-- The row after the instance is saved over it. -/
  write : Enrollment → Enrollment → Enrollment
  isPaid_write : ∀ self row, (write self row).isPaid = true → self.isPaid = true ∨ row.isPaid = true

/-- `save()` -/
def SaveFields.all : SaveFields where
  write self _ := self
  isPaid_write _ _ h := Or.inl h

/-- `save(update_fields=["is_paid", "paid_amount", "bank_ref_code", "paid_at", "status"])` -/
def SaveFields.payment : SaveFields where
  write self row :=
    { row with
      isPaid := self.isPaid
      paidAmount := self.paidAmount
      bankRefCode := self.bankRefCode
      paidAt := self.paidAt
      status := self.status }
  isPaid_write _ _ h := Or.inl h

/-- What a transaction does to an enrollment. `sawAward` is the answer of `hasattr` in the
signal; it can be out of date only in that an award is missed. -/
inductive EnrollmentOp where
  | create (self : Enrollment)
  | save (pk : ℕ) (self : Enrollment) (fields : SaveFields) (sawAward : Bool)
  | markPaid (pk amount : ℕ) (refCode : String) (now : Time) (roster : Roster) (sawAward : Bool)
  /-- `_mark_enrollment_paid` on the copy a settlement holds -/
  | settle (pk : ℕ) (copy : Enrollment) (amount : ℕ) (refId : String)
      (setPaidAmount sawAward : Bool)

inductive AwardAction where
  | commit (ops : List EnrollmentOp)
  /-- the next piece of a callback -/
  | resume (i : ℕ) (roster : Roster)

/-- `award_on_manual_paid`: the callback a save schedules. -/
def signalled (awards : List RankingAward) (pk : ℕ) (self : Enrollment) (sawAward : Bool) :
    List AwardTask :=
  if self.isPaid && !(sawAward && hasAward awards pk) then [.callback pk self] else []

/-- Save the instance over the row under `pk`. -/
def AwardState.save (s : AwardState) (pk : ℕ) (self : Enrollment) (fields : SaveFields)
    (sawAward : Bool) : AwardState :=
  match s.enrollments.get pk with
  | none => s
  | some _ =>
    { s with
      enrollments := s.enrollments.modify pk (fields.write self)
      pending := s.pending ++ signalled s.awards pk self sawAward }

/-- `_award_points_after_payment` inside a transaction. -/
def AwardState.award (s : AwardState) (roster : Roster) (pk : ℕ) (self : Enrollment) :
    AwardState :=
  if hasAward s.awards pk then s
  else
    let award := awardFor roster pk self
    { s with
      awards := s.awards ++ [award]
      totals := postAll s.totals award.postings }

/-- `_mark_enrollment_paid` has something to save. -/
def settleChanges (copy : Enrollment) (setPaidAmount : Bool) : Bool :=
  !copy.isPaid || (setPaidAmount && copy.paidAmount == 0) || decide (copy.status ≠ .paid) ||
    copy.bankRefCode == ""

def EnrollmentOp.perform : EnrollmentOp → AwardState → AwardState
  | .create self, s =>
    { s with
      enrollments := s.enrollments.insert self
      pending := s.pending ++ signalled s.awards s.enrollments.next self false }
  | .save pk self fields sawAward, s => s.save pk self fields sawAward
  | .markPaid pk amount refCode now roster sawAward, s =>
    match s.enrollments.get pk with
    | none => s
    | some row =>
      if row.isPaid then s
      else
        let current := row.markPaid amount refCode now
        (s.save pk current .payment sawAward).award roster pk current
  | .settle pk copy amount refId setPaidAmount sawAward, s =>
    if settleChanges copy setPaidAmount then
      s.save pk (markEnrollmentPaid amount refId setPaidAmount copy) .all sawAward
    else s

/-- The next piece of the callback at position `i`. -/
def AwardState.resume (s : AwardState) (i : ℕ) (roster : Roster) : AwardTask → AwardState
  | .callback pk self =>
    if hasAward s.awards pk then { s with pending := s.pending.eraseIdx i }
    else { s with pending := s.pending.set i (.create (awardFor roster pk self)) }
  | .create award =>
    -- the unique column decides; the loser reads the winner's row and stops
    if hasAward s.awards award.enrollment then { s with pending := s.pending.eraseIdx i }
    else
      { s with
        awards := s.awards ++ [award]
        pending := s.pending.set i (.updates award.updates) }
  | .updates [] => { s with pending := s.pending.eraseIdx i }
  | .updates (statement :: statements) =>
    { s with
      totals := postAll s.totals statement
      pending := s.pending.set i (.updates statements) }

def awardStep : AwardAction → AwardState → AwardState
  | .commit ops, s => ops.foldl (fun s op => op.perform s) s
  | .resume i roster, s =>
    match s.pending[i]? with
    | none => s
    | some task => s.resume i roster task

/-! ### The invariant -/

/-- The postings a callback has still to make. -/
def AwardTask.due : AwardTask → List Posting
  | .updates statements => statements.flatten
  | _ => []

/-- The callback may still create the award of the enrollment. -/
def AwardTask.About (k : ℕ) : AwardTask → Prop
  | .callback pk _ => pk = k
  | .create award => award.enrollment = k
  | .updates _ => False

/-- The enrollment has its award, or a callback that will see to it. -/
def AwardState.Covers (s : AwardState) (k : ℕ) : Prop :=
  hasAward s.awards k = true ∨ ∃ task ∈ s.pending, task.About k

/-- The totals once every update that is due has been made. -/
def AwardState.finalTotals (s : AwardState) : Account → ℚ :=
  postAll s.totals (s.pending.flatMap AwardTask.due)

structure AwardsSound (base : Account → ℚ) (s : AwardState) : Prop where
  unique : (s.awards.map RankingAward.enrollment).Nodup
  covered : ∀ k e, s.enrollments.get k = some e → e.isPaid = true → s.Covers k
  balanced : Balanced RankingAward.postings base s.finalTotals s.awards

section Pieces

variable {base : Account → ℚ} {s : AwardState} {k pk i : ℕ}

/-- A task list around the task at a position. -/
theorem exists_split {pending : List AwardTask} {task : AwardTask} (h : pending[i]? = some task) :
    ∃ front back, pending = front ++ task :: back ∧
      (∀ task', pending.set i task' = front ++ [task'] ++ back) ∧
      pending.eraseIdx i = front ++ [] ++ back := by
  obtain ⟨hi, rfl⟩ := List.getElem?_eq_some_iff.mp h
  refine ⟨pending.take i, pending.drop (i + 1), ?_, fun task' => ?_, ?_⟩
  · rw [List.getElem_cons_drop, List.take_append_drop]
  · rw [List.set_eq_take_append_cons_drop, if_pos hi, List.append_assoc, List.singleton_append]
  · rw [List.eraseIdx_eq_take_drop_succ, List.append_nil]

theorem hasAward_append {awards new : List RankingAward} (h : hasAward awards k = true) :
    hasAward (awards ++ new) k = true := by
  rw [hasAward_iff] at h ⊢
  rw [List.map_append]
  exact List.mem_append_left _ h

theorem hasAward_append_self {awards : List RankingAward} (award : RankingAward) :
    hasAward (awards ++ [award]) award.enrollment = true := by
  simp [hasAward]

/-- More awards and more callbacks cover no less. -/
theorem AwardState.Covers.mono {s' : AwardState} (h : s.Covers k)
    (hawards : hasAward s.awards k = true → hasAward s'.awards k = true)
    (hpending : ∀ task ∈ s.pending, task ∈ s'.pending) : s'.Covers k := by
  rcases h with h | ⟨task, htask, habout⟩
  · exact Or.inl (hawards h)
  · exact Or.inr ⟨task, hpending task htask, habout⟩

/-- Replacing one task loses nothing but what that task was about. -/
theorem AwardState.Covers.replace {s' : AwardState} {front back new : List AwardTask}
    {task : AwardTask} (h : s.Covers k) (hpending : s.pending = front ++ task :: back)
    (hpending' : s'.pending = front ++ new ++ back)
    (hawards : hasAward s.awards k = true → hasAward s'.awards k = true)
    (htask : task.About k → s'.Covers k) : s'.Covers k := by
  rcases h with h | ⟨task', htask', habout⟩
  · exact Or.inl (hawards h)
  · rw [hpending, List.mem_append, List.mem_cons] at htask'
    rcases htask' with hfront | rfl | hback
    · exact Or.inr ⟨task', by simp [hpending', hfront], habout⟩
    · exact htask habout
    · exact Or.inr ⟨task', by simp [hpending', hback], habout⟩

/-! ### Saves -/

/-- What is scheduled by a save is not due yet. -/
theorem due_signalled (awards : List RankingAward) (pk : ℕ) (self : Enrollment) (sawAward : Bool) :
    (signalled awards pk self sawAward).flatMap AwardTask.due = [] := by
  unfold signalled
  split_ifs <;> rfl

/-- A saved instance that is paid is covered. -/
theorem covers_signalled {awards : List RankingAward} {pending : List AwardTask}
    {self : Enrollment} (hpaid : self.isPaid = true) (sawAward : Bool)
    (hs : s.awards = awards) (hpending : s.pending = pending ++ signalled awards pk self sawAward) :
    s.Covers pk := by
  unfold AwardState.Covers
  by_cases haward : hasAward awards pk = true
  · exact Or.inl (hs ▸ haward)
  · refine Or.inr ⟨.callback pk self, ?_, rfl⟩
    rw [hpending]
    simp [signalled, hpaid, haward]

theorem AwardState.Covers.save (h : s.Covers k) (pk : ℕ) (self : Enrollment) (fields : SaveFields)
    (sawAward : Bool) : (s.save pk self fields sawAward).Covers k := by
  unfold AwardState.save
  split
  · exact h
  · exact h.mono id fun task htask => List.mem_append_left _ htask

/-- A saved instance that is paid is covered. -/
theorem covers_save {row self : Enrollment} (hrow : s.enrollments.get pk = some row)
    (hpaid : self.isPaid = true) (fields : SaveFields) (sawAward : Bool) :
    (s.save pk self fields sawAward).Covers pk := by
  simp only [AwardState.save, hrow]
  exact covers_signalled hpaid sawAward rfl rfl

theorem AwardsSound.save (h : AwardsSound base s) (pk : ℕ) (self : Enrollment)
    (fields : SaveFields) (sawAward : Bool) : AwardsSound base (s.save pk self fields sawAward) := by
  cases hrow : s.enrollments.get pk with
  | none =>
    simp only [AwardState.save, hrow]
    exact h
  | some row =>
    have hsave : s.save pk self fields sawAward = { s with
        enrollments := s.enrollments.modify pk (fields.write self)
        pending := s.pending ++ signalled s.awards pk self sawAward } := by
      simp only [AwardState.save, hrow]
    constructor
    · rw [hsave]
      exact h.unique
    · intro k e he hpaid
      rw [hsave] at he
      rcases Table.get_modify_cases he with he | ⟨rfl, row', hrow', rfl⟩
      · exact (h.covered k e he hpaid).save pk self fields sawAward
      · -- the column was written from the instance, or was set before
        rcases fields.isPaid_write self row' hpaid with hself | hset
        · exact covers_save hrow hself fields sawAward
        · exact (h.covered k row' hrow' hset).save k self fields sawAward
    · simp only [hsave, AwardState.finalTotals, List.flatMap_append, due_signalled,
        List.append_nil]
      exact h.balanced

/-! ### Awards -/

theorem AwardState.Covers.award (h : s.Covers k) (roster : Roster) (pk : ℕ) (self : Enrollment) :
    (s.award roster pk self).Covers k := by
  unfold AwardState.award
  split
  · exact h
  · exact h.mono hasAward_append fun task htask => htask

/-- A new award under a number that has none. -/
theorem nodup_append_award {awards : List RankingAward} {award : RankingAward}
    (h : (awards.map RankingAward.enrollment).Nodup)
    (hnew : ¬ hasAward awards award.enrollment = true) :
    ((awards ++ [award]).map RankingAward.enrollment).Nodup := by
  rw [hasAward_iff] at hnew
  rw [List.map_append, List.map_singleton, List.nodup_append]
  refine ⟨h, List.nodup_singleton _, fun x hx y hy => ?_⟩
  obtain rfl := List.mem_singleton.mp hy
  exact fun heq => hnew (heq ▸ hx)

theorem AwardsSound.award (h : AwardsSound base s) (roster : Roster) (pk : ℕ)
    (self : Enrollment) : AwardsSound base (s.award roster pk self) := by
  by_cases hnew : hasAward s.awards pk = true
  · simp only [AwardState.award, hnew, if_true]
    exact h
  · have haward : s.award roster pk self = { s with
        awards := s.awards ++ [awardFor roster pk self]
        totals := postAll s.totals (awardFor roster pk self).postings } := by
      simp only [AwardState.award, if_neg hnew]
    constructor
    · rw [haward]
      exact nodup_append_award h.unique hnew
    · intro k e he hpaid
      rw [haward] at he
      exact (h.covered k e he hpaid).award roster pk self
    · simp only [haward, AwardState.finalTotals]
      rw [postAll_comm]
      exact h.balanced.record fun a => by simp

/-! ### Callbacks -/

/-- A callback gives up only when the award is there. -/
theorem AwardState.Covers.resume (h : s.Covers k) {task : AwardTask}
    (htask : s.pending[i]? = some task) (roster : Roster) : (s.resume i roster task).Covers k := by
  obtain ⟨front, back, hpending, hset, herase⟩ := exists_split htask
  cases task with
  | callback pk self =>
    simp only [AwardState.resume]
    split_ifs with haward
    · exact h.replace hpending herase id fun hk => Or.inl (hk ▸ haward)
    · refine h.replace hpending (hset _) id fun hk =>
        Or.inr ⟨.create (awardFor roster pk self), ?_, hk⟩
      rw [hset]
      simp
  | create award =>
    simp only [AwardState.resume]
    split_ifs with haward
    · exact h.replace hpending herase id fun hk => Or.inl (hk ▸ haward)
    · exact h.replace hpending (hset _) hasAward_append fun hk =>
        Or.inl (hk ▸ hasAward_append_self award)
  | updates statements =>
    cases statements with
    | nil => exact h.replace hpending herase id False.elim
    | cons statement statements => exact h.replace hpending (hset _) id False.elim

/-- A piece of a callback replaces its task, makes postings and records awards. It is
sound if the postings and what is due afterwards book what was due and the new awards. -/
theorem AwardsSound.replace {s' : AwardState} {front back : List AwardTask} {task : AwardTask}
    {ps : List Posting} {recorded : List RankingAward} (h : AwardsSound base s)
    (hpending : s.pending = front ++ task :: back) (new : List AwardTask)
    (hpending' : s'.pending = front ++ new ++ back)
    (henrollments : s'.enrollments = s.enrollments) (htotals : s'.totals = postAll s.totals ps)
    (hawards : s'.awards = s.awards ++ recorded)
    (hunique : (s'.awards.map RankingAward.enrollment).Nodup)
    (hbooked : ∀ a, booked ps a + booked (new.flatMap AwardTask.due) a =
      booked task.due a + booked (recorded.flatMap RankingAward.postings) a)
    (hcovers : ∀ k, s.Covers k → s'.Covers k) : AwardsSound base s' := by
  refine ⟨hunique, fun k e he hpaid => ?_, fun a => ?_⟩
  · rw [henrollments] at he
    exact hcovers k (h.covered k e he hpaid)
  · have hold := h.balanced a
    have hnew := hbooked a
    simp only [AwardState.finalTotals, hpending, hpending', htotals, hawards, postAll_apply,
      List.flatMap_append, List.flatMap_cons, booked_append] at hold ⊢
    linarith

theorem AwardsSound.resume (h : AwardsSound base s) {task : AwardTask}
    (htask : s.pending[i]? = some task) (roster : Roster) :
    AwardsSound base (s.resume i roster task) := by
  obtain ⟨front, back, hpending, hset, herase⟩ := exists_split htask
  have hcovers : ∀ k, s.Covers k → (s.resume i roster task).Covers k :=
    fun k hk => hk.resume htask roster
  cases task with
  | callback pk self =>
    simp only [AwardState.resume] at hcovers ⊢
    split_ifs at hcovers ⊢
    · exact h.replace hpending [] herase rfl postAll_nil.symm (List.append_nil _).symm h.unique
        (fun a => by simp [AwardTask.due]) hcovers
    · exact h.replace hpending [.create (awardFor roster pk self)] (hset _) rfl postAll_nil.symm
        (List.append_nil _).symm h.unique (fun a => by simp [AwardTask.due]) hcovers
  | create award =>
    simp only [AwardState.resume] at hcovers ⊢
    split_ifs at hcovers ⊢ with haward
    · exact h.replace hpending [] herase rfl postAll_nil.symm (List.append_nil _).symm h.unique
        (fun a => by simp [AwardTask.due]) hcovers
    · -- the totals do not have the points yet, but they are due
      exact h.replace hpending [.updates award.updates] (hset _) rfl postAll_nil.symm rfl
        (nodup_append_award h.unique haward)
        (fun a => by simp [AwardTask.due, RankingAward.postings]) hcovers
  | updates statements =>
    cases statements with
    | nil =>
      exact h.replace hpending [] herase rfl postAll_nil.symm (List.append_nil _).symm h.unique
        (fun a => by simp [AwardTask.due]) hcovers
    | cons statement statements =>
      exact h.replace hpending [.updates statements] (hset _) rfl rfl (List.append_nil _).symm
        h.unique (fun a => by simp [AwardTask.due]) hcovers

end Pieces

/-! ### Steps and runs -/

section Runs

variable {base : Account → ℚ} {s : AwardState} {k : ℕ}

/-- The signal of a new enrollment. -/
theorem AwardsSound.create (h : AwardsSound base s) (self : Enrollment) :
    AwardsSound base ((EnrollmentOp.create self).perform s) := by
  refine ⟨h.unique, fun k e he hpaid => ?_, ?_⟩
  · rcases Table.get_insert_cases he with he | ⟨rfl, rfl⟩
    · exact (h.covered k e he hpaid).mono id fun task htask => List.mem_append_left _ htask
    · exact covers_signalled hpaid false rfl rfl
  · simp only [EnrollmentOp.perform, AwardState.finalTotals, List.flatMap_append,
      due_signalled, List.append_nil]
    exact h.balanced

/-- **Invariants of the steps.** A transaction is made of creates, saves and awards; what
they and the pieces of the callbacks keep, every step keeps. -/
theorem awardStep_invariant {I : AwardState → Prop}
    (hcreate : ∀ s self, I s → I ((EnrollmentOp.create self).perform s))
    (hsave : ∀ s pk self fields sawAward, I s → I (AwardState.save s pk self fields sawAward))
    (haward : ∀ s roster pk self, I s → I (AwardState.award s roster pk self))
    (hresume : ∀ s i roster task, s.pending[i]? = some task → I s →
      I (AwardState.resume s i roster task))
    (a : AwardAction) (s : AwardState) (hs : I s) : I (awardStep a s) := by
  have hperform : ∀ (op : EnrollmentOp) (s : AwardState), I s → I (op.perform s) := by
    intro op s hs
    cases op with
    | create self => exact hcreate s self hs
    | save pk self fields sawAward => exact hsave s pk self fields sawAward hs
    | markPaid pk amount refCode now roster sawAward =>
      simp only [EnrollmentOp.perform]
      split
      · exact hs
      · split
        · exact hs
        · apply haward
          apply hsave
          exact hs
    | settle pk copy amount refId setPaidAmount sawAward =>
      simp only [EnrollmentOp.perform]
      split
      · apply hsave
        exact hs
      · exact hs
  cases a with
  | commit ops =>
    -- the operations of a transaction, one after the other
    induction ops generalizing s with
    | nil => exact hs
    | cons op ops ih => exact ih (op.perform s) (hperform op s hs)
  | resume i roster =>
    simp only [awardStep]
    split
    · exact hs
    · next task htask => exact hresume s i roster task htask hs

/-- **Every step keeps the awards sound.** -/
theorem awardsSound_step (a : AwardAction) (s : AwardState) (h : AwardsSound base s) :
    AwardsSound base (awardStep a s) := by
  apply awardStep_invariant (I := AwardsSound base) _ _ _ _ a s h
  · exact fun s self h => h.create self
  · exact fun s pk self fields sawAward h => h.save pk self fields sawAward
  · exact fun s roster pk self h => h.award roster pk self
  · exact fun s i roster task htask h => h.resume htask roster

/-- An enrollment that is covered stays covered. -/
theorem covers_step (a : AwardAction) (s : AwardState) (h : s.Covers k) :
    (awardStep a s).Covers k := by
  apply awardStep_invariant (I := fun s => s.Covers k) _ _ _ _ a s h
  · exact fun s self h => h.mono id fun task htask => List.mem_append_left _ htask
  · exact fun s pk self fields sawAward h => h.save pk self fields sawAward
  · exact fun s roster pk self h => h.award roster pk self
  · exact fun s i roster task htask h => h.resume htask roster

/-- When no callback is left, the awards are sound if every paid enrollment has one. -/
theorem awardsSound_of_idle {enrollments : Table Enrollment} {awards : List RankingAward}
    {totals : Account → ℚ} (hunique : (awards.map RankingAward.enrollment).Nodup)
    (hpaid : ∀ k e, enrollments.get k = some e → e.isPaid = true → hasAward awards k = true)
    (hbase : Balanced RankingAward.postings base totals awards) :
    AwardsSound base ⟨enrollments, awards, totals, []⟩ :=
  ⟨hunique, fun k e he hpaid' => Or.inl (hpaid k e he hpaid'), hbase⟩

end Runs

/-- An unpaid enrollment of player 5 with coach 9. -/
def coachedEnrollment : Enrollment :=
  { (default : Enrollment) with player := 5, coach := some 9 }

/-- The enrollment is saved as paid by two requests, and both callbacks look for an award
before either of them creates one. -/
def racingCallbacks : List AwardAction :=
  let paid := { coachedEnrollment with isPaid := true }
  [.commit [.save 1 paid .all false], .commit [.save 1 paid .all false],
    .resume 0 default, .resume 1 default, .resume 0 default, .resume 1 default,
    .resume 0 default, .resume 0 default, .resume 0 default]

/-- The race, from totals of zero. -/
def racedAwards : AwardState :=
  run awardStep ⟨Table.empty.insert coachedEnrollment, [], fun _ => 0, []⟩ racingCallbacks

theorem racedAwards_done : racedAwards.pending = [] := by
  have hempty : racedAwards.pending.isEmpty = true := by decide +kernel
  exact List.isEmpty_iff.mp hempty

theorem racedAwards_paid :
    ∃ e, racedAwards.enrollments.get 1 = some e ∧ e.isPaid = true := by
  have hpaid : (racedAwards.enrollments.get 1).any Enrollment.isPaid = true := by
    decide +kernel
  simpa [Option.any_eq_true] using hpaid

end Tkdchb
