import Tkdchb.Payments.GroupLinks

/-!
# Whether a paid group is registered

Paying an intent and finalising the group behind it are separate transactions. Of the four
routes that pay an intent only the result redirect goes on to finalise, and it swallows
the exceptions of the finalisation. When the request that pays the intent of a group is
over, the group is registered exactly when it was so before, or the request is a result
redirect and nothing stands in the way of the finalisation.

## Main definitions

* `Registered` — the group is paid, with one paid enrollment for each student
* `EndsPaying` — the last piece of a request that pays an intent

## Main results

* `groupsRegistered_step` — paid groups are registered, in every reachable state
* `registered_after_paying_iff` — when the paying request is over
* `unregistered_after_callback` — a group that is paid by a callback
-/

namespace Tkdchb

open Transition Web

/-! ### Registered groups -/

/-- The enrollments the group lists are one paid enrollment for each of its students. -/
def HasEnrollments (enrollments : Table Enrollment) (gp : GroupRegistrationPayment) : Prop :=
  ∃ (ids : List ℕ) (es : List Enrollment), gp.payload.enrollmentIds = some ids ∧ ids.Nodup ∧
    ids.map enrollments.get = es.map some ∧ List.Forall₂ (PaidFor gp) gp.payload.items es

/-- The group is paid, and its students are enrolled. -/
def Registered (db : Db) (g : ℕ) : Prop :=
  ∃ gp, db.groups.get g = some gp ∧ gp.isPaid = true ∧ HasEnrollments db.enrollments gp

/-- Every paid group is registered. -/
def GroupsRegistered (db : Db) : Prop :=
  ∀ g gp, db.groups.get g = some gp → gp.isPaid = true → HasEnrollments db.enrollments gp

/-- Paid enrollments stay paid enrollments of the same player and competition. -/
def KeepsPaid (t t' : Table Enrollment) : Prop :=
  ∀ k e, t.get k = some e → ∃ e', t'.get k = some e' ∧ ∀ gp it, PaidFor gp it e → PaidFor gp it e'

section Enrollments

variable {t t' t'' : Table Enrollment}

theorem KeepsPaid.refl (t : Table Enrollment) : KeepsPaid t t :=
  fun _ e he => ⟨e, he, fun _ _ h => h⟩

theorem KeepsPaid.trans (h : KeepsPaid t t') (h' : KeepsPaid t' t'') : KeepsPaid t t'' := by
  intro k e he
  obtain ⟨e₁, he₁, hpaid₁⟩ := h k e he
  obtain ⟨e₂, he₂, hpaid₂⟩ := h' k e₁ he₁
  exact ⟨e₂, he₂, fun gp it hfor => hpaid₂ gp it (hpaid₁ gp it hfor)⟩

theorem keepsPaid_of_kept (h : ∀ k < t.next, t'.get k = t.get k) : KeepsPaid t t' :=
  fun k e he => ⟨e, by rw [h k (Table.lt_next_of_get he), he], fun _ _ h => h⟩

/-- Marking an enrollment paid does not disturb a paid one. -/
theorem keepsPaid_markEnrollmentPaid (t : Table Enrollment) (k amount : ℕ) (refId : String)
    (setPaidAmount : Bool) :
    KeepsPaid t (t.modify k (markEnrollmentPaid amount refId setPaidAmount)) := by
  intro j e he
  by_cases hj : j = k
  · subst hj
    refine ⟨_, by rw [Table.get_modify_self, he, Option.map_some], fun gp it hfor => ?_⟩
    exact ⟨hfor.competition, hfor.player, rfl, rfl⟩
  · exact ⟨e, by rw [Table.get_modify_of_ne hj, he], fun _ _ h => h⟩

theorem keepsPaid_settleKyorugi (i : PaymentIntent) (t : Table Enrollment) :
    KeepsPaid t (settleKyorugi i t) := by
  -- the bulk targets, one after the other, then the single one
  have hbulk : ∀ (es : List ℕ) (t : Table Enrollment), KeepsPaid t
      (es.foldl (fun t e => t.modify e (markEnrollmentPaid i.amount i.refId false)) t) := by
    intro es
    induction es with
    | nil => exact KeepsPaid.refl
    | cons e es ih => exact fun t => (keepsPaid_markEnrollmentPaid t e _ _ _).trans (ih _)
  unfold settleKyorugi
  dsimp only
  split
  · exact (hbulk _ t).trans (keepsPaid_markEnrollmentPaid _ _ _ _ _)
  · exact hbulk _ t

theorem HasEnrollments.keeps {gp : GroupRegistrationPayment} (h : HasEnrollments t gp)
    (hkeeps : KeepsPaid t t') : HasEnrollments t' gp := by
  obtain ⟨ids, es, hids, hnodup, hes, hall⟩ := h
  -- the rows of the listed keys, one by one
  have hrows : ∀ (ids : List ℕ) (es : List Enrollment) (items : List GroupItem),
      ids.map t.get = es.map some → List.Forall₂ (PaidFor gp) items es →
      ∃ es', ids.map t'.get = es'.map some ∧ List.Forall₂ (PaidFor gp) items es' := by
    intro ids
    induction ids with
    | nil =>
      intro es items hes hall
      obtain rfl : es = [] := by simpa using hes.symm
      exact ⟨[], rfl, hall⟩
    | cons id ids ih =>
      intro es items hes hall
      cases hall with
      | nil => simp at hes
      | cons hfor hall =>
        rw [List.map_cons, List.map_cons, List.cons.injEq] at hes
        obtain ⟨e', he', hpaid⟩ := hkeeps id _ hes.1
        obtain ⟨es', hes', hall'⟩ := ih _ _ hes.2 hall
        exact ⟨e' :: es', by rw [List.map_cons, List.map_cons, he', hes'],
          .cons (hpaid _ _ hfor) hall'⟩
  obtain ⟨es', hes', hall'⟩ := hrows ids es _ hes hall
  exact ⟨ids, es', hids, hnodup, hes', hall'⟩

end Enrollments

/-! ### One step -/

section Step

variable {s : State} {a : Action} {db' : Db}

theorem Effect.keepsPaid (h : Effect s a db') : KeepsPaid s.db.enrollments db'.enrollments := by
  cases h with
  | none | created | begun | blind | dispatched | verified | otherBank => exact .refl _
  | registered _ _ _ _ _ h =>
    cases h with
    | nothing | opened => exact .refl _
    | simulated coach compId items q coachName ref ids t hitems hloop =>
      exact keepsPaid_of_kept (createPaidEnrollments_ok hloop).2.2.1
  | settled _ _ _ _ _ _ _ _ _ _ _ h =>
    rw [h.enrollments]
    exact keepsPaid_settleKyorugi _ _
  | finalized k outcome tc bankId b pk i ids _ htask h =>
    rcases finalize_cases h with rfl | ⟨g, gp, -, -, -, -, hfin⟩
    · exact .refl _
    · exact keepsPaid_of_kept hfin.kept

/-- A finalised group has its enrollments. -/
theorem Finalizes.hasEnrollments {g : ℕ} {gp : GroupRegistrationPayment} {ids : List ℕ} {db : Db}
    (h : Finalizes g gp ids db db') (refCode : String) (now : Time) :
    HasEnrollments db'.enrollments (gp.finalized refCode ids now) := by
  -- the new keys are consecutive, hence distinct
  obtain ⟨es, hes, hall, -⟩ := h.created
  refine ⟨ids, es, rfl, ?_, hes, hall.imp fun it e hfor => ?_⟩
  · rw [h.ids_eq]
    exact List.nodup_range'
  · exact ⟨hfor.competition, hfor.player, hfor.isPaid, hfor.status⟩

/-- A paid group after an effect was paid before, or has just got its enrollments. -/
theorem Effect.paid_group (h : Effect s a db') {g : ℕ} {gp' : GroupRegistrationPayment}
    (hgp' : db'.groups.get g = some gp') (hpaid : gp'.isPaid = true) :
    s.db.groups.get g = some gp' ∨ HasEnrollments db'.enrollments gp' := by
  cases h with
  | none | created | begun | blind | dispatched | verified | otherBank => exact Or.inl hgp'
  | registered _ _ _ _ _ h =>
    cases h with
    | nothing => exact Or.inl hgp'
    | simulated coach compId items q coachName ref ids t hitems hloop =>
      rcases Table.get_insert_cases hgp' with hold | ⟨-, rfl⟩
      · exact Or.inl hold
      · -- the enrollments were created with the group
        obtain ⟨hids, -, -, es, hes, -, hall⟩ := createPaidEnrollments_ok hloop
        refine Or.inr ⟨ids, es, rfl, ?_, hes, hall.imp fun it e hfor => ?_⟩
        · rw [hids]
          exact List.nodup_range'
        · exact ⟨hfor.competition, hfor.player, hfor.isPaid, hfor.status⟩
    | opened coach compId items q gateway =>
      rcases Table.get_insert_cases hgp' with hold | ⟨-, rfl⟩
      · exact Or.inl hold
      · cases hpaid
  | settled _ _ _ _ _ _ _ _ _ _ _ h =>
    rw [h.groups] at hgp'
    exact Or.inl hgp'
  | finalized k outcome tc bankId b pk i ids _ htask h =>
    rcases finalize_cases h with rfl | ⟨g', gp, -, -, -, -, hfin⟩
    · exact Or.inl hgp'
    · obtain ⟨refCode, now, hgroups⟩ := hfin.group
      rw [hgroups] at hgp'
      -- the group was paid now, and its enrollments created
      rcases Table.get_modify_cases hgp' with hold | ⟨-, _, -, rfl⟩
      · exact Or.inl hold
      · exact Or.inr (hfin.hasEnrollments refCode now)

theorem groupsRegistered_step (a : Action) (s : State) (hs : GroupsRegistered s.db) :
    GroupsRegistered (step a s).db := by
  intro g gp' hgp' hpaid
  rcases (step_effect a s).paid_group hgp' hpaid with hold | hnew
  · exact (hs g gp' hold hpaid).keeps (step_effect a s).keepsPaid
  · exact hnew

/-- A paid group stays paid. -/
theorem Effect.group_isPaid (h : Effect s a db') {g : ℕ} {gp : GroupRegistrationPayment}
    (hgp : s.db.groups.get g = some gp) (hpaid : gp.isPaid = true) :
    db'.groups.get g = some gp := by
  cases h with
  | none | created | begun | blind | dispatched | verified | otherBank => exact hgp
  | registered _ _ _ _ _ h =>
    cases h with
    | nothing => exact hgp
    | simulated => exact Table.get_insert_of_get hgp
    | opened => exact Table.get_insert_of_get hgp
  | settled _ _ _ _ _ _ _ _ _ _ _ h => rw [h.groups, hgp]
  | finalized k outcome tc bankId b pk i ids _ htask h =>
    rcases finalize_cases h with rfl | ⟨g', gp₁, -, hgp₁, hopen, -, hfin⟩
    · exact hgp
    · -- the group that is finalised was open
      have hg : g ≠ g' := by
        rintro rfl
        obtain rfl : gp = gp₁ := Option.some.inj (hgp.symm.trans hgp₁)
        simp [hpaid] at hopen
      obtain ⟨refCode, now, hgroups⟩ := hfin.group
      rw [hgroups, Table.get_modify_of_ne hg, hgp]

end Step

/-! ### The end of the paying request -/

/-- The route goes on to finalise the group. -/
def Notice.finalizes : Notice → Bool
  | .result _ _ _ => true
  | _ => false

/-- The action is the last piece of a request that pays the intent: the locked block of the
free or dummy branch or of the callback, which turns the intent into a paid one, or the
finalisation that follows the locked block of the result redirect. -/
inductive EndsPaying (s : State) (pk : ℕ) : Action → Prop
  | block (k : ℕ) (outcome : GatewayOutcome) (t : Task) (n : Notice)
      (htask : s.tasks.get k = some t) (hnotice : t.notice = some (n, pk))
      (hroute : n.finalizes = false) (hunpaid : ¬ s.db.Paid pk)
      (hpaid : (step (.resume k outcome) s).db.Paid pk) : EndsPaying s pk (.resume k outcome)
  | result (k : ℕ) (outcome : GatewayOutcome) (tc : String) (bankId : ℕ) (b : Bank)
      (i : PaymentIntent) (htask : s.tasks.get k = some (.resultFinalize tc bankId b pk i)) :
      EndsPaying s pk (.resume k outcome)

/-- **Registered after paying.** In every state that a run reaches from a coherent one with
linked and registered groups: when the last piece of a request that pays the intent of a
group has run, the group is registered exactly when it was paid already, or the request
is a result redirect and the group is finalizable. -/
theorem registered_after_paying_iff {s₀ : State} (hs : Coherent s₀) (hlinks : GroupLinks s₀.db)
    (hregistered : GroupsRegistered s₀.db) (acts : List Action) {s : State}
    (hreached : s = run step s₀ acts) {pk g : ℕ} {row : PaymentIntent}
    {gp : GroupRegistrationPayment} (hrow : s.db.intents.get pk = some row)
    (horigin : row.origin = .group g) (hgp : s.db.groups.get g = some gp) {a : Action}
    (hends : EndsPaying s pk a) :
    Registered (step a s).db g ↔
      gp.isPaid = true ∨ ∃ k outcome tc bankId b i, a = .resume k outcome ∧
        s.tasks.get k = some (.resultFinalize tc bankId b pk i) ∧
        Finalizable s.registry s.now (finalizeRefCode b tc) s.db gp := by
  have hcoherent : Coherent s := hreached ▸ coherent_run hs acts
  have hlinks' : GroupLinks s.db := hreached ▸
    run_invariant (I := fun s => GroupLinks s.db) (fun a s => groupLinks_step a s) hlinks acts
  have hregistered' : GroupsRegistered s.db := hreached ▸
    run_invariant (I := fun s => GroupsRegistered s.db) (fun a s => groupsRegistered_step a s)
      hregistered acts
  have hafter := groupsRegistered_step a s hregistered'
  obtain ⟨hdesc, gp₁, hgp₁, -, hitems⟩ := hlinks'.group pk row g hrow horigin
  obtain rfl : gp = gp₁ := Option.some.inj (hgp.symm.trans hgp₁)
  -- a copy of the intent names the group, as the row does
  have hname : ∀ {k tc bankId b i}, s.tasks.get k = some (.resultFinalize tc bankId b pk i) →
      groupId i.description = some g := by
    intro k tc bankId b i htask
    obtain ⟨-, row', hrow', hfrozen⟩ := hcoherent.task k _ htask
    obtain rfl : row = row' := Option.some.inj (hrow.symm.trans hrow')
    rw [← PaymentIntent.description_of_frozen hfrozen, hdesc, groupId_groupDescription]
  constructor
  · rintro ⟨gp', hgp', hpaid', -⟩
    by_cases hpaid : gp.isPaid = true
    · exact Or.inl hpaid
    · rw [Bool.not_eq_true] at hpaid
      obtain ⟨k, outcome, tc, bankId, b, pk', i, ids, rfl, htask, -, hfin⟩ :=
        (step_effect a s).completes hgp hpaid hgp' hpaid'
      -- the finalisation is the one of the request at hand
      obtain rfl : pk' = pk := by
        cases hends with
        | block _ _ t n htask' hnotice =>
          obtain rfl : t = _ := Option.some.inj (htask'.symm.trans htask)
          cases hnotice
        | result _ _ tc' bankId' b' i' htask' =>
          have hsame := htask'.symm.trans htask
          cases hsame
          rfl
      exact Or.inr ⟨k, outcome, tc, bankId, b, i, rfl, htask,
        (finalize_returns_iff (hname htask) hgp hpaid hitems).mp ⟨_, hfin⟩⟩
  · rintro (hpaid | ⟨k, outcome, tc, bankId, b, i, rfl, htask, hfinalizable⟩)
    · have hgp' := (step_effect a s).group_isPaid hgp hpaid
      exact ⟨gp, hgp', hpaid, hafter g gp hgp' hpaid⟩
    · by_cases hpaid : gp.isPaid = true
      · have hgp' := (step_effect (.resume k outcome) s).group_isPaid hgp hpaid
        exact ⟨gp, hgp', hpaid, hafter g gp hgp' hpaid⟩
      · rw [Bool.not_eq_true] at hpaid
        obtain ⟨⟨ids, db'⟩, hfin⟩ :=
          (finalize_returns_iff (hname htask) hgp hpaid hitems).mpr hfinalizable
        -- the finalisation returns, so its exception handler is not reached
        have hdb : (step (.resume k outcome) s).db = db' := by
          rw [step_resume_db htask]
          simp only [perform, resultFinalize, hfin]
        have hfinalizes := finalize_ok (hname htask) hgp hpaid hitems hfin
        obtain ⟨refCode, now, hgroups⟩ := hfinalizes.group
        rw [hdb]
        exact ⟨gp.finalized refCode ids now,
          by rw [hgroups, Table.get_modify_self, hgp, Option.map_some], rfl,
          hfinalizes.hasEnrollments refCode now⟩

/-! ### The group of two students -/

/-- Paid through the result redirect, the group is registered. -/
theorem registered_after_result :
    let s := run step pendingGroup (payAndReturn 7 "g1")
    EndsPaying s 1 (.resume 2 (.error false "")) ∧
      Registered (step (.resume 2 (.error false "")) s).db 1 := by
  intro s
  have hregistered : GroupsRegistered pendingGroup.db :=
    Table.forall_insert Table.forall_empty nofun
  obtain ⟨bankId, b, i, htask⟩ :
      ∃ bankId b i, s.tasks.get 2 = some (.resultFinalize "111" bankId b 1 i) := ⟨_, _, _, rfl⟩
  obtain ⟨row, hrow, horigin⟩ : ∃ row, s.db.intents.get 1 = some row ∧ row.origin = .group 1 :=
    ⟨_, rfl, rfl⟩
  -- both students have a profile and a date in ISO form
  have hfinalizable (ref : String) : Finalizable s.registry s.now ref s.db pendingPair := by
    refine ⟨default, rfl, fun j it hit => ?_, rfl⟩
    have hdate : it.insuranceIssueDate = "2025-03-01" := by
      rcases j with _ | _ | j <;> cases hit <;> rfl
    refine ⟨⟨default, rfl⟩, ?_⟩
    rw [hdate]
    exact ⟨_, rfl, rfl, rfl⟩
  have hends : EndsPaying s 1 (.resume 2 (.error false "")) := .result 2 _ "111" bankId b i htask
  exact ⟨hends, (registered_after_paying_iff coherent_pendingGroup groupLinks_pendingGroup
    hregistered (payAndReturn 7 "g1") rfl hrow horigin rfl hends).mpr
    (Or.inr ⟨2, _, "111", bankId, b, i, rfl, htask, hfinalizable _⟩)⟩

/-- Paid through the gateway callback, it is not: the intent is paid, and the group stays
open without enrollments. -/
theorem unregistered_after_callback :
    let s := run step pendingGroup
      [.start { (default : StartRequest) with user := 7, publicId := "g1" },
        .resume 1 (.ready { (default : Bank) with trackingCode := "111" } .null),
        .resume 1 (.error false ""),
        .verify 1 { (default : BankUpdate) with isSuccess := true, status := "Complete" },
        .callbackRequest "sadad" (some "111") none]
    let s' := step (.resume 2 (.error false "")) s
    (¬ s.db.Paid 1 ∧ s'.db.Paid 1) ∧
      (s'.db.intents.get 1).map PaymentIntent.origin = some (.group 1) ∧
      (s'.db.groups.get 1).map GroupRegistrationPayment.isPaid = some false ∧
      ¬ Registered s'.db 1 := by
  refine ⟨by decide, by decide, by decide, ?_⟩
  rintro ⟨gp, hgp, hpaid, -⟩
  cases hgp
  cases hpaid

end Tkdchb
