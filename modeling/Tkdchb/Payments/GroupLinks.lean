import Tkdchb.Payments.Coherence

/-!
# Which intent completes a group

A group payment and its intent are tied by a piece of text: the intent's description ends
in `GP#` and the number of the group, and the finalisation searches the description for
it. `create_intent` stores whatever description the client sends. As long as no client
sends one that names a group, a group is completed only by the intent that was created
for it, and this intent is over the group's amount.

## Main definitions

* `GroupLinks` — intents of groups name their groups, and carry their amounts
* `ApiPlain` — the intents of `create_intent` name no group
* `NamesNoGroup` — a request to `create_intent` whose description names no group

## Main results

* `groupLinks_step`, `apiPlain_step` — one step
* `completed_by_own_intent` — every run of such requests
* `completed_by_foreign_intent` — a description that names a group
-/

namespace Tkdchb

open Transition Web

/-- Intents created for a group name it in their description, carry its amount, and there
is at most one for each group. -/
structure GroupLinks (db : Db) : Prop where
  group : ∀ pk i g, db.intents.get pk = some i → i.origin = .group g →
    i.description = groupDescription g ∧
      ∃ gp, db.groups.get g = some gp ∧ gp.totalAmount = i.amount ∧ gp.payload.items ≠ []
  unique : ∀ pk pk' i i' g, db.intents.get pk = some i → db.intents.get pk' = some i' →
    i.origin = .group g → i'.origin = .group g → pk = pk'

/-- Intents created by clients name no group. -/
def ApiPlain (db : Db) : Prop :=
  ∀ pk i, db.intents.get pk = some i → i.origin = .api → groupId i.description = none

/-- The description of a new intent names no group: it has no `GP#` with a number after
it. Other actions are not restricted. -/
def NamesNoGroup (a : Action) (_ : State) : Prop :=
  match a with
  | .createIntent _ _ data => groupId (Text.strip (data.description.getD "")) = none
  | _ => True

section Step

variable {s : State} {a : Action} {g : ℕ}

theorem PaymentIntent.origin_of_frozen {i i' : PaymentIntent} (h : i'.frozen = i.frozen) :
    i'.origin = i.origin :=
  Table.eq_of_view (g := PaymentIntent.origin) h fun _ => rfl

theorem PaymentIntent.description_of_frozen {i i' : PaymentIntent} (h : i'.frozen = i.frozen) :
    i'.description = i.description :=
  Table.eq_of_view (g := PaymentIntent.description) h fun _ => rfl

theorem GroupRegistrationPayment.totalAmount_of_frozen {gp gp' : GroupRegistrationPayment}
    (h : gp'.frozen = gp.frozen) : gp'.totalAmount = gp.totalAmount :=
  Table.eq_of_view (g := GroupRegistrationPayment.totalAmount) h fun _ => rfl

theorem GroupRegistrationPayment.items_of_frozen {gp gp' : GroupRegistrationPayment}
    (h : gp'.frozen = gp.frozen) : gp'.payload.items = gp.payload.items :=
  Table.eq_of_view (g := fun gp => gp.payload.items) h fun _ => rfl

/-- An intent of group `g` after a step: it was one before, or it is new and so is the
group. -/
theorem groupIntent_cases {pk : ℕ} {i' : PaymentIntent}
    (hi' : (step a s).db.intents.get pk = some i') (horigin : i'.origin = .group g) :
    (∃ i, s.db.intents.get pk = some i ∧ i'.frozen = i.frozen ∧ i.origin = .group g) ∨
    pk = s.db.intents.next ∧ g = s.db.groups.next ∧ i'.description = groupDescription g ∧
      ∃ gp, (step a s).db.groups.get g = some gp ∧ gp.totalAmount = i'.amount ∧
        gp.payload.items ≠ [] := by
  rcases (step_effect a s).intent_cases hi' with ⟨i, hi, hfrozen, -⟩ | ⟨hpk, hnew⟩
  · exact Or.inl ⟨i, hi, hfrozen, (PaymentIntent.origin_of_frozen hfrozen).symm.trans horigin⟩
  · right
    generalize hdb : (step a s).db = db' at hnew ⊢
    cases hnew with
    | api => cases horigin
    | group user publicId key data coach compId items q gateway _ hitems hgroups =>
      obtain ⟨hamount, hdesc, horigin', -⟩ :=
        groupIntent_spec s.settings user publicId gateway s.db.groups.next q
      -- the handler inserts the group and its intent together
      obtain rfl : s.db.groups.next = g := Origin.group.inj (horigin'.symm.trans horigin)
      refine ⟨hpk, rfl, hdesc, newGroup coach compId items q s.now, ?_, hamount.symm, hitems⟩
      rw [hgroups, Table.get_insert_next]

theorem groupLinks_step (a : Action) (s : State) (hs : GroupLinks s.db) :
    GroupLinks (step a s).db := by
  constructor
  · intro pk i' g hi' horigin
    rcases groupIntent_cases hi' horigin with ⟨i, hi, hfrozen, hold⟩ | ⟨-, -, hdesc, hgp⟩
    · obtain ⟨hdesc, gp, hgp, hamount, hitems⟩ := hs.group pk i g hi hold
      obtain ⟨gp', hgp', hkept⟩ := (step_effect a s).keeps_groups g gp hgp
      refine ⟨(PaymentIntent.description_of_frozen hfrozen).trans hdesc, gp', hgp', ?_, ?_⟩
      · rw [GroupRegistrationPayment.totalAmount_of_frozen hkept, hamount,
          PaymentIntent.amount_of_frozen hfrozen]
      · rwa [GroupRegistrationPayment.items_of_frozen hkept]
    · exact ⟨hdesc, hgp⟩
  · -- an old intent cannot be one of a group that is only now created
    have hfresh : ∀ pk i, s.db.intents.get pk = some i → i.origin ≠ .group s.db.groups.next := by
      intro pk i hi horigin
      obtain ⟨-, gp, hgp, -⟩ := hs.group pk i _ hi horigin
      exact (Table.lt_next_of_get hgp).false
    intro pk pk' i' j' g hi' hj' hio hjo
    rcases groupIntent_cases hi' hio with ⟨i, hi, -, hold⟩ | ⟨hpk, hg, -⟩ <;>
      rcases groupIntent_cases hj' hjo with ⟨j, hj, -, hold'⟩ | ⟨hpk', hg', -⟩
    · exact hs.unique pk pk' i j g hi hj hold hold'
    · exact absurd (hg' ▸ hold) (hfresh pk i hi)
    · exact absurd (hg ▸ hold') (hfresh pk' j hj)
    · rw [hpk, hpk']

theorem apiPlain_step (hnames : NamesNoGroup a s) (hs : ApiPlain s.db) :
    ApiPlain (step a s).db := by
  intro pk i' hi' horigin
  rcases (step_effect a s).intent_cases hi' with ⟨i, hi, hfrozen, -⟩ | ⟨-, hnew⟩
  · rw [PaymentIntent.description_of_frozen hfrozen]
    exact hs pk i hi ((PaymentIntent.origin_of_frozen hfrozen).symm.trans horigin)
  · cases hnew with
    | api user publicId data v competition d _ hdesc =>
      have hplain : groupId (Text.strip (data.description.getD "")) = none := hnames
      rw [← hdesc] at hplain
      exact hplain
    | group user publicId key data coach compId items q gateway =>
      rw [(groupIntent_spec s.settings user publicId gateway s.db.groups.next q).2.2.1] at horigin
      cases horigin

/-- Only a finalisation turns an open group into a paid one, and it is called with an
intent that names the group. -/
theorem Effect.completes {db' : Db} (h : Effect s a db') {gp gp' : GroupRegistrationPayment}
    (hgp : s.db.groups.get g = some gp) (hopen : gp.isPaid = false)
    (hgp' : db'.groups.get g = some gp') (hpaid : gp'.isPaid = true) :
    ∃ k outcome tc bankId b pk i ids, a = .resume k outcome ∧
      s.tasks.get k = some (.resultFinalize tc bankId b pk i) ∧
      groupId i.description = some g ∧
      finalizeGroupPaymentIfNeeded s.registry s.now i (finalizeRefCode b tc) s.db =
        .ok (ids, db') := by
  -- an unchanged row would still be open
  have hsame (hget : db'.groups.get g = some gp) : False := by
    obtain rfl : gp = gp' := Option.some.inj (hget.symm.trans hgp')
    simp [hopen] at hpaid
  cases h with
  | none | created | begun | blind | dispatched | verified | otherBank => exact (hsame hgp).elim
  | registered _ _ _ _ _ h =>
    cases h with
    | nothing => exact (hsame hgp).elim
    | simulated => exact (hsame (Table.get_insert_of_get hgp)).elim
    | opened => exact (hsame (Table.get_insert_of_get hgp)).elim
  | settled _ _ _ _ _ _ _ _ _ _ _ h => exact (hsame (by rw [h.groups, hgp])).elim
  | finalized k outcome tc bankId b pk i ids _ htask h =>
    rcases finalize_cases h with rfl | ⟨g', gp₁, hname, hgp₁, -, -, hfin⟩
    · exact (hsame hgp).elim
    · by_cases hg : g = g'
      · subst hg
        exact ⟨k, outcome, tc, bankId, b, pk, i, ids, rfl, htask, hname, h⟩
      · obtain ⟨refCode, now, hgroups⟩ := hfin.group
        exact (hsame (by rw [hgroups, Table.get_modify_of_ne hg, hgp])).elim

end Step

/-! ### Runs -/

/-- **A group is completed by its own intent.** Start from a coherent state whose intents are
linked to their groups, and take any run whose requests to `create_intent` name no group.
Whenever a step of the run turns an open group into a paid one, it is the finalisation at
the end of `payment_result_redirect`, and the intent it works for is the one and only
intent that was created for the group, over the group's total amount. -/
theorem completed_by_own_intent {s : State} (hs : Coherent s) (hlinks : GroupLinks s.db)
    (hplain : ApiPlain s.db) (acts : List Action) (hnames : Along step NamesNoGroup s acts)
    (front : List Action) (a : Action) (back : List Action) (hacts : acts = front ++ a :: back)
    (g : ℕ) (gp gp' : GroupRegistrationPayment)
    (hgp : (run step s front).db.groups.get g = some gp) (hopen : gp.isPaid = false)
    (hgp' : (step a (run step s front)).db.groups.get g = some gp') (hpaid : gp'.isPaid = true) :
    ∃ k outcome tc bankId b pk i row, a = .resume k outcome ∧
      (run step s front).tasks.get k = some (.resultFinalize tc bankId b pk i) ∧
      (run step s front).db.intents.get pk = some row ∧ row.origin = .group g ∧
      row.amount = gp.totalAmount ∧
      ∀ pk' row', (run step s front).db.intents.get pk' = some row' → row'.origin = .group g →
        pk' = pk := by
  subst hacts
  have hcoherent := coherent_run hs front
  have hlinks' : GroupLinks (run step s front).db :=
    run_invariant (I := fun s => GroupLinks s.db) (fun a s => groupLinks_step a s) hlinks front
  have hplain' : ApiPlain (run step s front).db :=
    (along_append.mp hnames).1.invariant (I := fun s => ApiPlain s.db)
      (fun a s => apiPlain_step) hplain
  obtain ⟨k, outcome, tc, bankId, b, pk, i, ids, rfl, htask, hname, -⟩ :=
    (step_effect a _).completes hgp hopen hgp' hpaid
  obtain ⟨-, row, hrow, hfrozen⟩ := hcoherent.task k _ htask
  -- the copy the finalisation holds names the group its row names
  rw [← PaymentIntent.description_of_frozen hfrozen] at hname
  refine ⟨k, outcome, tc, bankId, b, pk, i, row, rfl, htask, hrow, ?_⟩
  cases horigin : row.origin with
  | api =>
    rw [hplain' pk row hrow horigin] at hname
    cases hname
  | group g' =>
    obtain ⟨hdesc, gp₁, hgp₁, hamount, -⟩ := hlinks'.group pk row g' hrow horigin
    rw [hdesc, groupId_groupDescription] at hname
    obtain rfl : g' = g := Option.some.inj hname
    obtain rfl : gp = gp₁ := Option.some.inj (hgp.symm.trans hgp₁)
    exact ⟨rfl, hamount.symm, fun pk' row' hrow' horigin' =>
      hlinks'.unique pk' pk row' row g' hrow' hrow horigin' horigin⟩

/-! ### A group of two students -/

/-- An open group with its intent, ready to be paid. -/
def pendingGroup : State :=
  { (default : State) with
    registry := openRegistry
    settings := { (default : Settings) with paymentsEnabled := true, sadadCredsOk := true }
    db := { (default : Db) with
      groups := Table.empty.insert pendingPair
      intents := Table.empty.insert
        (PaymentIntent.create "g1" 7 250001 250001 (groupDescription 1) "sadad" "" (.group 1)) } }

/-- A user pays an intent at the bank and comes back, up to the finalisation. -/
def payAndReturn (user : ℕ) (publicId : String) : List Action :=
  [.start { (default : StartRequest) with user := user, publicId := publicId },
    .resume 1 (.ready { (default : Bank) with trackingCode := "111" } .null),
    .resume 1 (.error false ""),
    .verify 1 { (default : BankUpdate) with isSuccess := true, status := "Complete" },
    .resultRequest "111", .resume 2 (.error false "")]

theorem coherent_pendingGroup : Coherent pendingGroup :=
  coherent_of_idle (fun _ => rfl) (Table.forall_insert Table.forall_empty rfl) fun _ => rfl

theorem groupLinks_pendingGroup : GroupLinks pendingGroup.db := by
  constructor
  · intro pk i g hi horigin
    rcases Table.get_insert_cases hi with hi | ⟨-, rfl⟩
    · cases hi
    · obtain rfl : 1 = g := Origin.group.inj horigin
      exact ⟨rfl, pendingPair, rfl, rfl, List.cons_ne_nil _ _⟩
  · intro pk pk' i i' g hi hi' _ _
    rcases Table.get_insert_cases hi with hi | ⟨hpk, -⟩
    · cases hi
    · rcases Table.get_insert_cases hi' with hi' | ⟨hpk', -⟩
      · cases hi'
      · rw [hpk, hpk']

/-- The coach pays, and the group is completed by its own intent. -/
theorem completed_by_own_intent_pair :
    ∃ k outcome tc bankId b pk i row, Action.resume 2 (.error false "") = .resume k outcome ∧
      (run step pendingGroup (payAndReturn 7 "g1")).tasks.get k =
        some (.resultFinalize tc bankId b pk i) ∧
      (run step pendingGroup (payAndReturn 7 "g1")).db.intents.get pk = some row ∧
      row.origin = .group 1 ∧ row.amount = pendingPair.totalAmount ∧
      ∀ pk' row', (run step pendingGroup (payAndReturn 7 "g1")).db.intents.get pk' = some row' →
        row'.origin = .group 1 → pk' = pk := by
  have hplain : ApiPlain pendingGroup.db := Table.forall_insert Table.forall_empty nofun
  have hnames : Along step NamesNoGroup pendingGroup
      (payAndReturn 7 "g1" ++ [.resume 2 (.error false "")]) :=
    ⟨trivial, trivial, trivial, trivial, trivial, trivial, trivial, trivial⟩
  exact completed_by_own_intent coherent_pendingGroup groupLinks_pendingGroup hplain _ hnames
    (payAndReturn 7 "g1") _ [] rfl 1 pendingPair _ rfl rfl rfl rfl

/-- Another user names the group in the description of a small intent, pays that, and the
group is completed. -/
theorem completed_by_foreign_intent :
    let data : InitiateData :=
      { (default : InitiateData) with amount := some 10000, description := some "GP#1" }
    let s := run step pendingGroup (.createIntent 9 "x9" data :: payAndReturn 9 "x9")
    let s' := step (.resume 2 (.error false "")) s
    ((s.db.groups.get 1).map GroupRegistrationPayment.isPaid = some false ∧
      (s'.db.groups.get 1).map GroupRegistrationPayment.isPaid = some true) ∧
    (∃ bankId b i, s.tasks.get 2 = some (.resultFinalize "111" bankId b 2 i)) ∧
    (s.db.intents.get 2).map (fun i => (i.origin, i.amount)) = some (.api, 10000) ∧
    (s.db.groups.get 1).map GroupRegistrationPayment.totalAmount = some 250001 :=
  ⟨by decide, ⟨_, _, _, rfl⟩, by decide, by decide⟩

end Tkdchb
