import Tkdchb.Payments.System

/-!
# Whether a paid intent stays paid

`mark_paid` never touches a paid intent, and the result redirect looks at the status it
has read. Three writes do not look at all: the locked write after the gateway has
answered or raised, the failure branch of the gateway callback, and the failure branch of
the result redirect, which looks at a copy. A paid intent stays paid exactly as long as
none of them meets it.

## Main definitions

* `Action.blindly` — the intent an action is about to write a status to without looking

## Main results

* `paid_step_iff` — one step keeps a paid intent paid
* `locks_of_newly_paid` — one step pays an intent
* `paid_forever_iff` — every run
-/

namespace Tkdchb

open Transition Web

/-- The intent whose status the action overwrites without looking at it. -/
def Action.blindly : Action → State → Option ℕ
  | .resume k _, s => (s.tasks.get k).bind fun t => t.blindWrite.map Prod.fst
  | _, _ => none

section Step

variable {s : State} {a : Action} {t : Task} {pk : ℕ} {db' : Db}

theorem CoachWrites.get_intent {cfg : Settings} {reg : Registry} {now : Time} {user : ℕ}
    {publicId : String} {db : Db} {i : PaymentIntent}
    (h : CoachWrites cfg reg now user publicId db db') (hrow : db.intents.get pk = some i) :
    db'.intents.get pk = some i := by
  cases h with
  | nothing => exact hrow
  | simulated => exact hrow
  | opened => exact Table.get_insert_of_get hrow

/-- An effect keeps a paid intent paid, unless it is a blind write to it. -/
theorem Effect.paid (h : Effect s a db') (hpaid : s.db.Paid pk) (hblind : a.blindly s ≠ some pk) :
    db'.Paid pk := by
  obtain ⟨i, hrow, hstatus⟩ := hpaid
  cases h with
  | none | dispatched | verified | otherBank => exact ⟨i, hrow, hstatus⟩
  | created => exact ⟨i, Table.get_insert_of_get hrow, hstatus⟩
  | registered user publicId key data _ h => exact ⟨i, h.get_intent hrow, hstatus⟩
  | begun rq gw callbackUrl pk' =>
    by_cases hpk : pk = pk'
    · subst hpk
      exact ⟨i.begun rq gw callbackUrl, by rw [Table.get_modify_self, hrow]; rfl, hstatus⟩
    · exact ⟨i, by rw [Table.get_modify_of_ne hpk, hrow], hstatus⟩
  | settled k outcome t n pk' row _ htask hnotice hrow' hunpaid h =>
    -- only unpaid intents are settled, so it was another one
    have hpk : pk ≠ pk' := by
      rintro rfl
      obtain rfl : i = row := Option.some.inj (hrow.symm.trans hrow')
      exact hunpaid hstatus
    exact ⟨i, by rw [h.get_of_ne hpk, hrow], hstatus⟩
  | blind k outcome t pk' f htask hwrite =>
    have hpk : pk ≠ pk' := by
      rintro rfl
      exact hblind (by simp [Action.blindly, htask, hwrite])
    exact ⟨i, by rw [Table.get_modify_of_ne hpk, hrow], hstatus⟩
  | finalized k outcome tc bankId b pk' i' ids _ htask h =>
    exact ⟨i, by rw [finalize_intents h, hrow], hstatus⟩

/-- A blind write to an intent leaves it unpaid. -/
theorem not_paid_of_blindly (h : a.blindly s = some pk) : ¬ (step a s).db.Paid pk := by
  cases a with
  | resume k outcome =>
    obtain ⟨t, htask, hmap⟩ := Option.bind_eq_some_iff.mp h
    obtain ⟨⟨pk', f⟩, hwrite, rfl⟩ := Option.map_eq_some_iff.mp hmap
    rw [step_resume_db htask, perform_of_blindWrite hwrite]
    -- the row it leaves is an image of the write
    rintro ⟨i, hrow, hstatus⟩
    rw [Table.get_modify_self] at hrow
    obtain ⟨j, -, rfl⟩ := Option.map_eq_some_iff.mp hrow
    exact Task.blindWrite_status hwrite j hstatus
  | _ => cases h

/-- A step keeps a paid intent paid exactly when it does not write to it blindly. -/
theorem paid_step_iff (hpaid : s.db.Paid pk) : (step a s).db.Paid pk ↔ a.blindly s ≠ some pk :=
  ⟨fun h hblind => not_paid_of_blindly hblind h, fun h => (step_effect a s).paid hpaid h⟩

/-- **Only a settlement pays.** An intent that a step turns into a paid one was there
unpaid, and the step is a notification for it whose target is clean. -/
theorem locks_of_newly_paid (hbefore : ¬ s.db.Paid pk) (hafter : (step a s).db.Paid pk) :
    ∃ n row, a.locks s = some (n, pk) ∧ s.db.intents.get pk = some row ∧ row.status ≠ .paid ∧
      TargetClean s.registry row s.db.poomsae := by
  -- no effect but a settlement leaves a paid row where there was none
  have hlocks : ∃ n row, a.locks s = some (n, pk) ∧ s.db.intents.get pk = some row ∧
      row.status ≠ .paid := by
    have heffect := step_effect a s
    obtain ⟨i, hi, hpaid⟩ := hafter
    generalize (step a s).db = db' at heffect hi
    cases heffect with
    | none | dispatched | verified | otherBank => exact absurd ⟨i, hi, hpaid⟩ hbefore
    | created =>
      rcases Table.get_insert_cases hi with hold | ⟨-, rfl⟩
      · exact absurd ⟨i, hold, hpaid⟩ hbefore
      · cases hpaid
    | registered user publicId key data _ hwrites =>
      cases hwrites with
      | nothing => exact absurd ⟨i, hi, hpaid⟩ hbefore
      | simulated => exact absurd ⟨i, hi, hpaid⟩ hbefore
      | opened coach compId items q gateway =>
        rcases Table.get_insert_cases hi with hold | ⟨-, rfl⟩
        · exact absurd ⟨i, hold, hpaid⟩ hbefore
        · rw [(groupIntent_spec s.settings user publicId gateway _ q).2.2.2.1] at hpaid
          cases hpaid
    | begun rq gw callbackUrl pk' =>
      rcases Table.get_modify_cases hi with hold | ⟨-, j, hj, rfl⟩
      · exact absurd ⟨i, hold, hpaid⟩ hbefore
      · exact absurd ⟨j, hj, hpaid⟩ hbefore
    | settled k outcome t n pk' row _ htask hnotice hrow hunpaid hset =>
      by_cases hpk : pk = pk'
      · subst hpk
        exact ⟨n, row, by simp [Action.locks, htask, hnotice], hrow, hunpaid⟩
      · rw [hset.get_of_ne hpk] at hi
        exact absurd ⟨i, hi, hpaid⟩ hbefore
    | blind k outcome t pk' f htask hwrite =>
      rcases Table.get_modify_cases hi with hold | ⟨-, j, hj, rfl⟩
      · exact absurd ⟨i, hold, hpaid⟩ hbefore
      · exact absurd hpaid (Task.blindWrite_status hwrite j)
    | finalized k outcome tc bankId b pk' j ids _ htask hfin =>
      rw [finalize_intents hfin] at hi
      exact absurd ⟨i, hi, hpaid⟩ hbefore
  obtain ⟨n, row, hlocks, hrow, hunpaid⟩ := hlocks
  refine ⟨n, row, hlocks, hrow, hunpaid, ?_⟩
  -- with an unclean target the block raises and writes nothing
  by_contra hclean
  rw [step_locks hlocks, afterNotice_of_not_clean hrow hunpaid hclean] at hafter
  exact hbefore hafter

end Step

/-! ### Runs -/

/-- **A paid intent stays paid** through a run exactly when no step of the run writes its
status blindly while it is paid. -/
theorem paid_forever_iff (s : State) (acts : List Action) (pk : ℕ) :
    (visited step s acts).Pairwise (fun x y => x.db.Paid pk → y.db.Paid pk) ↔
      Along step (fun a s => a.blindly s = some pk → ¬ s.db.Paid pk) s acts := by
  rw [pairwise_visited_iff]
  have hstep (a : Action) (s : State) : (s.db.Paid pk → (step a s).db.Paid pk) ↔
      (a.blindly s = some pk → ¬ s.db.Paid pk) := by
    constructor
    · intro hkeep hblind hpaid
      exact (paid_step_iff hpaid).mp (hkeep hpaid) hblind
    · intro hcond hpaid
      exact (paid_step_iff hpaid).mpr fun hblind => hcond hblind hpaid
  exact ⟨.mono fun a s => (hstep a s).mp, .mono fun a s => (hstep a s).mpr⟩

/-- A shop with payments switched on. -/
def openShop : State :=
  { (default : State) with
    settings := { (default : Settings) with
      paymentsEnabled := true, sadadCredsOk := true, returnUrl := "https://chbtkd.ir/pay" } }

/-- An intent of user 7 over 50,000 rials, not yet started. -/
def freshIntent : PaymentIntent :=
  PaymentIntent.create "a1" 7 50000 50000 "" "sadad" "" .api

/-- The start request of user 7. -/
def startFresh : StartRequest := { (default : StartRequest) with user := 7, publicId := "a1" }

/-- What the bank reports about a payment that went through. -/
def bankSuccess : BankUpdate :=
  { (default : BankUpdate) with isSuccess := true, status := "Complete" }

/-- Two tabs start the same intent; the second one's payment goes through and is settled
before the first one records its tracking code. -/
def twoTabs : List Action :=
  let bank (tc : String) : Bank := { (default : Bank) with trackingCode := tc }
  [.start startFresh, .start startFresh,
    .resume 1 (.ready (bank "111") .null), .resume 2 (.ready (bank "222") .null),
    .resume 2 (.error false ""),
    .verify 2 bankSuccess,
    .resultRequest "222", .resume 3 (.error false ""), .resume 3 (.error false ""),
    .resume 1 (.error false "")]

theorem not_paid_forever_twoTabs :
    let s : State := { openShop with
      db := { (default : Db) with intents := Table.empty.insert freshIntent } }
    ¬ (visited step s twoTabs).Pairwise fun x y => x.db.Paid 1 → y.db.Paid 1 := by
  decide

end Tkdchb
