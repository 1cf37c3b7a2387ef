import Tkdchb.Lib.SharedCounter
import Tkdchb.Payments.DiscountUse

/-!
# Two settlements at once

`mark_paid` holds the row lock of its intent, and of nothing else. It reads the discount
code, adds one in memory and writes the sum back, so two intents with the same code can
both read the counter before either writes it. Transactions see what others have
committed, and the write to the code is the last statement before the commit, so what a
call writes is shown to the others in one piece.

## Main definitions

* `RaceState`, `RaceAction`, `raceStep` — calls of `mark_paid`, cut where they touch the
  code
* `FreshWrite` — the write finds the counter as its call has read it
* `raceCounter` — what the run amounts to: clients of a shared counter

## Main results

* `raceStep_uninterrupted` — a call that nobody interrupts is the locked block
* `counter_raceStep` — the calls are clients of a shared counter
* `uses_counted_iff` — no use is lost exactly when every write is fresh
-/

namespace Tkdchb

open Transition

/-- A transaction that holds the lock of its intent. -/
inductive RaceTx where
  /-- it has read the row of the intent -/
  | locked (row : PaymentIntent) (n : Notice)
  /-- it has settled the targets and holds a copy of the discount code -/
  | counted (row : PaymentIntent) (n : Notice) (copy : Option DiscountCode)

/-- What is committed, and the transaction that holds the lock of an intent. -/
structure RaceState where
  intents : Table PaymentIntent
  codes : Table DiscountCode
  tx : ℕ → Option RaceTx

inductive RaceAction where
  /-- `select_for_update` on the intent -/
  | lock (pk : ℕ) (n : Notice)
  /-- `mark_paid` up to `dc = self.discount_code`; the targets may raise on the way -/
  | readCode (pk : ℕ) (raises : Bool)
  /-- `dc.save` and the commit -/
  | saveCode (pk : ℕ)

/-- The codes after `dc.save`, if the intent has a code. -/
def saveCopy (row : PaymentIntent) (copy : Option DiscountCode) (codes : Table DiscountCode) :
    Table DiscountCode :=
  match row.discountCode, copy with
  | some c, some dc => codes.modify c dc.saveUse
  | _, _ => codes

/-- One action. A call that finds the lock taken waits, that is, does nothing yet. -/
def raceStep : RaceAction → RaceState → RaceState
  | .lock pk n, s =>
    match s.tx pk, s.intents.get pk with
    | none, some row => { s with tx := Function.update s.tx pk (some (.locked row n)) }
    | _, _ => s
  | .readCode pk raises, s =>
    match s.tx pk with
    | some (.locked row n) =>
      -- a paid intent makes `mark_paid` return, an exception rolls the transaction back
      if row.status = .paid ∨ raises = true then { s with tx := Function.update s.tx pk none }
      else
        { s with
          tx := Function.update s.tx pk
            (some (.counted row n (row.discountCode.bind s.codes.get))) }
    | _ => s
  | .saveCode pk, s =>
    match s.tx pk with
    | some (.counted row n copy) =>
      { intents := s.intents.modify pk (n.settle row).saveSettled
        codes := saveCopy row copy s.codes
        tx := Function.update s.tx pk none }
    | _ => s

/-- The write of code `c` finds the counter as its call has read it. -/
def FreshWrite (c : ℕ) : RaceAction → RaceState → Prop
  | .saveCode pk, s => ∀ row n copy, s.tx pk = some (.counted row n (some copy)) →
      row.discountCode = some c → copy.usedCount = codeUses s.codes c
  | _, _ => True

/-! ### A call that nobody interrupts -/

/-- Saving the copy just read is counting one use. -/
theorem saveCopy_read (row : PaymentIntent) (codes : Table DiscountCode) :
    saveCopy row (row.discountCode.bind codes.get) codes = consumeCode row codes := by
  unfold saveCopy consumeCode
  cases hcode : row.discountCode with
  | none => rfl
  | some c =>
    cases hdc : codes.get c with
    | none =>
      simp only [Option.bind_some, hdc]
      exact (Table.modify_eq_self fun r hr => by simp [hdc] at hr).symm
    | some dc =>
      simp only [Option.bind_some, hdc]
      refine Table.modify_congr fun r hr => ?_
      obtain rfl : dc = r := Option.some.inj (hdc.symm.trans hr)
      rfl

/-- A call of `mark_paid` that nobody interrupts does to the intents and the codes what
the locked block does. -/
theorem raceStep_uninterrupted (reg : Registry) (now : Time) (pk : ℕ) (n : Notice) (db : Db)
    (tx : ℕ → Option RaceTx) (hfree : tx pk = none) (raises : Bool)
    (hraises : ∀ row, db.intents.get pk = some row →
      (raises = false ↔ TargetClean reg row db.poomsae)) :
    run raceStep ⟨db.intents, db.codes, tx⟩ [.lock pk n, .readCode pk raises, .saveCode pk] =
      ⟨(afterNotice reg now pk n db).intents, (afterNotice reg now pk n db).codes, tx⟩ := by
  -- afterwards the lock is free again
  have hclosed (x : Option RaceTx) :
      Function.update (Function.update tx pk x) pk none = tx := by
    rw [Function.update_idem, ← hfree, Function.update_eq_self]
  cases hrow : db.intents.get pk with
  | none =>
    have hblock : afterNotice reg now pk n db = db := by
      simp only [afterNotice, lockAndMarkPaid, hrow]
    simp only [run_cons, run_nil, raceStep, hfree, hrow, hblock]
  | some row =>
    simp only [run_cons, run_nil, raceStep, hfree, hrow, Function.update_self]
    by_cases hpaid : row.status = .paid
    · rw [afterNotice_of_paid hrow hpaid]
      simp only [hpaid, true_or, ↓reduceIte, hclosed, hfree]
    · cases raises with
      | true =>
        have hclean : ¬ TargetClean reg row db.poomsae := by
          simp [← hraises row hrow]
        rw [afterNotice_of_not_clean hrow hpaid hclean]
        simp only [or_true, ↓reduceIte, hclosed, hfree]
      | false =>
        have hclean := (hraises row hrow).mp rfl
        simp only [hpaid, Bool.false_eq_true, or_self, ↓reduceIte, Function.update_self,
          Function.update_idem, hclosed]
        rw [(settles_afterNotice hrow hpaid hclean).intents, codes_afterNotice hrow hpaid hclean,
          saveCopy_read]

/-! ### Clients of a shared counter -/

/-- The counter of code `c` in the copy a transaction holds. -/
def RaceTx.copyOf (c : ℕ) : RaceTx → Option ℕ
  | .counted row _ (some dc) => if row.discountCode = some c then some dc.usedCount else none
  | _ => none

/-- What the state amounts to, seen from code `c`: its counter, the copies of it, and the
intents with it that were paid since `s₀`. -/
def raceCounter (c : ℕ) (s₀ s : RaceState) : SharedCounter.State ℕ where
  value := codeUses s.codes c
  copy pk := (s.tx pk).bind (RaceTx.copyOf c)
  writes := newlyPaid c s₀.intents s.intents

/-- What an action amounts to. -/
def raceTrace (c : ℕ) : RaceAction → RaceState → Option (SharedCounter.Act ℕ)
  | .lock _ _, _ => none
  | .readCode pk raises, s =>
    match s.tx pk with
    | some (.locked row _) =>
      if row.status = .paid ∨ raises = true then none
      else if row.discountCode = some c then some (.read pk)
      else none
    | _ => none
  | .saveCode pk, s =>
    match s.tx pk with
    | some (.counted row _ _) => if row.discountCode = some c then some (.write pk) else none
    | _ => none

/-- What an action may do, and what it amounts to. -/
inductive RaceEffect (c : ℕ) (s : RaceState) : RaceState → Option (SharedCounter.Act ℕ) → Prop
  | none : RaceEffect c s s none
  | lock (pk : ℕ) (row : PaymentIntent) (n : Notice) (hfree : s.tx pk = Option.none)
      (hrow : s.intents.get pk = some row) :
      RaceEffect c s { s with tx := Function.update s.tx pk (some (.locked row n)) } Option.none
  | close (pk : ℕ) (row : PaymentIntent) (n : Notice) (htx : s.tx pk = some (.locked row n)) :
      RaceEffect c s { s with tx := Function.update s.tx pk Option.none } Option.none
  | read (pk : ℕ) (row : PaymentIntent) (n : Notice) (htx : s.tx pk = some (.locked row n))
      (hunpaid : row.status ≠ .paid) :
      RaceEffect c s
        { s with
          tx := Function.update s.tx pk
            (some (.counted row n (row.discountCode.bind s.codes.get))) }
        (if row.discountCode = some c then some (.read pk) else Option.none)
  | write (pk : ℕ) (row : PaymentIntent) (n : Notice) (copy : Option DiscountCode)
      (htx : s.tx pk = some (.counted row n copy)) :
      RaceEffect c s
        { intents := s.intents.modify pk (n.settle row).saveSettled
          codes := saveCopy row copy s.codes
          tx := Function.update s.tx pk Option.none }
        (if row.discountCode = some c then some (.write pk) else Option.none)

theorem raceStep_effect (c : ℕ) (a : RaceAction) (s : RaceState) :
    RaceEffect c s (raceStep a s) (raceTrace c a s) := by
  cases a with
  | lock pk n =>
    simp only [raceStep, raceTrace]
    split
    · next row hfree hrow => exact .lock pk row n hfree hrow
    · exact .none
  | readCode pk raises =>
    simp only [raceStep, raceTrace]
    split
    · next row n htx =>
      split_ifs with hover hcode
      · exact .close pk row n htx
      · have heffect := RaceEffect.read (c := c) pk row n htx fun hpaid => hover (Or.inl hpaid)
        rwa [if_pos hcode] at heffect
      · have heffect := RaceEffect.read (c := c) pk row n htx fun hpaid => hover (Or.inl hpaid)
        rwa [if_neg hcode] at heffect
    · exact .none
  | saveCode pk =>
    simp only [raceStep, raceTrace]
    split
    · next row n copy htx => exact .write pk row n copy htx
    · exact .none

/-- The invariant of a race for code `c` with cap `m`, since `s₀`. -/
structure RaceOk (c : ℕ) (m : Option ℕ) (s₀ s : RaceState) : Prop where
  /-- the row a transaction has read is the row it has locked -/
  locked : ∀ pk row n, s.tx pk = some (.locked row n) → s.intents.get pk = some row
  counted : ∀ pk row n copy, s.tx pk = some (.counted row n copy) →
    s.intents.get pk = some row ∧ row.status ≠ .paid ∧
      (row.discountCode = some c → ∃ dc, copy = some dc ∧ dc.maxUses = m)
  code : ∃ dc, s.codes.get c = some dc ∧ dc.maxUses = m
  /-- what was paid stays paid -/
  kept : paidWith c s₀.intents ⊆ paidWith c s.intents
  /-- the last write has looked at the cap -/
  inactive : newlyPaid c s₀.intents s.intents = 0 ∨
    ∀ dc, s.codes.get c = some dc → dc.exhausted = true → dc.active = false

section Write

variable {c pk : ℕ} {row : PaymentIntent} {n : Notice} {t : Table PaymentIntent}
  {codes : Table DiscountCode}

theorem get_saveCopy_of_ne {copy : Option DiscountCode} (h : row.discountCode ≠ some c) :
    (saveCopy row copy codes).get c = codes.get c := by
  unfold saveCopy
  split
  · next c' dc hcode =>
    refine Table.get_modify_of_ne ?_
    rintro rfl
    exact h hcode
  · rfl

theorem get_saveCopy_self {dc : DiscountCode} (h : row.discountCode = some c) :
    (saveCopy row (some dc) codes).get c = (codes.get c).map dc.saveUse := by
  simp only [saveCopy, h, Table.get_modify_self]

/-- A settlement adds its intent to the paid ones with its code. -/
theorem mem_paidWith_settle (hrow : t.get pk = some row) {j : ℕ} :
    j ∈ paidWith c (t.modify pk (n.settle row).saveSettled) ↔
      j ∈ paidWith c t ∨ j = pk ∧ row.discountCode = some c := by
  by_cases hj : j = pk
  · subst hj
    have hget : (t.modify j (n.settle row).saveSettled).get j = some (n.settle row) := by
      rw [Table.get_modify_self, hrow, Option.map_some, n.saveSettled_settle]
    simp only [mem_paidWith_iff, hget, hrow, Option.some.injEq, exists_eq_left',
      n.settle_discountCode, n.settle_status]
    tauto
  · simp only [mem_paidWith_iff, Table.get_modify_of_ne hj, hj, false_and, or_false]

theorem paidWith_settle_of_ne (hrow : t.get pk = some row) (h : row.discountCode ≠ some c) :
    paidWith c (t.modify pk (n.settle row).saveSettled) = paidWith c t := by
  ext j
  rw [mem_paidWith_settle hrow]
  simp only [h, and_false, or_false]

theorem newlyPaid_settle {t₀ : Table PaymentIntent} (hkept : paidWith c t₀ ⊆ paidWith c t)
    (hrow : t.get pk = some row) (hunpaid : row.status ≠ .paid) (h : row.discountCode = some c) :
    newlyPaid c t₀ (t.modify pk (n.settle row).saveSettled) = newlyPaid c t₀ t + 1 := by
  have hnew : paidWith c (t.modify pk (n.settle row).saveSettled) = insert pk (paidWith c t) := by
    ext j
    rw [mem_paidWith_settle hrow, Finset.mem_insert]
    simp only [h, and_true, or_comm]
  have hpk : pk ∉ paidWith c t := by
    intro hmem
    obtain ⟨i, hi, -, hpaid⟩ := mem_paidWith_iff.mp hmem
    obtain rfl : row = i := Option.some.inj (hrow.symm.trans hi)
    exact hunpaid hpaid
  rw [newlyPaid, hnew, Finset.insert_sdiff_of_notMem _ fun hmem => hpk (hkept hmem),
    Finset.card_insert_of_notMem fun hmem => hpk (Finset.mem_sdiff.mp hmem).1, newlyPaid]

end Write

/-- A transaction after an update is the new one or was there, for another intent. -/
theorem tx_update_cases {tx : ℕ → Option RaceTx} {pk j : ℕ} {x : Option RaceTx} {y : RaceTx}
    (h : Function.update tx pk x j = some y) : j = pk ∧ x = some y ∨ j ≠ pk ∧ tx j = some y := by
  by_cases hj : j = pk
  · subst hj
    rw [Function.update_self] at h
    exact Or.inl ⟨rfl, h⟩
  · rw [Function.update_of_ne hj] at h
    exact Or.inr ⟨hj, h⟩

theorem RaceOk.step {c : ℕ} {m : Option ℕ} {s₀ s : RaceState} (hs : RaceOk c m s₀ s)
    (a : RaceAction) : RaceOk c m s₀ (raceStep a s) := by
  have heffect := raceStep_effect c a s
  generalize raceStep a s = s', raceTrace c a s = b at heffect
  cases heffect with
  | none => exact hs
  | lock pk row n hfree hrow =>
    refine { hs with locked := fun j r n' h => ?_, counted := fun j r n' copy h => ?_ }
    · rcases tx_update_cases h with ⟨rfl, hx⟩ | ⟨-, hold⟩
      · cases hx
        exact hrow
      · exact hs.locked j r n' hold
    · rcases tx_update_cases h with ⟨-, hx⟩ | ⟨-, hold⟩
      · cases hx
      · exact hs.counted j r n' copy hold
  | close pk row n htx =>
    refine { hs with locked := fun j r n' h => ?_, counted := fun j r n' copy h => ?_ }
    · rcases tx_update_cases h with ⟨-, hx⟩ | ⟨-, hold⟩
      · cases hx
      · exact hs.locked j r n' hold
    · rcases tx_update_cases h with ⟨-, hx⟩ | ⟨-, hold⟩
      · cases hx
      · exact hs.counted j r n' copy hold
  | read pk row n htx hunpaid =>
    refine { hs with locked := fun j r n' h => ?_, counted := fun j r n' copy h => ?_ }
    · rcases tx_update_cases h with ⟨-, hx⟩ | ⟨-, hold⟩
      · cases hx
      · exact hs.locked j r n' hold
    · rcases tx_update_cases h with ⟨rfl, hx⟩ | ⟨-, hold⟩
      · cases hx
        refine ⟨hs.locked j row n htx, hunpaid, fun hcode => ?_⟩
        obtain ⟨dc, hdc, hmax⟩ := hs.code
        exact ⟨dc, by rw [hcode, Option.bind_some, hdc], hmax⟩
      · exact hs.counted j r n' copy hold
  | write pk row n copy htx =>
    obtain ⟨hrow, hunpaid, hcopy⟩ := hs.counted pk row n copy htx
    obtain ⟨dc₀, hdc₀, hmax₀⟩ := hs.code
    -- transactions on other intents, whose rows the write leaves alone
    have hother {j : ℕ} {y : RaceTx} (h : Function.update s.tx pk Option.none j = some y) :
        s.tx j = some y ∧ (s.intents.modify pk (n.settle row).saveSettled).get j =
          s.intents.get j := by
      rcases tx_update_cases h with ⟨-, hx⟩ | ⟨hj, hold⟩
      · cases hx
      · exact ⟨hold, Table.get_modify_of_ne hj⟩
    have hsub : paidWith c s.intents ⊆
        paidWith c (s.intents.modify pk (n.settle row).saveSettled) :=
      fun j hj => (mem_paidWith_settle hrow).mpr (Or.inl hj)
    -- the write is one of this code, with a copy in hand, or of another
    have hcode : (row.discountCode = some c ∧ ∃ dc, copy = some dc ∧ dc.maxUses = m) ∨
        row.discountCode ≠ some c := by
      by_cases h : row.discountCode = some c
      · exact Or.inl ⟨h, hcopy h⟩
      · exact Or.inr h
    refine ⟨fun j r n' h => ?_, fun j r n' copy' h => ?_, ?_, hs.kept.trans hsub, ?_⟩
    · obtain ⟨hold, hget⟩ := hother h
      exact hget.trans (hs.locked j r n' hold)
    · obtain ⟨hold, hget⟩ := hother h
      obtain ⟨hr, hrest⟩ := hs.counted j r n' copy' hold
      exact ⟨hget.trans hr, hrest⟩
    · rcases hcode with ⟨hcode, dc, rfl, -⟩ | hne
      · exact ⟨dc.saveUse dc₀, by rw [get_saveCopy_self hcode, hdc₀, Option.map_some],
          (dc.saveUse_maxUses dc₀).trans hmax₀⟩
      · exact ⟨dc₀, by rw [get_saveCopy_of_ne hne, hdc₀], hmax₀⟩
    · rcases hcode with ⟨hcode, dc, rfl, hmax⟩ | hne
      · refine Or.inr fun dc' hdc' hex => ?_
        rw [get_saveCopy_self hcode, hdc₀, Option.map_some] at hdc'
        cases hdc'
        exact DiscountCode.saveUse_inactive (hmax.trans hmax₀.symm) hex
      · rw [newlyPaid, paidWith_settle_of_ne hrow hne, get_saveCopy_of_ne hne]
        exact hs.inactive

/-- A transaction with another code holds no copy of this one. -/
theorem copyOf_counted_of_ne {c : ℕ} {row : PaymentIntent} {n : Notice}
    {copy : Option DiscountCode} (h : row.discountCode ≠ some c) :
    RaceTx.copyOf c (.counted row n copy) = none := by
  cases copy with
  | none => rfl
  | some dc => exact if_neg h

/-- The copies after an update of one transaction. -/
theorem copyOf_update (c : ℕ) (tx : ℕ → Option RaceTx) (pk : ℕ) (x : Option RaceTx) :
    (fun j => (Function.update tx pk x j).bind (RaceTx.copyOf c)) =
      Function.update (fun j => (tx j).bind (RaceTx.copyOf c)) pk (x.bind (RaceTx.copyOf c)) :=
  Function.comp_update (fun y : Option RaceTx => y.bind (RaceTx.copyOf c)) tx pk x

/-- An update that holds the same copy as before. -/
theorem copyOf_update_of_eq {c : ℕ} {tx : ℕ → Option RaceTx} {pk : ℕ} {x : Option RaceTx}
    (h : x.bind (RaceTx.copyOf c) = (tx pk).bind (RaceTx.copyOf c)) :
    (fun j => (Function.update tx pk x j).bind (RaceTx.copyOf c)) =
      fun j => (tx j).bind (RaceTx.copyOf c) := by
  rw [copyOf_update, h]
  exact Function.update_eq_self pk _

section Simulation

variable {c : ℕ} {m : Option ℕ} {s₀ s : RaceState}

/-- **Refinement.** Seen from one code, the calls are clients of a shared counter. -/
theorem counter_raceStep (hs : RaceOk c m s₀ s) (a : RaceAction) :
    raceCounter c s₀ (raceStep a s) =
      run SharedCounter.step (raceCounter c s₀ s) (raceTrace c a s).toList := by
  have heffect := raceStep_effect c a s
  generalize raceStep a s = s', raceTrace c a s = b at heffect
  cases heffect with
  | none => rfl
  | lock pk row n hfree hrow =>
    simp only [raceCounter, Option.toList_none, run_nil, SharedCounter.State.mk.injEq,
      true_and, and_true]
    exact copyOf_update_of_eq (by rw [hfree]; rfl)
  | close pk row n htx =>
    simp only [raceCounter, Option.toList_none, run_nil, SharedCounter.State.mk.injEq,
      true_and, and_true]
    exact copyOf_update_of_eq (by rw [htx]; rfl)
  | read pk row n htx hunpaid =>
    by_cases hcode : row.discountCode = some c
    · -- the copy is the counter as it is now
      obtain ⟨dc, hdc, -⟩ := hs.code
      simp only [raceCounter, if_pos hcode, Option.toList_some, run_cons, run_nil,
        SharedCounter.step, copyOf_update, SharedCounter.State.mk.injEq, true_and, and_true]
      simp only [hcode, Option.bind_some, hdc, RaceTx.copyOf, ↓reduceIte, codeUses,
        Option.map_some, Option.getD_some]
    · simp only [raceCounter, if_neg hcode, Option.toList_none, run_nil,
        SharedCounter.State.mk.injEq, true_and, and_true]
      refine copyOf_update_of_eq ?_
      rw [htx]
      exact copyOf_counted_of_ne hcode
  | write pk row n copy htx =>
    obtain ⟨hrow, hunpaid, hcopy⟩ := hs.counted pk row n copy htx
    by_cases hcode : row.discountCode = some c
    · obtain ⟨dc, rfl, -⟩ := hcopy hcode
      obtain ⟨dc₀, hdc₀, -⟩ := hs.code
      -- the client of the counter holds what the transaction has read
      have hheld : (raceCounter c s₀ s).copy pk = some dc.usedCount := by
        simp only [raceCounter, htx, Option.bind_some, RaceTx.copyOf, if_pos hcode]
      rw [if_pos hcode, Option.toList_some, run_cons, run_nil,
        SharedCounter.step_write_of_some hheld]
      simp only [raceCounter, copyOf_update, Option.bind_none, codeUses,
        get_saveCopy_self hcode, hdc₀, Option.map_some, Option.getD_some,
        dc.saveUse_usedCount dc₀, newlyPaid_settle hs.kept hrow hunpaid hcode]
    · simp only [raceCounter, if_neg hcode, Option.toList_none, run_nil,
        SharedCounter.State.mk.injEq, codeUses, get_saveCopy_of_ne hcode, newlyPaid,
        paidWith_settle_of_ne hrow hcode, true_and, and_true]
      refine copyOf_update_of_eq ?_
      rw [htx]
      exact (copyOf_counted_of_ne hcode).symm

/-- A write is fresh exactly when it is one of the shared counter. -/
theorem freshWrite_iff (hs : RaceOk c m s₀ s) (a : RaceAction) :
    FreshWrite c a s ↔
      ∀ b, raceTrace c a s = some b → SharedCounter.Fresh b (raceCounter c s₀ s) := by
  cases a with
  | lock pk n => exact iff_of_true trivial nofun
  | readCode pk raises =>
    refine iff_of_true trivial fun b hb => ?_
    simp only [raceTrace] at hb
    split at hb
    · split_ifs at hb
      cases hb
      trivial
    · cases hb
  | saveCode pk =>
    simp only [FreshWrite, raceTrace]
    constructor
    · -- the copy that is saved is the one that was read
      intro h b hb
      split at hb
      · next row n copy htx =>
        split_ifs at hb with hcode
        cases hb
        obtain ⟨dc, rfl, -⟩ := (hs.counted pk row n copy htx).2.2 hcode
        intro v hv
        simp only [raceCounter, htx, Option.bind_some, RaceTx.copyOf, if_pos hcode] at hv
        cases hv
        exact h row n dc htx hcode
      · cases hb
    · intro h row n dc htx hcode
      rw [htx] at h
      simp only [if_pos hcode] at h
      refine h _ rfl _ ?_
      simp only [raceCounter, htx, Option.bind_some, RaceTx.copyOf, if_pos hcode]

end Simulation

/-- Between two states every use of code `c` is counted, and if uses were counted up to
the cap the code is inactive. -/
structure UsesCounted (c : ℕ) (s t : RaceState) : Prop where
  count : codeUses t.codes c = codeUses s.codes c + newlyPaid c s.intents t.intents
  inactive : ∀ dc m, t.codes.get c = some dc → dc.maxUses = some m → 0 < m →
    0 < newlyPaid c s.intents t.intents →
    m ≤ codeUses s.codes c + newlyPaid c s.intents t.intents → dc.active = false

/-- **No use is lost** exactly when every write of the code finds the counter as its call
has read it: from a state without open transactions, for every interleaving of any number
of calls of `mark_paid` on any intents. -/
theorem uses_counted_iff {c : ℕ} {s : RaceState} {dc : DiscountCode}
    (hdc : s.codes.get c = some dc) (hidle : ∀ pk, s.tx pk = none) (acts : List RaceAction) :
    UsesCounted c s (run raceStep s acts) ↔ Along raceStep (FreshWrite c) s acts := by
  have hstart : RaceOk c dc.maxUses s s := by
    refine ⟨fun pk row n h => ?_, fun pk row n copy h => ?_, ⟨dc, hdc, rfl⟩,
      Finset.Subset.refl _, Or.inl (by simp [newlyPaid])⟩
    · simp [hidle] at h
    · simp [hidle] at h
  have hinv : ∀ a t, RaceOk c dc.maxUses s t → RaceOk c dc.maxUses s (raceStep a t) :=
    fun a t h => h.step a
  have hsim : ∀ a t, RaceOk c dc.maxUses s t → raceCounter c s (raceStep a t) =
      run SharedCounter.step (raceCounter c s t) (raceTrace c a t).toList :=
    fun a t h => counter_raceStep h a
  -- the count is that of the shared counter
  have hcount : codeUses (run raceStep s acts).codes c =
      codeUses s.codes c + newlyPaid c s.intents (run raceStep s acts).intents ↔
        Along raceStep (FreshWrite c) s acts := by
    have hcounter := SharedCounter.value_eq_iff_along_fresh (raceCounter c s s)
      (fun pk => by simp [raceCounter, hidle]) (transcript raceStep (raceTrace c) s acts)
      (by simp [raceCounter, newlyPaid])
    rw [← run_transcript hinv hsim hstart acts, along_transcript_iff hinv hsim hstart acts,
      ← along_congr hinv (fun a t h => freshWrite_iff h a) hstart acts] at hcounter
    exact hcounter
  refine ⟨fun h => hcount.mp h.count, fun h => ⟨hcount.mpr h, ?_⟩⟩
  -- after at least one write the cap has been looked at
  intro dc' m hdc' hmax hm hpos hreach
  have hend : RaceOk c dc.maxUses s (run raceStep s acts) := run_invariant hinv hstart acts
  refine hend.inactive.resolve_left hpos.ne' dc' hdc' ?_
  have huses : codeUses (run raceStep s acts).codes c = dc'.usedCount := by
    rw [codeUses, hdc', Option.map_some, Option.getD_some]
  rw [← hcount.mpr h, huses] at hreach
  by_contra hex
  have hlt := (DiscountCode.exhausted_eq_false_iff hmax hm).mp (by simpa using hex)
  omega

/-- Two intents that carry the same code, which may be used twice. -/
def sharedCode : RaceState where
  intents :=
    let intent (publicId : String) : PaymentIntent :=
      { PaymentIntent.create publicId 7 25000 50000 "" "sadad" "" .api with
        discountCode := some 1, discountAmount := 25000 }
    (Table.empty.insert (intent "a1")).insert (intent "b2")
  codes := Table.empty.insert
    { (default : DiscountCode) with
      code := "off50", percent := 50, maxUses := some 2, active := true }
  tx _ := none

/-- The result redirect with a successful payment. -/
def paidNotice (bankId : ℕ) (tc : String) : Notice :=
  .result bankId { (default : Bank) with trackingCode := tc, isSuccess := true } tc

theorem uses_counted_one_by_one :
    UsesCounted 1 sharedCode (run raceStep sharedCode
      [.lock 1 (paidNotice 1 "111"), .lock 2 (paidNotice 2 "222"), .readCode 1 false, .saveCode 1,
        .readCode 2 false, .saveCode 2]) := by
  refine (uses_counted_iff rfl (fun _ => rfl) _).mpr ?_
  refine ⟨trivial, trivial, trivial, fun row n copy htx _ => ?_, trivial,
    fun row n copy htx _ => ?_, trivial⟩
  all_goals
    cases htx
    rfl

theorem use_lost_side_by_side :
    ¬ UsesCounted 1 sharedCode (run raceStep sharedCode
      [.lock 1 (paidNotice 1 "111"), .lock 2 (paidNotice 2 "222"), .readCode 1 false,
        .readCode 2 false, .saveCode 1, .saveCode 2]) :=
  fun h => absurd h.count (by decide)

end Tkdchb
