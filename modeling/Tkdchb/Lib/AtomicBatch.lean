import Mathlib.Data.List.Nodup
import Mathlib.Data.Nat.Notation
import Mathlib.Tactic.Common

/-!
# A batch in one transaction, with messages on the way

A loop handles records one after another inside a transaction, and sends messages that no
rollback takes back. A record may end the loop by an exception. It may also spoil the
transaction, when a database error is swallowed: every later query fails, and the end of the
block rolls everything back. So what was sent matches what is committed exactly if nothing
disturbs the block and every row that was made had its message, or if something does and
nothing was sent before.

## Main definitions

* `AtomicBatch.Verdict` — what handling one record does
* `AtomicBatch.perform` — the loop in its transaction
* `AtomicBatch.handled` — the records up to the first that disturbs the block
* `AtomicBatch.Matches` — messages and report fit the committed tables

## Main results

* `AtomicBatch.ends_run` — what the loop leaves
* `AtomicBatch.matches_iff` — when messages and report fit
-/

namespace AtomicBatch

/-- What handling one record does in a transaction that is not spoiled. -/
inductive Verdict (σ : Type*) where
  /-- The loop goes on: a row may have been made, a message sent and the record counted. -/
  | passes (s : σ) (made : Option ℕ) (sent counted : Bool)
  /-- A database error is swallowed. -/
  | spoils (sent : Bool)
  /-- An exception leaves the block. -/
  | escapes (sent : Bool)

namespace Verdict

variable {σ : Type*}

@[simp] def goesOn : Verdict σ → Bool
  | passes .. => true
  | _ => false

@[simp] def made : Verdict σ → Option ℕ
  | passes _ made _ _ => made
  | _ => none

@[simp] def sent : Verdict σ → Bool
  | passes _ _ sent _ | spoils sent | escapes sent => sent

@[simp] def counted : Verdict σ → Bool
  | passes _ _ _ counted => counted
  | _ => false

end Verdict

/-- The block in progress. -/
structure Block (σ ι : Type*) where
  tables : σ
  /-- The rows that were made, by the records they are for. -/
  made : List (ι × ℕ)
  sent : List ι
  counted : ℕ
  failed : ℕ
  spoiled : Bool

/-- What is left after the block. -/
structure Result (σ ι : Type*) where
  tables : σ
  made : List (ι × ℕ)
  sent : List ι
  /-- The numbers of the report, if the code comes to it. -/
  reported : Option (ℕ × ℕ)

section Loop

variable {σ ι : Type*}

/-- One record. In a spoiled transaction its first query fails, and the exception leaves the
block or is swallowed like the first. -/
def step (act : σ → ι → Verdict σ) (lateEscapes : Bool) (b : Block σ ι) (r : ι) :
    Except (Block σ ι) (Block σ ι) :=
  if b.spoiled then
    if lateEscapes then .error b else .ok { b with failed := b.failed + 1 }
  else
    match act b.tables r with
    | .passes s made sent counted =>
      .ok { tables := s
            made := b.made ++ (made.map fun id => (r, id)).toList
            sent := b.sent ++ if sent then [r] else []
            counted := b.counted + if counted then 1 else 0
            failed := b.failed + if counted then 0 else 1
            spoiled := false }
    | .spoils sent =>
      .ok { b with
            sent := b.sent ++ if sent then [r] else []
            failed := b.failed + 1
            spoiled := true }
    | .escapes sent => .error { b with sent := b.sent ++ if sent then [r] else [] }

/-- The loop. -/
def run (act : σ → ι → Verdict σ) (lateEscapes : Bool) :
    Block σ ι → List ι → Except (Block σ ι) (Block σ ι)
  | b, [] => .ok b
  | b, r :: rest =>
    match step act lateEscapes b r with
    | .ok b => run act lateEscapes b rest
    | .error b => .error b

/-- The end of the block: what an exception leaves or what was spoiled is rolled back. -/
def finish (s : σ) : Except (Block σ ι) (Block σ ι) → Result σ ι
  | .ok b =>
    ⟨if b.spoiled then s else b.tables, b.made, b.sent, some (b.counted, b.failed)⟩
  | .error b => ⟨s, b.made, b.sent, none⟩

/-- The whole block. -/
def perform (act : σ → ι → Verdict σ) (lateEscapes : Bool) (s : σ) (batch : List ι) :
    Result σ ι :=
  finish s (run act lateEscapes ⟨s, [], [], 0, 0, false⟩ batch)

/-! ### The records that are handled -/

/-- The records up to the first that disturbs the block, with what each of them does in the
tables that the earlier ones leave. -/
def handled (act : σ → ι → Verdict σ) : σ → List ι → List (ι × Verdict σ)
  | _, [] => []
  | s, r :: rest =>
    (r, act s r) ::
      match act s r with
      | .passes s' _ _ _ => handled act s' rest
      | _ => []

/-- The tables after them. -/
def after (act : σ → ι → Verdict σ) : σ → List ι → σ
  | s, [] => s
  | s, r :: rest =>
    match act s r with
    | .passes s' _ _ _ => after act s' rest
    | _ => s

/-- An exception leaves the block. -/
def leaves (act : σ → ι → Verdict σ) (lateEscapes : Bool) : σ → List ι → Bool
  | _, [] => false
  | s, r :: rest =>
    match act s r with
    | .passes s' _ _ _ => leaves act lateEscapes s' rest
    | .spoils _ => lateEscapes && !rest.isEmpty
    | .escapes _ => true

def madeOf (h : List (ι × Verdict σ)) : List (ι × ℕ) :=
  h.flatMap fun x => (x.2.made.map fun id => (x.1, id)).toList

def sentOf (h : List (ι × Verdict σ)) : List ι := h.flatMap fun x => if x.2.sent then [x.1] else []

def countOf (h : List (ι × Verdict σ)) : ℕ := h.countP fun x => x.2.counted

/-- Nothing disturbs the block. -/
def Undisturbed (act : σ → ι → Verdict σ) (s : σ) (batch : List ι) : Prop :=
  ∀ x ∈ handled act s batch, x.2.goesOn = true

instance (act : σ → ι → Verdict σ) (s : σ) (batch : List ι) :
    Decidable (Undisturbed act s batch) :=
  inferInstanceAs (Decidable (∀ x ∈ _, _))

/-- The block that the loop has come to. -/
def blockOf : Except (Block σ ι) (Block σ ι) → Block σ ι
  | .ok b | .error b => b

def raised : Except (Block σ ι) (Block σ ι) → Bool
  | .ok _ => false
  | .error _ => true

variable {act : σ → ι → Verdict σ} {lateEscapes : Bool} {b : Block σ ι} {s : σ} {batch : List ι}

/-- What the loop leaves of a block that was not spoiled. -/
structure Ends (act : σ → ι → Verdict σ) (lateEscapes : Bool) (b : Block σ ι) (batch : List ι)
    (res : Except (Block σ ι) (Block σ ι)) : Prop where
  made : (blockOf res).made = b.made ++ madeOf (handled act b.tables batch)
  sent : (blockOf res).sent = b.sent ++ sentOf (handled act b.tables batch)
  counted : (blockOf res).counted = b.counted + countOf (handled act b.tables batch)
  escaped : raised res = leaves act lateEscapes b.tables batch
  rolledBack : (raised res = true ∨ (blockOf res).spoiled = true) ↔ ¬Undisturbed act b.tables batch
  tables : Undisturbed act b.tables batch → (blockOf res).tables = after act b.tables batch

/-- A spoiled block only loses records. -/
theorem run_of_spoiled (hb : b.spoiled = true) :
    raised (run act lateEscapes b batch) = (lateEscapes && !batch.isEmpty) ∧
      (blockOf (run act lateEscapes b batch)).spoiled = true ∧
      (blockOf (run act lateEscapes b batch)).made = b.made ∧
      (blockOf (run act lateEscapes b batch)).sent = b.sent ∧
      (blockOf (run act lateEscapes b batch)).counted = b.counted := by
  induction batch generalizing b with
  | nil => exact ⟨by simp [run, raised], hb, rfl, rfl, rfl⟩
  | cons r rest ih =>
    cases lateEscapes with
    | true =>
      have hstep : step act true b r = .error b := by simp [step, hb]
      rw [run, hstep]
      exact ⟨rfl, hb, rfl, rfl, rfl⟩
    | false =>
      have hstep : step act false b r = .ok { b with failed := b.failed + 1 } := by
        simp [step, hb]
      rw [run, hstep]
      exact @ih { b with failed := b.failed + 1 } hb

/-- The loop goes on with the tables of the record. -/
theorem handled_cons_of_passes {r : ι} {rest : List ι} {s' : σ} {made : Option ℕ}
    {sent counted : Bool} (h : act s r = .passes s' made sent counted) :
    handled act s (r :: rest) = (r, .passes s' made sent counted) :: handled act s' rest ∧
      (Undisturbed act s (r :: rest) ↔ Undisturbed act s' rest) := by
  have hhandled : handled act s (r :: rest) =
      (r, .passes s' made sent counted) :: handled act s' rest := by
    rw [handled, h]
  refine ⟨hhandled, ?_⟩
  rw [Undisturbed, hhandled, List.forall_mem_cons]
  exact and_iff_right rfl

/-- A record that disturbs the block is the last that is handled. -/
theorem handled_cons_of_stops {r : ι} {rest : List ι} (h : (act s r).goesOn = false) :
    handled act s (r :: rest) = [(r, act s r)] ∧ ¬Undisturbed act s (r :: rest) := by
  have hhandled : handled act s (r :: rest) = [(r, act s r)] := by
    rw [handled]
    cases hact : act s r with
    | passes => rw [hact] at h; cases h
    | spoils => rfl
    | escapes => rfl
  refine ⟨hhandled, fun hall => ?_⟩
  rw [Undisturbed, hhandled] at hall
  rw [hall _ List.mem_cons_self] at h
  cases h

/-- **What the loop leaves.** -/
theorem ends_run (hb : b.spoiled = false) :
    Ends act lateEscapes b batch (run act lateEscapes b batch) := by
  induction batch generalizing b with
  | nil =>
    refine ⟨?_, ?_, ?_, rfl, ?_, fun _ => rfl⟩
    · simp [run, blockOf, handled, madeOf]
    · simp [run, blockOf, handled, sentOf]
    · simp [run, blockOf, handled, countOf]
    · simp [run, blockOf, raised, handled, Undisturbed, hb]
  | cons r rest ih =>
    cases hact : act b.tables r with
    | passes s made sent counted =>
      -- the loop goes on with the tables of this record
      have hrest := @ih
        { tables := s
          made := b.made ++ (made.map fun id => (r, id)).toList
          sent := b.sent ++ if sent then [r] else []
          counted := b.counted + if counted then 1 else 0
          failed := b.failed + if counted then 0 else 1
          spoiled := false } rfl
      obtain ⟨hhandled, hundisturbed⟩ := @handled_cons_of_passes σ ι act b.tables r rest s made sent
        counted hact
      simp only [run, step, hb, hact, Bool.false_eq_true, if_false]
      refine ⟨?_, ?_, ?_, ?_, ?_, ?_⟩
      · rw [hrest.made, hhandled, madeOf, madeOf, List.flatMap_cons, List.append_assoc]
        rfl
      · rw [hrest.sent, hhandled, sentOf, sentOf, List.flatMap_cons, List.append_assoc]
        rfl
      · rw [hrest.counted, hhandled, countOf, countOf, List.countP_cons, Nat.add_assoc,
          Nat.add_comm (List.countP _ _)]
        rfl
      · rw [hrest.escaped, leaves, hact]
      · rw [hrest.rolledBack, hundisturbed]
      · intro hgoes
        rw [hrest.tables (hundisturbed.mp hgoes), after, hact]
    | spoils sent =>
      obtain ⟨hhandled, hdisturbed⟩ : _ ∧ ¬Undisturbed act b.tables (r :: rest) :=
        handled_cons_of_stops (by rw [hact]; rfl)
      obtain ⟨hraised, hspoiled, hmade, hsent, hcounted⟩ := @run_of_spoiled σ ι act lateEscapes
        { b with
          sent := b.sent ++ if sent then [r] else []
          failed := b.failed + 1
          spoiled := true } rest rfl
      rw [hact] at hhandled
      simp only [run, step, hb, hact, Bool.false_eq_true, if_false]
      refine ⟨?_, ?_, ?_, ?_, ?_, fun hgoes => absurd hgoes hdisturbed⟩
      · rw [hmade, hhandled]
        exact (List.append_nil _).symm
      · rw [hsent, hhandled, sentOf, List.flatMap_singleton]
        rfl
      · rw [hcounted, hhandled]
        rfl
      · rw [hraised, leaves, hact]
      · exact iff_of_true (.inr hspoiled) hdisturbed
    | escapes sent =>
      obtain ⟨hhandled, hdisturbed⟩ : _ ∧ ¬Undisturbed act b.tables (r :: rest) :=
        handled_cons_of_stops (by rw [hact]; rfl)
      rw [hact] at hhandled
      simp only [run, step, hb, hact, Bool.false_eq_true, if_false]
      refine ⟨?_, ?_, ?_, ?_, ?_, fun hgoes => absurd hgoes hdisturbed⟩
      · rw [hhandled]
        exact (List.append_nil _).symm
      · rw [hhandled, sentOf, List.flatMap_singleton]
        rfl
      · rw [hhandled]
        rfl
      · rw [leaves, hact]
        rfl
      · exact iff_of_true (.inl rfl) hdisturbed

/-- The block that nothing disturbs. -/
theorem perform_of_undisturbed (h : Undisturbed act s batch) :
    ∃ failed, perform act lateEscapes s batch = ⟨after act s batch, madeOf (handled act s batch),
      sentOf (handled act s batch), some (countOf (handled act s batch), failed)⟩ := by
  have hends := @ends_run σ ι act lateEscapes ⟨s, [], [], 0, 0, false⟩ batch rfl
  unfold perform
  cases hrun : run act lateEscapes ⟨s, [], [], 0, 0, false⟩ batch with
  | error b =>
    -- an exception would have disturbed it
    rw [hrun] at hends
    exact absurd h (hends.rolledBack.mp (.inl rfl))
  | ok b =>
    rw [hrun] at hends
    have hspoiled : b.spoiled = false := by
      by_contra hspoiled
      exact hends.rolledBack.mp (.inr (Bool.not_eq_false _ ▸ hspoiled)) h
    refine ⟨b.failed, ?_⟩
    have hmade : b.made = _ := hends.made
    have hsent : b.sent = _ := hends.sent
    have hcounted : b.counted = _ := hends.counted
    have htables : b.tables = _ := hends.tables h
    simp [finish, hspoiled, hmade, hsent, hcounted, htables]

/-- The block that is rolled back. -/
theorem perform_of_disturbed (h : ¬Undisturbed act s batch) :
    ∃ n, perform act lateEscapes s batch = ⟨s, madeOf (handled act s batch),
      sentOf (handled act s batch), n⟩ ∧ (n = none ↔ leaves act lateEscapes s batch = true) ∧
      ∀ k ∈ n, k.1 = countOf (handled act s batch) := by
  have hends := @ends_run σ ι act lateEscapes ⟨s, [], [], 0, 0, false⟩ batch rfl
  have hmade := hends.made
  have hsent := hends.sent
  have hcounted := hends.counted
  rw [List.nil_append] at hmade hsent
  rw [Nat.zero_add] at hcounted
  unfold perform
  cases hrun : run act lateEscapes ⟨s, [], [], 0, 0, false⟩ batch with
  | error b =>
    rw [hrun] at hends hmade hsent
    refine ⟨none, ?_, iff_of_true rfl hends.escaped.symm, fun _ hk => by cases hk⟩
    rw [finish, ← hmade, ← hsent]
    rfl
  | ok b =>
    rw [hrun] at hends hmade hsent hcounted
    have hspoiled : b.spoiled = true :=
      (hends.rolledBack.mpr h).resolve_left (by simp [raised])
    refine ⟨some (b.counted, b.failed), ?_, iff_of_false (by simp) ?_, ?_⟩
    · rw [finish, if_pos hspoiled, ← hmade, ← hsent]
      rfl
    · rw [← hends.escaped]
      simp [raised]
    · intro k hk
      rw [← Option.some.inj hk, ← hcounted]
      rfl

/-! ### Who was handled -/

theorem mem_madeOf {h : List (ι × Verdict σ)} {r : ι} {id : ℕ} :
    (r, id) ∈ madeOf h ↔ ∃ v, (r, v) ∈ h ∧ v.made = some id := by
  simp only [madeOf, List.mem_flatMap, Option.mem_toList, Option.map_eq_some_iff,
    Prod.mk.injEq]
  constructor
  · rintro ⟨⟨r', v⟩, hx, id', hid, rfl, rfl⟩
    exact ⟨v, hx, hid⟩
  · rintro ⟨v, hx, hid⟩
    exact ⟨(r, v), hx, id, hid, rfl, rfl⟩

theorem mem_sentOf {h : List (ι × Verdict σ)} {r : ι} :
    r ∈ sentOf h ↔ ∃ v, (r, v) ∈ h ∧ v.sent = true := by
  simp only [sentOf, List.mem_flatMap]
  constructor
  · rintro ⟨⟨r', v⟩, hx, hr⟩
    split_ifs at hr with hsent
    · obtain rfl := List.mem_singleton.mp hr
      exact ⟨v, hx, hsent⟩
    · cases hr
  · rintro ⟨v, hx, hsent⟩
    exact ⟨(r, v), hx, by rw [if_pos hsent]; exact List.mem_singleton_self r⟩

/-- The records are handled in their order. -/
theorem map_fst_handled : (handled act s batch).map Prod.fst <+: batch := by
  induction batch generalizing s with
  | nil => exact List.prefix_rfl
  | cons r rest ih =>
    cases hact : act s r with
    | passes s' made sent counted =>
      rw [(handled_cons_of_passes hact).1, List.map_cons]
      exact List.prefix_cons_inj r |>.mpr ih
    | spoils sent =>
      rw [(handled_cons_of_stops (by rw [hact]; rfl)).1]
      exact ⟨rest, rfl⟩
    | escapes sent =>
      rw [(handled_cons_of_stops (by rw [hact]; rfl)).1]
      exact ⟨rest, rfl⟩

/-- All of them, if nothing disturbs the block. -/
theorem Undisturbed.map_handled (h : Undisturbed act s batch) :
    (handled act s batch).map Prod.fst = batch := by
  induction batch generalizing s with
  | nil => rfl
  | cons r rest ih =>
    cases hact : act s r with
    | passes s' made sent counted =>
      obtain ⟨hhandled, hundisturbed⟩ := @handled_cons_of_passes σ ι act s r rest s' made sent
        counted hact
      rw [hhandled, List.map_cons, ih (hundisturbed.mp h)]
    | spoils sent => exact absurd h (handled_cons_of_stops (by rw [hact]; rfl)).2
    | escapes sent => exact absurd h (handled_cons_of_stops (by rw [hact]; rfl)).2

/-! ### Messages and report -/

variable {present : σ → ℕ → Bool} {removed : σ → ι → Bool}

/-- How rows and records go on: what was there stays, a row that is made is new, and exactly the
records that are counted are removed. -/
structure Lawful (act : σ → ι → Verdict σ) (present : σ → ℕ → Bool) (removed : σ → ι → Bool) :
    Prop where
  keeps : ∀ {s s' r made sent counted id}, act s r = .passes s' made sent counted →
    present s id = true → present s' id = true
  makes : ∀ {s s' r sent counted id}, act s r = .passes s' (some id) sent counted →
    present s id = false ∧ present s' id = true
  removes : ∀ {s s' r made sent counted r'}, act s r = .passes s' made sent counted →
    (removed s' r' = true ↔ removed s r' = true ∨ r' = r ∧ counted = true)
  made_of_counted : ∀ {s s' r made sent}, act s r = .passes s' made sent true → made.isSome = true
  made_of_sent : ∀ {s s' r made counted}, act s r = .passes s' made true counted →
    made.isSome = true

/-- Every row that is made has its message. -/
def AllTold (act : σ → ι → Verdict σ) (s : σ) (batch : List ι) : Prop :=
  ∀ x ∈ handled act s batch, x.2.made.isSome = true → x.2.sent = true

/-- No message goes out, up to the record that disturbs the block. -/
def NoneTold (act : σ → ι → Verdict σ) (s : σ) (batch : List ι) : Prop :=
  ∀ x ∈ handled act s batch, x.2.sent = false

/-- No record is counted up to there. -/
def NoneCounted (act : σ → ι → Verdict σ) (s : σ) (batch : List ι) : Prop :=
  ∀ x ∈ handled act s batch, x.2.counted = false

instance : Decidable (AllTold act s batch) := inferInstanceAs (Decidable (∀ x ∈ _, _))

instance : Decidable (NoneTold act s batch) := inferInstanceAs (Decidable (∀ x ∈ _, _))

instance : Decidable (NoneCounted act s batch) := inferInstanceAs (Decidable (∀ x ∈ _, _))

namespace Lawful

/-- What is there stays to the end. -/
theorem present_after (hlaw : Lawful act present removed) {id : ℕ} (h : present s id = true) :
    present (after act s batch) id = true := by
  induction batch generalizing s with
  | nil => exact h
  | cons r rest ih =>
    cases hact : act s r with
    | passes s' made sent counted =>
      rw [after, hact]
      exact ih (hlaw.keeps hact h)
    | spoils sent => rwa [after, hact]
    | escapes sent => rwa [after, hact]

/-- Every row that is made is new, and there in the end. -/
theorem of_mem_madeOf (hlaw : Lawful act present removed) {r : ι} {id : ℕ}
    (h : (r, id) ∈ madeOf (handled act s batch)) :
    present s id = false ∧ present (after act s batch) id = true := by
  induction batch generalizing s with
  | nil => cases h
  | cons r' rest ih =>
    obtain ⟨v, hmem, hmade⟩ := mem_madeOf.mp h
    cases hact : act s r' with
    | passes s' made sent counted =>
      rw [(handled_cons_of_passes hact).1] at hmem
      rw [after, hact]
      rcases List.mem_cons.mp hmem with heq | hrest
      · obtain ⟨rfl, rfl⟩ := Prod.mk.inj heq
        obtain rfl : made = some id := hmade
        obtain ⟨hnew, hthere⟩ := hlaw.makes hact
        exact ⟨hnew, hlaw.present_after hthere⟩
      · obtain ⟨hnew, hthere⟩ := ih (mem_madeOf.mpr ⟨v, hrest, hmade⟩)
        refine ⟨?_, hthere⟩
        by_contra hold
        rw [Bool.not_eq_false] at hold
        rw [hlaw.keeps hact hold] at hnew
        cases hnew
    | spoils sent =>
      rw [(handled_cons_of_stops (by rw [hact]; rfl)).1, List.mem_singleton, hact] at hmem
      rw [(Prod.mk.inj hmem).2] at hmade
      cases hmade
    | escapes sent =>
      rw [(handled_cons_of_stops (by rw [hact]; rfl)).1, List.mem_singleton, hact] at hmem
      rw [(Prod.mk.inj hmem).2] at hmade
      cases hmade

/-- The records that are removed in the end. -/
theorem removed_after (hlaw : Lawful act present removed) {r : ι} :
    removed (after act s batch) r = true ↔
      removed s r = true ∨ ∃ v, (r, v) ∈ handled act s batch ∧ v.counted = true := by
  induction batch generalizing s with
  | nil => simp [after, handled]
  | cons r' rest ih =>
    cases hact : act s r' with
    | passes s' made sent counted =>
      rw [after, hact, (handled_cons_of_passes hact).1]
      simp only [List.mem_cons, Prod.mk.injEq, or_and_right, exists_or]
      rw [ih, hlaw.removes hact, or_assoc]
      have hhere : r = r' ∧ counted = true ↔
          ∃ v : Verdict σ, (r = r' ∧ v = .passes s' made sent counted) ∧ v.counted = true := by
        constructor
        · rintro ⟨hr, hcounted⟩
          exact ⟨_, ⟨hr, rfl⟩, hcounted⟩
        · rintro ⟨v, ⟨hr, rfl⟩, hcounted⟩
          exact ⟨hr, hcounted⟩
      rw [hhere]
    | spoils sent =>
      rw [after, hact, (handled_cons_of_stops (by rw [hact]; rfl)).1, hact]
      simp [Verdict.counted]
    | escapes sent =>
      rw [after, hact, (handled_cons_of_stops (by rw [hact]; rfl)).1, hact]
      simp [Verdict.counted]

/-- A record that is counted, or has its message, has its row. -/
theorem made_of_mem_handled (hlaw : Lawful act present removed) {x : ι × Verdict σ}
    (hx : x ∈ handled act s batch) (hgoes : x.2.goesOn = true) :
    (x.2.counted = true → x.2.made.isSome = true) ∧
      (x.2.sent = true → x.2.made.isSome = true) := by
  induction batch generalizing s with
  | nil => cases hx
  | cons r rest ih =>
    cases hact : act s r with
    | passes s' made sent counted =>
      rw [(handled_cons_of_passes hact).1] at hx
      rcases List.mem_cons.mp hx with rfl | hrest
      · constructor
        · intro hcounted
          obtain rfl : counted = true := hcounted
          exact hlaw.made_of_counted hact
        · intro hsent
          obtain rfl : sent = true := hsent
          exact hlaw.made_of_sent hact
      · exact ih hrest
    | spoils sent =>
      rw [(handled_cons_of_stops (by rw [hact]; rfl)).1, List.mem_singleton, hact] at hx
      rw [hx] at hgoes
      cases hgoes
    | escapes sent =>
      rw [(handled_cons_of_stops (by rw [hact]; rfl)).1, List.mem_singleton, hact] at hx
      rw [hx] at hgoes
      cases hgoes

end Lawful

variable [DecidableEq ι]

/-- A row that was made for the record is there after the block. -/
def Result.committed (present : σ → ℕ → Bool) (res : Result σ ι) (r : ι) : Bool :=
  res.made.any fun m => m.1 = r && present res.tables m.2

/-- Messages went to the records that are committed, and the report has the number of those that
are committed and removed. -/
def Matches (present : σ → ℕ → Bool) (removed : σ → ι → Bool) (res : Result σ ι)
    (batch : List ι) : Prop :=
  (∀ r ∈ batch, r ∈ res.sent ↔ res.committed present r = true) ∧
    ∀ n ∈ res.reported,
      n.1 = batch.countP fun r => res.committed present r && removed res.tables r

instance (res : Result σ ι) : Decidable (Matches present removed res batch) :=
  inferInstanceAs (Decidable (_ ∧ ∀ n ∈ _, _))

/-- In a block that nothing disturbs, the commits are the rows that were made. -/
theorem committed_iff_of_undisturbed (hlaw : Lawful act present removed)
    (h : Undisturbed act s batch) {n : ℕ × ℕ} {r : ι} {v : Verdict σ} (hnodup : batch.Nodup)
    (hmem : (r, v) ∈ handled act s batch) :
    Result.committed present ⟨after act s batch, madeOf (handled act s batch),
      sentOf (handled act s batch), some n⟩ r = true ↔ v.made.isSome = true := by
  have hunique : ((handled act s batch).map Prod.fst).Nodup := by rwa [h.map_handled]
  simp only [Result.committed, List.any_eq_true, Bool.and_eq_true, decide_eq_true_eq]
  constructor
  · rintro ⟨⟨r', id⟩, hmade, rfl, -⟩
    obtain ⟨v', hmem', hid⟩ := mem_madeOf.mp hmade
    have heq := List.inj_on_of_nodup_map hunique hmem' hmem rfl
    rw [← (Prod.mk.inj heq).2, hid]
    rfl
  · intro hmade
    obtain ⟨id, hid⟩ := Option.isSome_iff_exists.mp hmade
    have hin : (r, id) ∈ madeOf (handled act s batch) := mem_madeOf.mpr ⟨v, hmem, hid⟩
    exact ⟨(r, id), hin, rfl, (hlaw.of_mem_madeOf hin).2⟩

/-- What is rolled back is not there. -/
theorem committed_of_rolledBack (hlaw : Lawful act present removed) {sent : List ι}
    {n : Option (ℕ × ℕ)} (r : ι) :
    Result.committed present ⟨s, madeOf (handled act s batch), sent, n⟩ r = false := by
  simp only [Result.committed, List.any_eq_false, Bool.and_eq_true, decide_eq_true_eq, not_and]
  rintro ⟨r', id⟩ hmade rfl
  rw [(hlaw.of_mem_madeOf hmade).1]
  decide

/-- Where rows, messages and removals are those of the records, they fit exactly if every row
that is made has its message. -/
theorem matches_map_iff {res : Result σ ι} {h : List (ι × Verdict σ)} {failed : ℕ}
    (hcommitted : ∀ x ∈ h, res.committed present x.1 = x.2.made.isSome)
    (hsent : ∀ x ∈ h, x.1 ∈ res.sent ↔ x.2.sent = true)
    (hremoved : ∀ x ∈ h, removed res.tables x.1 = true ↔ x.2.counted = true)
    (hreport : res.reported = some (countOf h, failed))
    (hmade : ∀ x ∈ h, (x.2.counted = true → x.2.made.isSome = true) ∧
      (x.2.sent = true → x.2.made.isSome = true)) :
    Matches present removed res (h.map Prod.fst) ↔
      ∀ x ∈ h, x.2.made.isSome = true → x.2.sent = true := by
  have hcount : ∀ n ∈ res.reported, n.1 =
      (h.map Prod.fst).countP fun r => res.committed present r && removed res.tables r := by
    intro n hn
    rw [hreport] at hn
    rw [← Option.some.inj hn, List.countP_map]
    apply List.countP_congr
    intro x hx
    rw [Function.comp_apply, hcommitted x hx, Bool.and_eq_true, hremoved x hx]
    exact ⟨fun hcounted => ⟨(hmade x hx).1 hcounted, hcounted⟩, And.right⟩
  rw [Matches, and_iff_left hcount, List.forall_mem_map]
  apply forall₂_congr
  intro x hx
  rw [hsent x hx, hcommitted x hx]
  exact ⟨Iff.mpr, fun htold => ⟨(hmade x hx).2, htold⟩⟩

/-- A record has one verdict. -/
theorem Undisturbed.verdict_unique (h : Undisturbed act s batch) (hnodup : batch.Nodup)
    {x : ι × Verdict σ} {v : Verdict σ} (hx : x ∈ handled act s batch)
    (hv : (x.1, v) ∈ handled act s batch) : v = x.2 := by
  have hkeys : ((handled act s batch).map Prod.fst).Nodup := by rwa [h.map_handled]
  exact congrArg Prod.snd (List.inj_on_of_nodup_map hkeys hv hx rfl)

/-- In a block that nothing disturbs, they fit if every row that is made has its message. -/
theorem matches_iff_of_undisturbed (hlaw : Lawful act present removed) (hnodup : batch.Nodup)
    (hwaits : ∀ r ∈ batch, removed s r = false) (h : Undisturbed act s batch) :
    Matches present removed (perform act lateEscapes s batch) batch ↔ AllTold act s batch := by
  obtain ⟨failed, hperform⟩ := @perform_of_undisturbed σ ι act lateEscapes s batch h
  have hcommitted : ∀ x ∈ handled act s batch,
      (perform act lateEscapes s batch).committed present x.1 = x.2.made.isSome := by
    intro x hx
    rw [hperform, Bool.eq_iff_iff]
    exact committed_iff_of_undisturbed hlaw h hnodup hx
  have hsent : ∀ x ∈ handled act s batch,
      (x.1 ∈ (perform act lateEscapes s batch).sent ↔ x.2.sent = true) := by
    intro x hx
    rw [hperform, mem_sentOf]
    constructor
    · rintro ⟨v, hv, hout⟩
      rwa [← h.verdict_unique hnodup hx hv]
    · exact fun hout => ⟨x.2, hx, hout⟩
  have hremoved : ∀ x ∈ handled act s batch,
      (removed (perform act lateEscapes s batch).tables x.1 = true ↔ x.2.counted = true) := by
    intro x hx
    have hbefore : removed s x.1 = false :=
      hwaits x.1 (map_fst_handled.subset (List.mem_map_of_mem hx))
    rw [hperform, hlaw.removed_after, hbefore]
    constructor
    · rintro (hno | ⟨v, hv, hcounted⟩)
      · cases hno
      · rwa [← h.verdict_unique hnodup hx hv]
    · exact fun hcounted => .inr ⟨x.2, hx, hcounted⟩
  have hreport : (perform act lateEscapes s batch).reported =
      some (countOf (handled act s batch), failed) := by
    rw [hperform]
  have hfit := matches_map_iff hcommitted hsent hremoved hreport
    fun x hx => hlaw.made_of_mem_handled hx (h x hx)
  rw [h.map_handled] at hfit
  exact hfit

/-- In a block that is rolled back, they fit if no message went out before, and either an exception
leaves it without a report or no record was counted before. -/
theorem matches_iff_of_disturbed (hlaw : Lawful act present removed)
    (h : ¬Undisturbed act s batch) :
    Matches present removed (perform act lateEscapes s batch) batch ↔ NoneTold act s batch ∧
      (leaves act lateEscapes s batch = true ∨ NoneCounted act s batch) := by
  obtain ⟨n, hperform, hnone, hcount⟩ := @perform_of_disturbed σ ι act lateEscapes s batch h
  have hcommitted : ∀ r, (perform act lateEscapes s batch).committed present r = false := by
    intro r
    rw [hperform]
    exact committed_of_rolledBack hlaw r
  have hkeys : ∀ x ∈ handled act s batch, x.1 ∈ batch := fun x hx =>
    map_fst_handled.subset (List.mem_map_of_mem hx)
  have hmessages : (∀ r ∈ batch, r ∈ sentOf (handled act s batch) ↔ False) ↔
      NoneTold act s batch := by
    simp only [iff_false]
    constructor
    · intro hnot x hx
      by_contra hsent
      exact hnot x.1 (hkeys x hx) (mem_sentOf.mpr ⟨x.2, hx, Bool.not_eq_false _ ▸ hsent⟩)
    · intro hnot r _ hr
      obtain ⟨v, hx, hsent⟩ := mem_sentOf.mp hr
      rw [hnot _ hx] at hsent
      cases hsent
  have hreport : (∀ k ∈ n, k.1 = 0) ↔
      leaves act lateEscapes s batch = true ∨ NoneCounted act s batch := by
    rw [← hnone, NoneCounted]
    cases n with
    | none => exact iff_of_true (fun _ hk => by cases hk) (.inl rfl)
    | some k =>
      have hzero : countOf (handled act s batch) = 0 ↔
          ∀ x ∈ handled act s batch, x.2.counted = false := by
        simp [countOf, List.countP_eq_zero]
      rw [or_iff_right (Option.some_ne_none k), ← hzero, ← hcount k rfl]
      exact ⟨fun hall => hall k rfl, fun hk k' hk' => Option.some.inj hk' ▸ hk⟩
  rw [← hmessages, ← hreport, Matches]
  simp only [hcommitted, Bool.false_and, List.countP_false, Bool.false_eq_true]
  rw [hperform]
  rfl

/-- **When messages and report fit.** Nothing disturbs the block and every row that is made has
its message; or something does, no message went out before, and either an exception leaves the
block without a report or no record was counted before. -/
theorem matches_iff (hlaw : Lawful act present removed) (hnodup : batch.Nodup)
    (hwaits : ∀ r ∈ batch, removed s r = false) :
    Matches present removed (perform act lateEscapes s batch) batch ↔
      Undisturbed act s batch ∧ AllTold act s batch ∨
        ¬Undisturbed act s batch ∧ NoneTold act s batch ∧
          (leaves act lateEscapes s batch = true ∨ NoneCounted act s batch) := by
  by_cases h : Undisturbed act s batch
  · rw [or_iff_left (fun hand => hand.1 h), and_iff_right h]
    exact matches_iff_of_undisturbed hlaw hnodup hwaits h
  · rw [or_iff_right (fun hand => h hand.1), and_iff_right h]
    exact matches_iff_of_disturbed hlaw h

end Loop

end AtomicBatch
