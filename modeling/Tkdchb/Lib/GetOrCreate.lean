import Mathlib.Logic.Function.Basic
import Tkdchb.Lib.Table
import Tkdchb.Lib.Transition

/-!
# Get or create under a unique key

Clients ask one table for the row of a key, and create it if there is none. Nothing is locked:
a client looks, inserts if it found nothing, looks again if another client was faster, and once
more if the row has gone again. The table refuses a second row of a key. Between any two of
these steps other clients may act, rows may be written, which keeps their keys, and the rows of
some keys may be deleted.

## Main definitions

* `GetOrCreate.State`, `GetOrCreate.Act`, `GetOrCreate.step`
* `GetOrCreate.find` — the row of a key
* `GetOrCreate.Unique` — no key has two rows
* `GetOrCreate.Settled` — each answer names the row that its key still has
* `GetOrCreate.Kept` — what is shown of the rows that clients created is as they asked for it

## Main results

* `unique_run` — no run gives a key a second row
* `created_run` — the rows of a key: those created less those deleted
* `settled_run` — while nothing is deleted, all answers for a key name the same row
* `kept_run` — while nothing is deleted and no write shows, the first request stands
-/

namespace GetOrCreate

open Transition

variable {ι κ ρ : Type*}

/-- How far a client has come. -/
inductive Phase (ρ : Type*) where
  | idle
  /-- has asked for the row of the key of `r`, which is `r` if it has to be created -/
  | asked (r : ρ)
  /-- has found no row -/
  | missed (r : ρ)
  /-- was not allowed to insert, as the key has a row -/
  | clashed (r : ρ)
  /-- was not allowed to insert, and has found no row -/
  | failed (r : ρ)

/-- The row that a client would create. -/
def Phase.pending : Phase ρ → Option ρ
  | .idle => none
  | .asked r | .missed r | .clashed r | .failed r => some r

/-- What a client is told: a row, and whether it was created. -/
structure Answer (ρ : Type*) where
  asked : ρ
  id : Option ℕ
  created : Bool

structure State (ι ρ : Type*) where
  rows : Table ρ
  phase : ι → Phase ρ
  answers : List (Answer ρ)

inductive Act (ι κ ρ : Type*) where
  | ask (i : ι) (r : ρ)
  | look (i : ι)
  | insert (i : ι)
  /-- the insert is refused for another reason than the key -/
  | refuse (i : ι)
  | again (i : ι)
  | last (i : ι)
  | write (id : ℕ) (f : ρ → ρ)
  /-- the rows of the keys that satisfy `p` go -/
  | delete (p : κ → Bool)

/-- Deletions, and inserts refused for no fault of the key. -/
def Act.disturbs : Act ι κ ρ → Bool
  | .refuse _ | .delete _ => true
  | _ => false

/-- The action takes no row away and keeps what `view` shows of it. -/
def Act.Spares {β : Type*} (view : ρ → β) : Act ι κ ρ → Prop
  | .write _ f => ∀ r, view (f r) = view r
  | .delete _ => False
  | _ => True

section Step

variable [DecidableEq ι] [DecidableEq κ] (key : ρ → κ)

/-- The row of a key. -/
def find (rows : Table ρ) (k : κ) : Option ℕ := (rows.oldest fun r => key r = k).map Prod.fst

def State.enter (s : State ι ρ) (i : ι) (p : Phase ρ) : State ι ρ :=
  { s with phase := Function.update s.phase i p }

/-- The client is told and may ask anew. -/
def State.reply (s : State ι ρ) (i : ι) (r : ρ) (id : Option ℕ) (created : Bool) : State ι ρ :=
  { s with
    phase := Function.update s.phase i .idle
    answers := s.answers ++ [⟨r, id, created⟩] }

/-- The row is made and its client is told. -/
def State.create (s : State ι ρ) (i : ι) (r : ρ) : State ι ρ :=
  { s with rows := s.rows.insert r }.reply i r (some s.rows.next) true

/-- One action. An action that the phase of its client does not allow does nothing. -/
def step : Act ι κ ρ → State ι ρ → State ι ρ
  | .ask i r, s =>
    match s.phase i with
    | .idle => s.enter i (.asked r)
    | _ => s
  | .look i, s =>
    match s.phase i with
    | .asked r =>
      match find key s.rows (key r) with
      | some id => s.reply i r (some id) false
      | none => s.enter i (.missed r)
    | _ => s
  | .insert i, s =>
    match s.phase i with
    | .missed r =>
      match find key s.rows (key r) with
      | some _ => s.enter i (.clashed r)
      | none => s.create i r
    | _ => s
  | .refuse i, s =>
    match s.phase i with
    | .missed r => s.enter i (.failed r)
    | _ => s
  | .again i, s =>
    match s.phase i with
    | .clashed r =>
      match find key s.rows (key r) with
      | some id => s.reply i r (some id) false
      | none => s.enter i (.failed r)
    | _ => s
  | .last i, s =>
    match s.phase i with
    | .failed r => s.reply i r (find key s.rows (key r)) false
    | _ => s
  | .write id f, s =>
    { s with rows := s.rows.modify id fun r => if key (f r) = key r then f r else r }
  | .delete p, s => { s with rows := s.rows.deleteWhere fun r => p (key r) }

/-- No key has two rows. -/
def Unique (rows : Table ρ) : Prop :=
  ∀ id id' r r', rows.get id = some r → rows.get id' = some r' → key r = key r' → id = id'

/-- How many of the answers for the key say that its row was created. -/
def created (k : κ) (s : State ι ρ) : ℕ :=
  s.answers.countP fun a => a.created && decide (key a.asked = k)

/-- How many rows the key has. -/
def held (k : κ) (rows : Table ρ) : ℕ := if (find key rows k).isSome then 1 else 0

/-- How many rows of the key the action takes away. -/
def deleted (k : κ) : Act ι κ ρ → State ι ρ → ℕ
  | .delete p, s => if p k then held key k s.rows else 0
  | _, _ => 0

/-- Each answer names the row that its key still has, and no client has met a row that is gone. -/
structure Settled (s : State ι ρ) : Prop where
  unique : Unique key s.rows
  answered : ∀ a ∈ s.answers, ∃ id, a.id = some id ∧ find key s.rows (key a.asked) = some id
  clashed : ∀ i r, s.phase i = .clashed r → find key s.rows (key r) ≠ none
  failed : ∀ i r, s.phase i ≠ .failed r

/-- What `view` shows of the rows that clients created is still as they asked for it. -/
def Kept {β : Type*} (view : ρ → β) (s : State ι ρ) : Prop :=
  ∀ a ∈ s.answers, a.created →
    ∃ id r, a.id = some id ∧ s.rows.get id = some r ∧ view r = view a.asked

/-- What an action does, by the branch that is taken. -/
inductive Effect (s : State ι ρ) : Act ι κ ρ → State ι ρ → Prop
  | stay (a) (ha : ∀ p, a ≠ .delete p) : Effect s a s
  | ask (i r) : Effect s (.ask i r) (s.enter i (.asked r))
  | seen (i r id) (hphase : s.phase i = .asked r) (hfind : find key s.rows (key r) = some id) :
      Effect s (.look i) (s.reply i r (some id) false)
  | missed (i r) (hphase : s.phase i = .asked r) (hfind : find key s.rows (key r) = none) :
      Effect s (.look i) (s.enter i (.missed r))
  | clashed (i r id) (hphase : s.phase i = .missed r)
      (hfind : find key s.rows (key r) = some id) :
      Effect s (.insert i) (s.enter i (.clashed r))
  | created (i r) (hphase : s.phase i = .missed r) (hfind : find key s.rows (key r) = none) :
      Effect s (.insert i) (s.create i r)
  | refused (i r) (hphase : s.phase i = .missed r) :
      Effect s (.refuse i) (s.enter i (.failed r))
  | seenAgain (i r id) (hphase : s.phase i = .clashed r)
      (hfind : find key s.rows (key r) = some id) :
      Effect s (.again i) (s.reply i r (some id) false)
  | gone (i r) (hphase : s.phase i = .clashed r) (hfind : find key s.rows (key r) = none) :
      Effect s (.again i) (s.enter i (.failed r))
  | last (i r) (hphase : s.phase i = .failed r) :
      Effect s (.last i) (s.reply i r (find key s.rows (key r)) false)
  | write (id f g) (hg : ∀ r, key (g r) = key r) (hfg : ∀ r, g r = f r ∨ g r = r) :
      Effect s (.write id f) { s with rows := s.rows.modify id g }
  | delete (p) : Effect s (.delete p) { s with rows := s.rows.deleteWhere fun r => p (key r) }

end Step

/-! ### The row of a key -/

section Keys

variable {key : ρ → κ} {rows : Table ρ} {id : ℕ} {r : ρ} {f : ρ → ρ}

/-- A write that keeps the keys keeps the key of every row. -/
theorem key_of_get_modify (hf : ∀ r, key (f r) = key r) {id' : ℕ}
    (h : (rows.modify id f).get id' = some r) :
    ∃ r', rows.get id' = some r' ∧ key r' = key r := by
  rcases Table.get_modify_cases h with hget | ⟨-, r', hget, rfl⟩
  · exact ⟨r, hget, rfl⟩
  · exact ⟨r', hget, (hf r').symm⟩

theorem unique_modify (h : Unique key rows) (hf : ∀ r, key (f r) = key r) :
    Unique key (rows.modify id f) := by
  intro id₁ id₂ r₁ r₂ h₁ h₂ hkey
  obtain ⟨r₁', hget₁, hkey₁⟩ := key_of_get_modify hf h₁
  obtain ⟨r₂', hget₂, hkey₂⟩ := key_of_get_modify hf h₂
  exact h id₁ id₂ r₁' r₂' hget₁ hget₂ (hkey₁.trans (hkey.trans hkey₂.symm))

theorem unique_deleteWhere {p : ρ → Bool} (h : Unique key rows) :
    Unique key (rows.deleteWhere p) := by
  intro id₁ id₂ r₁ r₂ h₁ h₂ hkey
  have hget₁ := (Table.get_deleteWhere_eq_some_iff.mp h₁).1
  have hget₂ := (Table.get_deleteWhere_eq_some_iff.mp h₂).1
  exact h id₁ id₂ r₁ r₂ hget₁ hget₂ hkey

end Keys

section Find

variable [DecidableEq κ] {key : ρ → κ} {rows : Table ρ} {k : κ} {id : ℕ} {r : ρ} {f : ρ → ρ}

theorem find_eq_none_iff :
    find key rows k = none ↔ ∀ id r, rows.get id = some r → key r ≠ k := by
  rw [find, Option.map_eq_none_iff, Table.oldest_eq_none_iff]
  simp

theorem find_eq_some_iff (h : Unique key rows) :
    find key rows k = some id ↔ ∃ r, rows.get id = some r ∧ key r = k := by
  constructor
  · intro hfind
    obtain ⟨⟨id', r⟩, hold, rfl⟩ := Option.map_eq_some_iff.mp hfind
    obtain ⟨hget, hkey⟩ := Table.oldest_spec hold
    exact ⟨r, hget, by simpa using hkey⟩
  · rintro ⟨r, hget, hkey⟩
    have hold : rows.oldest (fun r => key r = k) = some (id, r) :=
      Table.oldest_eq_some_of_unique hget (decide_eq_true hkey) fun id' r' hget' hkey' =>
        h id' id r' r hget' hget ((of_decide_eq_true hkey').trans hkey.symm)
    rw [find, hold, Option.map_some]

theorem unique_insert (h : Unique key rows) (hnone : find key rows (key r) = none) :
    Unique key (rows.insert r) := by
  rw [find_eq_none_iff] at hnone
  intro id₁ id₂ r₁ r₂ h₁ h₂ hkey
  rcases Table.get_insert_cases h₁ with hget₁ | ⟨hid₁, rfl⟩
  · rcases Table.get_insert_cases h₂ with hget₂ | ⟨-, rfl⟩
    · exact h id₁ id₂ r₁ r₂ hget₁ hget₂ hkey
    · exact absurd hkey (hnone id₁ r₁ hget₁)
  · rcases Table.get_insert_cases h₂ with hget₂ | ⟨hid₂, -⟩
    · exact absurd hkey.symm (hnone id₂ r₂ hget₂)
    · rw [hid₁, hid₂]

theorem find_insert (h : Unique key rows) (hnone : find key rows (key r) = none) :
    find key (rows.insert r) k = if k = key r then some rows.next else find key rows k := by
  split_ifs with hk
  · subst hk
    exact (find_eq_some_iff (unique_insert h hnone)).mpr ⟨r, Table.get_insert_next, rfl⟩
  · cases hfind : find key rows k with
    | none =>
      rw [find_eq_none_iff] at hfind ⊢
      exact Table.forall_insert hfind (Ne.symm hk)
    | some id =>
      obtain ⟨r', hget, hkey⟩ := (find_eq_some_iff h).mp hfind
      exact (find_eq_some_iff (unique_insert h hnone)).mpr
        ⟨r', Table.get_insert_of_get hget, hkey⟩

theorem find_modify (h : Unique key rows) (hf : ∀ r, key (f r) = key r) :
    find key (rows.modify id f) k = find key rows k := by
  cases hfind : find key rows k with
  | none =>
    rw [find_eq_none_iff] at hfind ⊢
    intro id' r' hget
    obtain ⟨r'', hget', hkey⟩ := key_of_get_modify hf hget
    exact hkey ▸ hfind id' r'' hget'
  | some id' =>
    obtain ⟨r', hget, hkey⟩ := (find_eq_some_iff h).mp hfind
    have hkeeps : Table.Keeps key rows (rows.modify id f) := Table.keeps_modify rows id hf
    obtain ⟨r'', hget', hsame⟩ := hkeeps id' r' hget
    exact (find_eq_some_iff (unique_modify h hf)).mpr ⟨r'', hget', hsame.trans hkey⟩

theorem find_deleteWhere {p : κ → Bool} (h : Unique key rows) :
    find key (rows.deleteWhere fun r => p (key r)) k =
      if p k then none else find key rows k := by
  split_ifs with hp
  · rw [find_eq_none_iff]
    intro id r hget hkey
    have hkeep := (Table.get_deleteWhere_eq_some_iff.mp hget).2
    rw [hkey, hp] at hkeep
    cases hkeep
  · cases hfind : find key rows k with
    | none =>
      rw [find_eq_none_iff] at hfind ⊢
      exact fun id r hget => hfind id r (Table.get_deleteWhere_eq_some_iff.mp hget).1
    | some id =>
      obtain ⟨r, hget, hkey⟩ := (find_eq_some_iff h).mp hfind
      refine (find_eq_some_iff (unique_deleteWhere h)).mpr ⟨r, ?_, hkey⟩
      refine Table.get_deleteWhere_eq_some_iff.mpr ⟨hget, ?_⟩
      rwa [hkey, ← Bool.not_eq_true]

end Find

/-! ### Runs -/

section Runs

variable [DecidableEq ι] [DecidableEq κ] {key : ρ → κ} {s t : State ι ρ} {a : Act ι κ ρ} {k : κ}

theorem effect_step (a : Act ι κ ρ) (s : State ι ρ) : Effect key s a (step key a s) := by
  cases a with
  | ask i r =>
    rw [step]
    split
    · exact .ask i r
    · exact .stay _ (by simp)
  | look i =>
    rw [step]
    split
    case h_1 r hphase =>
      split
      · exact .seen i r _ hphase ‹_›
      · exact .missed i r hphase ‹_›
    case h_2 => exact .stay _ (by simp)
  | insert i =>
    rw [step]
    split
    case h_1 r hphase =>
      split
      · exact .clashed i r _ hphase ‹_›
      · exact .created i r hphase ‹_›
    case h_2 => exact .stay _ (by simp)
  | refuse i =>
    rw [step]
    split
    · exact .refused i _ ‹_›
    · exact .stay _ (by simp)
  | again i =>
    rw [step]
    split
    case h_1 r hphase =>
      split
      · exact .seenAgain i r _ hphase ‹_›
      · exact .gone i r hphase ‹_›
    case h_2 => exact .stay _ (by simp)
  | last i =>
    rw [step]
    split
    · exact .last i _ ‹_›
    · exact .stay _ (by simp)
  | write id f =>
    -- the write that is made is the part of `f` that keeps the keys
    have hf : ∀ r, key (if key (f r) = key r then f r else r) = key r := fun r => by
      split_ifs with h
      · exact h
      · rfl
    refine .write id f _ hf fun r => ?_
    split_ifs
    · exact Or.inl rfl
    · exact Or.inr rfl
  | delete p => exact .delete p

theorem unique_of_effect (h : Effect key s a t) (hs : Unique key s.rows) : Unique key t.rows := by
  cases h with
  | created i r hphase hfind => exact unique_insert hs hfind
  | write id f g hg hfg => exact unique_modify hs hg
  | delete p => exact unique_deleteWhere hs
  | _ => exact hs

theorem unique_step (a : Act ι κ ρ) (s : State ι ρ) (hs : Unique key s.rows) :
    Unique key (step key a s).rows :=
  unique_of_effect (effect_step a s) hs

/-- No run gives a key a second row. -/
theorem unique_run (hs : Unique key s.rows) (acts : List (Act ι κ ρ)) :
    Unique key (run (step key) s acts).rows :=
  run_invariant (I := fun s : State ι ρ => Unique key s.rows) unique_step hs acts

theorem created_seen {i : ι} {r : ρ} {id : Option ℕ} :
    created key k (s.reply i r id false) = created key k s := by
  simp [created, State.reply, List.countP_append]

theorem created_create {i : ι} {r : ρ} :
    created key k (s.create i r) = created key k s + if key r = k then 1 else 0 := by
  simp [created, State.create, State.reply, List.countP_append, List.countP_singleton]

theorem held_create {i : ι} {r : ρ} (hs : Unique key s.rows)
    (hfind : find key s.rows (key r) = none) :
    held key k (s.create i r).rows = held key k s.rows + if key r = k then 1 else 0 := by
  simp only [held, State.create, State.reply, find_insert hs hfind]
  by_cases hk : k = key r
  · simp [hk, hfind]
  · simp [hk, Ne.symm hk]

theorem held_deleteWhere {rows : Table ρ} {p : κ → Bool} (h : Unique key rows) :
    held key k (rows.deleteWhere fun r => p (key r)) = if p k then 0 else held key k rows := by
  simp only [held, find_deleteWhere h]
  by_cases hp : p k
  · simp [hp]
  · simp [hp]

theorem created_of_effect (h : Effect key s a t) (hs : Unique key s.rows) :
    created key k t + held key k s.rows =
      created key k s + deleted key k a s + held key k t.rows := by
  cases h with
  | stay a ha =>
    have hdel : deleted key k a s = 0 := by
      cases a with
      | delete p => exact absurd rfl (ha p)
      | _ => rfl
    rw [hdel, Nat.add_zero]
  | created i r hphase hfind =>
    have hdel : deleted key k (.insert i) s = 0 := rfl
    rw [created_create, held_create hs hfind, hdel]
    omega
  | seen i r id hphase hfind =>
    rw [created_seen]
    exact rfl
  | seenAgain i r id hphase hfind =>
    rw [created_seen]
    exact rfl
  | last i r hphase =>
    rw [created_seen]
    exact rfl
  | write id f g hg hfg =>
    have hheld : held key k (s.rows.modify id g) = held key k s.rows := by
      rw [held, find_modify hs hg, held]
    rw [hheld]
    exact rfl
  | delete p =>
    have hdel : deleted key k (.delete p : Act ι κ ρ) s = if p k then held key k s.rows else 0 :=
      rfl
    have hcreated : created key k { s with rows := s.rows.deleteWhere fun r => p (key r) } =
        created key k s := rfl
    rw [hdel, hcreated, held_deleteWhere hs]
    split_ifs
    · rw [Nat.add_zero]
    · rw [Nat.add_zero]
  | _ => exact rfl

/-- The rows that clients created for a key, less those that were deleted, are there. -/
theorem created_run (hs : Unique key s.rows) (acts : List (Act ι κ ρ)) :
    created key k (run (step key) s acts) + held key k s.rows =
      created key k s + total (step key) (deleted key k) s acts +
        held key k (run (step key) s acts).rows := by
  induction acts generalizing s with
  | nil => rfl
  | cons a acts ih =>
    have heffect : Effect key s a (step key a s) := effect_step a s
    have hstep := created_of_effect (k := k) heffect hs
    have hrest := ih (unique_step a s hs)
    rw [run_cons, total_cons]
    omega

/-- What has been found stays found. -/
theorem find_of_effect (h : Effect key s a t) (ha : a.disturbs = false) (hs : Unique key s.rows)
    {id : ℕ} (hfind : find key s.rows k = some id) : find key t.rows k = some id := by
  cases h with
  | created i r hphase hnone =>
    have hne : k ≠ key r := fun hk => by rw [hk, hnone] at hfind; cases hfind
    exact (find_insert hs hnone).trans ((if_neg hne).trans hfind)
  | write id' f g hg hfg => rwa [find_modify hs hg]
  | delete p => cases ha
  | _ => exact hfind

/-- The answer to a client that has found the row, or made it. -/
theorem answered_reply {i : ι} {r : ρ} {id : ℕ} {b : Bool} {rows : Table ρ}
    (hs : ∀ a ∈ s.answers, ∃ id, a.id = some id ∧ find key rows (key a.asked) = some id)
    (hfind : find key rows (key r) = some id) :
    ∀ a ∈ (s.reply i r (some id) b).answers,
      ∃ id, a.id = some id ∧ find key rows (key a.asked) = some id := by
  intro a ha
  rcases List.mem_append.mp ha with hold | hnew
  · exact hs a hold
  · obtain rfl := List.mem_singleton.mp hnew
    exact ⟨id, rfl, hfind⟩

theorem phase_of_update {i j : ι} {p q : Phase ρ} (h : Function.update s.phase i p j = q) :
    (j = i ∧ p = q) ∨ s.phase j = q := by
  by_cases hji : j = i
  · subst hji
    rw [Function.update_self] at h
    exact Or.inl ⟨rfl, h⟩
  · rw [Function.update_of_ne hji] at h
    exact Or.inr h

theorem pending_of_update {i j : ι} {p : Phase ρ} {r : ρ}
    (h : (Function.update s.phase i p j).pending = some r) :
    (j = i ∧ p.pending = some r) ∨ (s.phase j).pending = some r := by
  rcases phase_of_update (s := s) (i := i) (j := j) (p := p) rfl with ⟨hji, hp⟩ | hold
  · exact Or.inl ⟨hji, hp ▸ h⟩
  · exact Or.inr (hold ▸ h)

/-- A client would create what it would have created before, or has asked for it now. -/
theorem pending_of_effect (h : Effect key s a t) {j : ι} {r : ρ}
    (hj : (t.phase j).pending = some r) : (s.phase j).pending = some r ∨ a = .ask j r := by
  cases h with
  | stay _ _ | write _ _ _ _ _ | delete _ => exact Or.inl hj
  | ask i r' =>
    rcases pending_of_update hj with ⟨rfl, heq⟩ | hold
    · obtain rfl := Option.some.inj heq
      exact Or.inr rfl
    · exact Or.inl hold
  | missed i r' hphase _ | clashed i r' _ hphase _ | refused i r' hphase | gone i r' hphase _ =>
    rcases pending_of_update hj with ⟨rfl, heq⟩ | hold
    · rw [hphase]
      exact Or.inl heq
    · exact Or.inl hold
  | seen _ _ _ _ _ | created _ _ _ _ | seenAgain _ _ _ _ _ | last _ _ _ =>
    rcases pending_of_update hj with ⟨-, heq⟩ | hold
    · cases heq
    · exact Or.inl hold

/-- A client has clashed before, or clashes now with a row that is there. -/
theorem clashed_of_effect (h : Effect key s a t) {j : ι} {r : ρ} (hj : t.phase j = .clashed r) :
    s.phase j = .clashed r ∨ find key s.rows (key r) ≠ none := by
  cases h with
  | stay _ _ | write _ _ _ _ _ | delete _ => exact Or.inl hj
  | clashed i r' id hphase hfind =>
    rcases phase_of_update hj with ⟨-, heq⟩ | hold
    · obtain rfl := Phase.clashed.inj heq
      exact Or.inr (by simp [hfind])
    · exact Or.inl hold
  | _ =>
    rcases phase_of_update hj with ⟨-, heq⟩ | hold
    · cases heq
    · exact Or.inl hold

/-- A client has failed before, or fails now as the row it clashed with has gone. -/
theorem failed_of_effect (h : Effect key s a t) (ha : a.disturbs = false) {j : ι} {r : ρ}
    (hj : t.phase j = .failed r) :
    s.phase j = .failed r ∨ (s.phase j = .clashed r ∧ find key s.rows (key r) = none) := by
  cases h with
  | stay _ _ | write _ _ _ _ _ | delete _ => exact Or.inl hj
  | refused i r' hphase => cases ha
  | gone i r' hphase hfind =>
    rcases phase_of_update hj with ⟨rfl, heq⟩ | hold
    · obtain rfl := Phase.failed.inj heq
      exact Or.inr ⟨hphase, hfind⟩
    · exact Or.inl hold
  | _ =>
    rcases phase_of_update hj with ⟨-, heq⟩ | hold
    · cases heq
    · exact Or.inl hold

/-- Every client is told of the row that the key has and keeps. -/
theorem answered_of_effect (h : Effect key s a t) (ha : a.disturbs = false)
    (hs : Settled key s) :
    ∀ a ∈ t.answers, ∃ id, a.id = some id ∧ find key t.rows (key a.asked) = some id := by
  have hold : ∀ a ∈ s.answers, ∃ id, a.id = some id ∧ find key t.rows (key a.asked) = some id := by
    intro b hb
    obtain ⟨id, hid, hfind⟩ := hs.answered b hb
    exact ⟨id, hid, find_of_effect h ha hs.unique hfind⟩
  cases h with
  | seen i r id hphase hfind => exact answered_reply hold hfind
  | seenAgain i r id hphase hfind => exact answered_reply hold hfind
  | created i r hphase hfind =>
    have hnew : find key (s.rows.insert r) (key r) = some s.rows.next :=
      (find_insert hs.unique hfind).trans (if_pos rfl)
    exact answered_reply (s := { s with rows := s.rows.insert r }) hold hnew
  | last i r hphase => exact absurd hphase (hs.failed i r)
  | _ => exact hold

theorem settled_step (a : Act ι κ ρ) (s : State ι ρ) (ha : a.disturbs = false)
    (hs : Settled key s) : Settled key (step key a s) := by
  have heffect : Effect key s a (step key a s) := effect_step a s
  refine ⟨unique_step a s hs.unique, answered_of_effect heffect ha hs, ?_, ?_⟩
  · intro j r hj
    have hfind : find key s.rows (key r) ≠ none := by
      rcases clashed_of_effect heffect hj with hold | hfind
      · exact hs.clashed j r hold
      · exact hfind
    obtain ⟨id, hid⟩ := Option.ne_none_iff_exists'.mp hfind
    rw [find_of_effect heffect ha hs.unique hid]
    exact Option.some_ne_none id
  · intro j r hj
    rcases failed_of_effect heffect ha hj with hold | ⟨hclashed, hnone⟩
    · exact hs.failed j r hold
    · exact hs.clashed j r hclashed hnone

/-- While nothing is deleted, each answer names the row that its key still has. -/
theorem settled_run {acts : List (Act ι κ ρ)}
    (hacts : Along (step key) (fun a _ => a.disturbs = false) s acts) (hs : Settled key s) :
    Settled key (run (step key) s acts) :=
  hacts.invariant settled_step hs

omit [DecidableEq ι] in
/-- Two clients that asked for one key are told of one row. -/
theorem Settled.same_row (hs : Settled key s) {a b : Answer ρ} (ha : a ∈ s.answers)
    (hb : b ∈ s.answers) (hkey : key a.asked = key b.asked) : a.id = b.id := by
  obtain ⟨id, hid, hfind⟩ := hs.answered a ha
  obtain ⟨id', hid', hfind'⟩ := hs.answered b hb
  rw [hkey, hfind'] at hfind
  rw [hid, hid', hfind]

/-- The answers that say created: one if the key has got its row in the run, else none. -/
theorem created_undisturbed {acts : List (Act ι κ ρ)}
    (hacts : Along (step key) (fun a _ => a.disturbs = false) s acts) (hs : Unique key s.rows) :
    created key k (run (step key) s acts) + held key k s.rows =
      created key k s + held key k (run (step key) s acts).rows := by
  have hnone : ∀ (a : Act ι κ ρ) (s : State ι ρ), a.disturbs = false → deleted key k a s = 0 := by
    intro a s ha
    cases a with
    | delete p => cases ha
    | _ => rfl
  have hzero : total (step key) (deleted key k) s acts = 0 := hacts.total_eq_zero hnone
  have hrun := created_run (k := k) hs acts
  omega

theorem view_of_written {β : Type*} {view : ρ → β} {f g : ρ → ρ} (hf : ∀ r, view (f r) = view r)
    (hfg : ∀ r, g r = f r ∨ g r = r) (r : ρ) : view (g r) = view r := by
  rcases hfg r with hmade | hsame
  · rw [hmade, hf r]
  · rw [hsame]

/-- A row was there before and shows what it showed, or a client has created it. -/
theorem get_of_effect {β : Type*} {view : ρ → β} (h : Effect key s a t)
    (ha : ∀ id f, a = .write id f → ∀ r, view (f r) = view r) {id : ℕ} {r : ρ}
    (hget : t.rows.get id = some r) :
    (∃ r', s.rows.get id = some r' ∧ view r' = view r) ∨ ∃ i, (s.phase i).pending = some r := by
  cases h with
  | write id' f g hg hfg =>
    rcases Table.get_modify_cases hget with hold | ⟨-, r', hold, rfl⟩
    · exact Or.inl ⟨r, hold, rfl⟩
    · exact Or.inl ⟨r', hold, (view_of_written (ha id' f rfl) hfg r').symm⟩
  | delete p => exact Or.inl ⟨r, (Table.get_deleteWhere_eq_some_iff.mp hget).1, rfl⟩
  | created i r' hphase hfind =>
    rcases Table.get_insert_cases hget with hold | ⟨-, rfl⟩
    · exact Or.inl ⟨r, hold, rfl⟩
    · exact Or.inr ⟨i, by rw [hphase]; rfl⟩
  | _ => exact Or.inl ⟨r, hget, rfl⟩

theorem kept_step {β : Type*} {view : ρ → β} (a : Act ι κ ρ) (s : State ι ρ) (ha : a.Spares view)
    (hs : Kept view s) : Kept view (step key a s) := by
  have heffect : Effect key s a (step key a s) := effect_step a s
  generalize step key a s = t at heffect ⊢
  have hseen : ∀ i r id, Kept view (s.reply i r id false) := by
    intro i r id b hb hcreated
    rcases List.mem_append.mp hb with hold | hnew
    · exact hs b hold hcreated
    · obtain rfl := List.mem_singleton.mp hnew
      cases hcreated
  cases heffect with
  | write id f g hg hfg =>
    intro b hb hcreated
    obtain ⟨id', r, hid, hget, hkept⟩ := hs b hb hcreated
    have hkeeps : Table.Keeps view s.rows (s.rows.modify id g) :=
      Table.keeps_modify s.rows id (view_of_written ha hfg)
    obtain ⟨r', hget', hsame⟩ := hkeeps id' r hget
    exact ⟨id', r', hid, hget', hsame.trans hkept⟩
  | delete p => exact ha.elim
  | created i r hphase hfind =>
    intro b hb hcreated
    rcases List.mem_append.mp hb with hold | hnew
    · obtain ⟨id, r', hid, hget, hkept⟩ := hs b hold hcreated
      exact ⟨id, r', hid, Table.get_insert_of_get hget, hkept⟩
    · obtain rfl := List.mem_singleton.mp hnew
      exact ⟨s.rows.next, r, rfl, Table.get_insert_next, rfl⟩
  | seen i r id hphase hfind => exact hseen i r (some id)
  | seenAgain i r id hphase hfind => exact hseen i r (some id)
  | last i r hphase => exact hseen i r (find key s.rows (key r))
  | _ => exact hs

/-- While nothing is deleted and no write shows, what was created is as it was asked for. -/
theorem kept_run {β : Type*} {view : ρ → β} {acts : List (Act ι κ ρ)}
    (hacts : Along (step key) (fun a _ => a.Spares view) s acts) (hs : Kept view s) :
    Kept view (run (step key) s acts) :=
  hacts.invariant kept_step hs

end Runs

end GetOrCreate
