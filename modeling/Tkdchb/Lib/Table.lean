import Mathlib.Data.List.Basic
import Mathlib.Data.List.Nodup
import Mathlib.Data.List.Range
import Mathlib.Logic.Function.Basic
import Mathlib.Data.Nat.Notation

/-!
# Keyed tables with an auto-increment counter

A table maps primary keys to rows and remembers the next key it will hand out.
No row ever sits at or above that counter, so an inserted row never replaces an
old one. This is the part of a relational table that programs rely on when they
create, read, update and search rows by key.

## Main definitions

* `Table` — rows by primary key, with the freshness of the next key as a field
* `Table.insert`, `Table.put`, `Table.modify`, `Table.erase` — create, write, update and
  delete
* `Table.deleteWhere` — delete the rows that a predicate finds
* `Table.oldest`, `Table.newest` — the first row satisfying a predicate, in
  ascending or descending key order
* `Table.select` — all rows satisfying a predicate
* `Table.Keeps` — every row stays, up to what a view of it does not see

## Main results

* `Table.get_insert`, `Table.get_modify`, `Table.get_erase` — reads after writes
* `Table.oldest_eq_some_iff`, `Table.newest_eq_some_iff` — what a search returns
-/

/-- Rows by primary key. `next` is the key the next insert receives. -/
structure Table (ρ : Type*) where
  /-- The row stored under a key. -/
  get : ℕ → Option ρ
  /-- The next key to be handed out. -/
  next : ℕ
  /-- Keys from the counter on are unused. -/
  fresh : ∀ k, next ≤ k → get k = none

namespace Table

variable {ρ : Type*} {t : Table ρ} {k j : ℕ} {r r' : ρ} {f : ρ → ρ} {p : ρ → Bool}

/-- The table without rows, numbering from one. -/
def empty : Table ρ where
  get _ := none
  next := 1
  fresh _ _ := rfl

instance : Inhabited (Table ρ) := ⟨empty⟩

@[ext] theorem ext {t u : Table ρ} (hget : ∀ k, t.get k = u.get k) (hnext : t.next = u.next) :
    t = u := by
  obtain ⟨get, next, _⟩ := t
  obtain ⟨get', next', _⟩ := u
  obtain rfl : get = get' := funext hget
  obtain rfl : next = next' := hnext
  rfl

theorem lt_next_of_get (h : t.get k = some r) : k < t.next := by
  by_contra hle
  simp [t.fresh k (by omega)] at h

/-! ### Writing -/

/-- Insert a row under the next key. -/
def insert (t : Table ρ) (r : ρ) : Table ρ where
  get k := if k = t.next then some r else t.get k
  next := t.next + 1
  fresh k hk := by
    rw [if_neg (by omega)]
    exact t.fresh k (by omega)

/-- Write a row under `k`, whether or not there is one. -/
def put (t : Table ρ) (k : ℕ) (r : ρ) : Table ρ where
  get j := if j = k then some r else t.get j
  next := max t.next (k + 1)
  fresh j hj := by
    rw [if_neg (by omega)]
    exact t.fresh j (by omega)

/-- Update the row under `k`, if there is one. -/
def modify (t : Table ρ) (k : ℕ) (f : ρ → ρ) : Table ρ where
  get j := if j = k then (t.get j).map f else t.get j
  next := t.next
  fresh j hj := by
    rw [t.fresh j hj]
    split_ifs <;> rfl

/-- Update every row. -/
def map (t : Table ρ) (f : ρ → ρ) : Table ρ where
  get j := (t.get j).map f
  next := t.next
  fresh j hj := by rw [t.fresh j hj, Option.map_none]

/-- The table of what a view shows of every row. -/
def image {σ : Type*} (t : Table ρ) (f : ρ → σ) : Table σ where
  get j := (t.get j).map f
  next := t.next
  fresh j hj := by rw [t.fresh j hj, Option.map_none]

/-- Delete the row under `k`. -/
def erase (t : Table ρ) (k : ℕ) : Table ρ where
  get j := if j = k then none else t.get j
  next := t.next
  fresh j hj := by
    split_ifs
    · rfl
    · exact t.fresh j hj

/-- Delete the rows that satisfy `p`. -/
def deleteWhere (t : Table ρ) (p : ρ → Bool) : Table ρ where
  get j := (t.get j).filter fun r => !p r
  next := t.next
  fresh j hj := by rw [t.fresh j hj, Option.filter_none]

theorem get_insert : (t.insert r).get k = if k = t.next then some r else t.get k := rfl

theorem get_put : (t.put k r).get j = if j = k then some r else t.get j := rfl

theorem get_modify : (t.modify k f).get j = if j = k then (t.get j).map f else t.get j := rfl

theorem get_map : (t.map f).get j = (t.get j).map f := rfl

theorem get_erase : (t.erase k).get j = if j = k then none else t.get j := rfl

@[simp] theorem next_insert : (t.insert r).next = t.next + 1 := rfl

@[simp] theorem next_modify : (t.modify k f).next = t.next := rfl

@[simp] theorem next_erase : (t.erase k).next = t.next := rfl

@[simp] theorem next_deleteWhere : (t.deleteWhere p).next = t.next := rfl

theorem get_deleteWhere_eq_some_iff :
    (t.deleteWhere p).get k = some r ↔ t.get k = some r ∧ p r = false := by
  simp [deleteWhere, Option.filter_eq_some_iff]

@[simp] theorem get_insert_next : (t.insert r).get t.next = some r := if_pos rfl

theorem get_insert_of_ne (h : k ≠ t.next) : (t.insert r).get k = t.get k := if_neg h

/-- Inserting keeps every row that is already there. -/
theorem get_insert_of_get (h : t.get k = some r') : (t.insert r).get k = some r' := by
  rw [get_insert_of_ne (lt_next_of_get h).ne, h]

@[simp] theorem get_modify_self : (t.modify k f).get k = (t.get k).map f := if_pos rfl

theorem get_modify_of_ne (h : j ≠ k) : (t.modify k f).get j = t.get j := if_neg h

@[simp] theorem get_erase_self : (t.erase k).get k = none := if_pos rfl

/-- A row found after an erase was there before it. -/
theorem get_of_get_erase (h : (t.erase k).get j = some r) : t.get j = some r := by
  rw [get_erase] at h
  split_ifs at h
  exact h

/-- Updates that agree on the row under `k` are the same. -/
theorem modify_congr {g : ρ → ρ} (h : ∀ r, t.get k = some r → f r = g r) :
    t.modify k f = t.modify k g := by
  refine ext (fun j => ?_) rfl
  rw [get_modify, get_modify]
  split_ifs with hj
  · subst hj
    cases hr : t.get j with
    | none => rfl
    | some r => rw [Option.map_some, Option.map_some, h r hr]
  · rfl

/-- An update that leaves every row alike leaves the table alike. -/
theorem modify_eq_self (h : ∀ r, t.get k = some r → f r = r) : t.modify k f = t := by
  have hid : t.modify k id = t := by
    refine ext (fun j => ?_) rfl
    rw [get_modify, Option.map_id, id_eq, ite_self]
  exact (modify_congr h).trans hid

/-! ### Searching -/

/-- The row under `k`, with its key, if it satisfies `p`. -/
def hit (t : Table ρ) (p : ρ → Bool) (k : ℕ) : Option (ℕ × ρ) :=
  ((t.get k).filter p).map (Prod.mk k)

theorem hit_eq_some_iff {x : ℕ × ρ} :
    t.hit p k = some x ↔ x.1 = k ∧ t.get k = some x.2 ∧ p x.2 = true := by
  obtain ⟨i, r⟩ := x
  simp only [hit, Option.map_eq_some_iff, Option.filter_eq_some_iff, Prod.mk.injEq]
  constructor
  · rintro ⟨r', ⟨hget, hp⟩, rfl, rfl⟩
    exact ⟨rfl, hget, hp⟩
  · rintro ⟨rfl, hget, hp⟩
    exact ⟨r, ⟨hget, hp⟩, rfl, rfl⟩

theorem hit_eq_none_iff : t.hit p k = none ↔ ∀ r, t.get k = some r → p r = false := by
  cases hr : t.get k with
  | none => simp [hit, hr]
  | some r => cases hp : p r <;> simp [hit, hr, hp, Option.filter]

/-- The first row satisfying `p`, in ascending key order. -/
def oldest (t : Table ρ) (p : ρ → Bool) : Option (ℕ × ρ) :=
  (List.range t.next).findSome? (t.hit p)

/-- The first row satisfying `p`, in descending key order. -/
def newest (t : Table ρ) (p : ρ → Bool) : Option (ℕ × ρ) :=
  (List.range t.next).reverse.findSome? (t.hit p)

/-- All rows satisfying `p` with their keys, in ascending key order. -/
def select (t : Table ρ) (p : ρ → Bool) : List (ℕ × ρ) := (List.range t.next).filterMap (t.hit p)

theorem mem_select_iff {x : ℕ × ρ} : x ∈ t.select p ↔ t.get x.1 = some x.2 ∧ p x.2 = true := by
  simp only [select, List.mem_filterMap, List.mem_range, hit_eq_some_iff]
  constructor
  · rintro ⟨k, -, rfl, hget, hp⟩
    exact ⟨hget, hp⟩
  · rintro ⟨hget, hp⟩
    exact ⟨x.1, lt_next_of_get hget, rfl, hget, hp⟩

/-- A row is found under its key. -/
theorem mem_select_of_get {r : ρ} (hget : t.get k = some r) (hp : p r = true) :
    (k, r) ∈ t.select p :=
  mem_select_iff.mpr ⟨hget, hp⟩

/-- A row is selected once. -/
theorem nodup_select : ((t.select p).map Prod.fst).Nodup := by
  rw [select, List.map_filterMap]
  apply List.Nodup.filterMap _ List.nodup_range
  intro k k' j hj hj'
  obtain ⟨x, hx, rfl⟩ := Option.map_eq_some_iff.mp hj
  obtain ⟨x', hx', heq⟩ := Option.map_eq_some_iff.mp hj'
  rw [hit_eq_some_iff] at hx hx'
  rw [← hx.1, ← hx'.1, heq]

theorem oldest_spec {x : ℕ × ρ} (h : t.oldest p = some x) :
    t.get x.1 = some x.2 ∧ p x.2 = true := by
  obtain ⟨k, _, hk⟩ := List.exists_of_findSome?_eq_some h
  obtain ⟨rfl, hget, hp⟩ := hit_eq_some_iff.mp hk
  exact ⟨hget, hp⟩

theorem newest_spec {x : ℕ × ρ} (h : t.newest p = some x) :
    t.get x.1 = some x.2 ∧ p x.2 = true := by
  obtain ⟨k, _, hk⟩ := List.exists_of_findSome?_eq_some h
  obtain ⟨rfl, hget, hp⟩ := hit_eq_some_iff.mp hk
  exact ⟨hget, hp⟩

/-- A search fails exactly when no row satisfies the predicate. -/
theorem oldest_eq_none_iff :
    t.oldest p = none ↔ ∀ k r, t.get k = some r → p r = false := by
  rw [oldest, List.findSome?_eq_none_iff]
  constructor
  · intro h k r hr
    exact hit_eq_none_iff.mp (h k (List.mem_range.mpr (lt_next_of_get hr))) r hr
  · intro h k _
    exact hit_eq_none_iff.mpr (h k)

theorem newest_eq_none_iff :
    t.newest p = none ↔ ∀ k r, t.get k = some r → p r = false := by
  rw [newest, List.findSome?_eq_none_iff]
  constructor
  · intro h k r hr
    exact hit_eq_none_iff.mp
      (h k (List.mem_reverse.mpr (List.mem_range.mpr (lt_next_of_get hr)))) r hr
  · intro h k _
    exact hit_eq_none_iff.mpr (h k)

/-- A key-ordered search returns the only row satisfying the predicate. -/
theorem oldest_eq_some_of_unique (hget : t.get k = some r) (hp : p r = true)
    (huniq : ∀ j s, t.get j = some s → p s = true → j = k) : t.oldest p = some (k, r) := by
  -- whatever is found satisfies the predicate, so it is that row
  cases hx : t.oldest p with
  | none => simp [oldest_eq_none_iff.mp hx k r hget] at hp
  | some x =>
    obtain ⟨j, s⟩ := x
    obtain ⟨hjget, hjp⟩ := oldest_spec hx
    obtain rfl := huniq j s hjget hjp
    obtain rfl : s = r := Option.some.inj (hjget.symm.trans hget)
    rfl

/-- No row satisfying the predicate has an earlier key than the oldest one. -/
theorem ge_of_oldest (h : t.oldest p = some (k, r)) (hj : t.get j = some r') (hp : p r' = true) :
    k ≤ j := by
  by_contra hjk
  obtain ⟨l₁, a, l₂, hl, ha, hbefore⟩ := List.findSome?_eq_some_iff.mp h
  obtain ⟨rfl, -, -⟩ := hit_eq_some_iff.mp ha
  have hsorted : (List.range t.next).Pairwise (· < ·) := List.pairwise_lt_range
  have hmem : j ∈ l₁ ++ k :: l₂ := hl ▸ List.mem_range.mpr (lt_next_of_get hj)
  rw [hl, List.pairwise_append, List.pairwise_cons] at hsorted
  -- a rival below `k` would have been met first
  rcases List.mem_append.mp hmem with hmem | hmem
  · simp [hit_eq_none_iff.mp (hbefore j hmem) r' hj] at hp
  · rcases List.mem_cons.mp hmem with rfl | hmem
    · exact hjk le_rfl
    · exact hjk (hsorted.2.1.1 j hmem).le

/-- The oldest row satisfying `p` is the one no earlier row rivals. -/
theorem oldest_eq_some_iff :
    t.oldest p = some (k, r) ↔
      t.get k = some r ∧ p r = true ∧ ∀ j s, j < k → t.get j = some s → p s = false := by
  constructor
  · intro h
    obtain ⟨hget, hp⟩ := oldest_spec h
    refine ⟨hget, hp, fun j s hjk hs => ?_⟩
    by_contra hps
    exact absurd (ge_of_oldest h hs (by simpa using hps)) hjk.not_ge
  · rintro ⟨hget, hp, hearlier⟩
    cases hx : t.oldest p with
    | none => simp [oldest_eq_none_iff.mp hx k r hget] at hp
    | some x =>
      obtain ⟨j, s⟩ := x
      obtain ⟨hjget, hjp⟩ := oldest_spec hx
      obtain hlt | rfl := (ge_of_oldest hx hget hp).lt_or_eq
      · simp [hearlier j s hlt hjget] at hjp
      · obtain rfl : s = r := Option.some.inj (hjget.symm.trans hget)
        rfl

/-- No row satisfying the predicate has a later key than the newest one. -/
theorem le_of_newest (h : t.newest p = some (k, r)) (hj : t.get j = some r') (hp : p r' = true) :
    j ≤ k := by
  by_contra hkj
  obtain ⟨l₁, a, l₂, hl, ha, hbefore⟩ := List.findSome?_eq_some_iff.mp h
  obtain ⟨rfl, -, -⟩ := hit_eq_some_iff.mp ha
  have hsorted : ((List.range t.next).reverse).Pairwise (· > ·) := by
    rw [List.pairwise_reverse]
    exact List.pairwise_lt_range
  have hmem : j ∈ l₁ ++ k :: l₂ :=
    hl ▸ List.mem_reverse.mpr (List.mem_range.mpr (lt_next_of_get hj))
  rw [hl, List.pairwise_append, List.pairwise_cons] at hsorted
  -- a rival above `k` would have been met first
  rcases List.mem_append.mp hmem with hmem | hmem
  · simp [hit_eq_none_iff.mp (hbefore j hmem) r' hj] at hp
  · rcases List.mem_cons.mp hmem with rfl | hmem
    · exact hkj le_rfl
    · exact hkj (hsorted.2.1.1 j hmem).le

/-- The newest row satisfying `p` is the one no later row rivals. -/
theorem newest_eq_some_iff :
    t.newest p = some (k, r) ↔
      t.get k = some r ∧ p r = true ∧ ∀ j s, k < j → t.get j = some s → p s = false := by
  constructor
  · intro h
    obtain ⟨hget, hp⟩ := newest_spec h
    refine ⟨hget, hp, fun j s hkj hs => ?_⟩
    by_contra hps
    exact absurd (le_of_newest h hs (by simpa using hps)) hkj.not_ge
  · rintro ⟨hget, hp, hlater⟩
    cases hx : t.newest p with
    | none => simp [newest_eq_none_iff.mp hx k r hget] at hp
    | some x =>
      obtain ⟨j, s⟩ := x
      obtain ⟨hjget, hjp⟩ := newest_spec hx
      obtain hlt | rfl := (le_of_newest hx hget hp).lt_or_eq
      · simp [hlater j s hlt hjget] at hjp
      · obtain rfl : s = r := Option.some.inj (hjget.symm.trans hget)
        rfl

/-! ### Rows that stay -/

section Keeps

variable {κ : Type*} {view : ρ → κ} {u v : Table ρ}

/-- Every row of `t` is still in `u`, and looks the same through `view`. -/
def Keeps (view : ρ → κ) (t u : Table ρ) : Prop :=
  ∀ k r, t.get k = some r → ∃ r', u.get k = some r' ∧ view r' = view r

theorem Keeps.refl (view : ρ → κ) (t : Table ρ) : Keeps view t t := fun _ r h => ⟨r, h, rfl⟩

theorem Keeps.trans (h : Keeps view t u) (h' : Keeps view u v) : Keeps view t v := by
  intro k r hr
  obtain ⟨r₁, hr₁, hview₁⟩ := h k r hr
  obtain ⟨r₂, hr₂, hview₂⟩ := h' k r₁ hr₁
  exact ⟨r₂, hr₂, hview₂.trans hview₁⟩

theorem keeps_insert (view : ρ → κ) (t : Table ρ) (r : ρ) : Keeps view t (t.insert r) :=
  fun _ r' hr' => ⟨r', get_insert_of_get hr', rfl⟩

/-- An update the view does not see. -/
theorem keeps_modify (t : Table ρ) (k : ℕ) (hf : ∀ r, view (f r) = view r) :
    Keeps view t (t.modify k f) := by
  intro j r hr
  by_cases hj : j = k
  · subst hj
    exact ⟨f r, by rw [get_modify_self, hr, Option.map_some], hf r⟩
  · exact ⟨r, by rw [get_modify_of_ne hj, hr], rfl⟩

/-- What a view shows of a row is the same for rows with the same view. -/
theorem eq_of_view {α : Type*} {view : ρ → ρ} {g : ρ → α} (h : view r' = view r)
    (hg : ∀ r, g (view r) = g r) : g r' = g r := by
  rw [← hg r', h, hg r]

/-- A row found after an insert is the new one or was there. -/
theorem get_insert_cases (h : (t.insert r).get k = some r') :
    t.get k = some r' ∨ k = t.next ∧ r' = r := by
  rw [get_insert] at h
  split_ifs at h with hk
  · exact Or.inr ⟨hk, (Option.some.inj h).symm⟩
  · exact Or.inl h

theorem forall_empty {P : ρ → Prop} (k : ℕ) (r : ρ) (h : (empty : Table ρ).get k = some r) :
    P r := by
  cases h

/-- What holds of the old rows and of the new one holds of all rows after an insert. -/
theorem forall_insert {P : ρ → Prop} (hold : ∀ k r, t.get k = some r → P r) (hnew : P r) :
    ∀ k r', (t.insert r).get k = some r' → P r' := by
  intro k r' h
  rcases get_insert_cases h with h | ⟨-, rfl⟩
  · exact hold k r' h
  · exact hnew

/-- A row found after an update is an untouched one or the image of the old one. -/
theorem get_modify_cases (h : (t.modify k f).get j = some r') :
    t.get j = some r' ∨ j = k ∧ ∃ r, t.get j = some r ∧ r' = f r := by
  rw [get_modify] at h
  split_ifs at h with hj
  · obtain ⟨r, hr, hf⟩ := Option.map_eq_some_iff.mp h
    exact Or.inr ⟨hj, r, hr, hf.symm⟩
  · exact Or.inl h

end Keeps

end Table
