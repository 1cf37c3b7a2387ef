import Mathlib.Data.List.Nodup

/-!
# Rows with a unique key

A relation with a uniqueness constraint: no two rows have the same key. Creating or
updating the row of a key is the one write that such a relation always accepts.

## Main definitions

* `KeyedRows` — rows, with the uniqueness of their keys as a field
* `KeyedRows.put` — the row of a key is replaced, or the new row is added
* `KeyedRows.putAll` — a list of such writes
* `KeyedRows.find` — the row of a key

## Main results

* `KeyedRows.mem_keys_putAll` — the keys after a list of writes
* `KeyedRows.mem_rows_put` — the rows after a write
* `KeyedRows.exists_filter_key_eq` — a key that has a row has exactly one
-/

/-- Rows of which no two have the same key. -/
structure KeyedRows {ρ κ : Type*} (key : ρ → κ) where
  rows : List ρ
  unique : (rows.map key).Nodup

namespace KeyedRows

variable {ρ κ : Type*} [DecidableEq κ] {key : ρ → κ}

/-- The relation without rows. -/
def empty : KeyedRows key := ⟨[], List.nodup_nil⟩

/-- The keys that have a row. -/
def keys (t : KeyedRows key) : List κ := t.rows.map key

/-- Replacing the row of a key keeps all keys. -/
theorem map_key_replace (rows : List ρ) (r : ρ) :
    (rows.map fun x => if key x = key r then r else x).map key = rows.map key := by
  rw [List.map_map]
  apply List.map_congr_left
  intro x _
  simp only [Function.comp_apply]
  split_ifs with h
  · exact h.symm
  · rfl

/-- Write the row of a key: replace the one that is there, or add it. -/
def put (t : KeyedRows key) (r : ρ) : KeyedRows key :=
  if h : key r ∈ t.rows.map key then
    ⟨t.rows.map fun x => if key x = key r then r else x, by
      rw [map_key_replace]
      exact t.unique⟩
  else
    ⟨t.rows ++ [r], by
      rw [List.map_append, List.map_singleton, List.nodup_append]
      refine ⟨t.unique, List.nodup_singleton _, fun k hk k' hk' => ?_⟩
      obtain rfl := List.mem_singleton.mp hk'
      exact fun heq => h (heq ▸ hk)⟩

/-- Write a list of rows, one after the other. -/
def putAll (t : KeyedRows key) (rs : List ρ) : KeyedRows key := rs.foldl put t

variable {t : KeyedRows key} {r : ρ} {k : κ}

omit [DecidableEq κ] in
@[simp] theorem keys_empty : (empty : KeyedRows key).keys = [] := rfl

@[simp] theorem putAll_nil : t.putAll [] = t := rfl

@[simp] theorem putAll_cons {rs : List ρ} : t.putAll (r :: rs) = (t.put r).putAll rs := rfl

theorem mem_keys_put : k ∈ (t.put r).keys ↔ k ∈ t.keys ∨ k = key r := by
  unfold put keys
  split_ifs with h
  · simp only [map_key_replace]
    constructor
    · exact Or.inl
    · rintro (hk | rfl)
      · exact hk
      · exact h
  · simp only [List.map_append, List.map_singleton, List.mem_append, List.mem_singleton]

/-- The rows after a write: the one that was written, and those of other keys. -/
theorem mem_rows_put {x : ρ} : x ∈ (t.put r).rows ↔ x = r ∨ x ∈ t.rows ∧ key x ≠ key r := by
  unfold put
  split_ifs with h
  · simp only [List.mem_map]
    constructor
    · rintro ⟨y, hy, rfl⟩
      split_ifs with hkey
      · exact Or.inl rfl
      · exact Or.inr ⟨hy, hkey⟩
    · rintro (rfl | ⟨hx, hkey⟩)
      · obtain ⟨y, hy, hkey⟩ := List.mem_map.mp h
        exact ⟨y, hy, if_pos hkey⟩
      · exact ⟨x, hx, if_neg hkey⟩
  · simp only [List.mem_append, List.mem_singleton]
    constructor
    · rintro (hx | rfl)
      · exact Or.inr ⟨hx, fun hkey => h (hkey ▸ List.mem_map_of_mem hx)⟩
      · exact Or.inl rfl
    · rintro (rfl | ⟨hx, -⟩)
      · exact Or.inr rfl
      · exact Or.inl hx

/-- The row of a key. -/
def find (t : KeyedRows key) (k : κ) : Option ρ := t.rows.find? fun x => key x = k

omit [DecidableEq κ] in
theorem eq_of_key_eq {x y : ρ} (hx : x ∈ t.rows) (hy : y ∈ t.rows) (h : key x = key y) : x = y :=
  List.inj_on_of_nodup_map t.unique hx hy h

theorem find_eq_some_iff {x : ρ} : t.find k = some x ↔ x ∈ t.rows ∧ key x = k := by
  have hfind : ∀ {k' : κ} {y : ρ}, t.find k' = some y → y ∈ t.rows ∧ key y = k' := by
    intro k' y h
    have hkey := List.find?_some (p := fun x => decide (key x = k')) h
    exact ⟨List.mem_of_find?_eq_some h, of_decide_eq_true hkey⟩
  constructor
  · exact hfind
  · rintro ⟨hx, rfl⟩
    cases hfound : t.find (key x) with
    | none =>
      have hnone := List.find?_eq_none.mp hfound x hx
      simp at hnone
    | some y =>
      obtain ⟨hy, hkey⟩ := hfind hfound
      rw [eq_of_key_eq hy hx hkey]

/-- The keys after a list of writes are the old ones and those written. -/
theorem mem_keys_putAll {rs : List ρ} : k ∈ (t.putAll rs).keys ↔ k ∈ t.keys ∨ k ∈ rs.map key := by
  induction rs generalizing t with
  | nil => simp
  | cons r rs ih =>
    rw [putAll_cons, ih, mem_keys_put, List.map_cons, List.mem_cons, or_assoc]

/-- A key that has a row has exactly one. -/
theorem exists_filter_key_eq (h : k ∈ t.keys) :
    ∃ r, key r = k ∧ (t.rows.filter fun x => key x = k) = [r] := by
  have hcount : (t.rows.filter fun x => key x = k).length = 1 := by
    rw [← List.countP_eq_length_filter]
    have hone : t.keys.count k = 1 := List.count_eq_one_of_mem t.unique h
    rw [keys, List.count, List.countP_map] at hone
    rw [← hone]
    apply List.countP_congr
    intro x _
    simp
  obtain ⟨r, hr⟩ := List.length_eq_one_iff.mp hcount
  have hmem : r ∈ t.rows.filter fun x => key x = k := by
    rw [hr]
    exact List.mem_singleton_self r
  exact ⟨r, of_decide_eq_true (List.mem_filter.mp hmem).2, hr⟩

end KeyedRows
