import Mathlib.Logic.Function.Basic
import Mathlib.Tactic.Common
import Tkdchb.Lib.Transition

/-!
# A shared counter updated by read, increment, write back

Clients increment one shared counter without locking it: each reads the counter
into a private copy, and later writes back its copy plus one. Between the two,
other clients may write. A write is *fresh* when the counter still holds the
value its client read.

The counter ends at its initial value plus the number of writes exactly when
every write was fresh. The condition compares values, not versions: a counter
that has lost an update can come back to a value some client read, but by then
the deficit is permanent.

## Main definitions

* `SharedCounter.State`, `SharedCounter.Act`, `SharedCounter.step`
* `SharedCounter.Fresh` — the write finds the counter as its client read it

## Main results

* `SharedCounter.value_eq_iff_along_fresh` — no increment is lost exactly when
  every write of the run is fresh
-/

namespace SharedCounter

open Transition

variable {ι : Type*}

/-- The counter, the private copies, and the number of writes so far. -/
structure State (ι : Type*) where
  /-- The stored counter. -/
  value : ℕ
  /-- The value each client has read and not yet written back. -/
  copy : ι → Option ℕ
  /-- How many writes have happened. -/
  writes : ℕ

/-- A client reads the counter, or writes back its copy plus one. -/
inductive Act (ι : Type*) where
  | read (i : ι)
  | write (i : ι)

/-- One action. A write without a copy does nothing. -/
def step [DecidableEq ι] : Act ι → State ι → State ι
  | .read i, s => { s with copy := Function.update s.copy i (some s.value) }
  | .write i, s =>
    match s.copy i with
    | none => s
    | some v =>
      { value := v + 1, copy := Function.update s.copy i none, writes := s.writes + 1 }

/-- A write is fresh when the counter still holds the value its client read. -/
def Fresh : Act ι → State ι → Prop
  | .read _, _ => True
  | .write i, s => ∀ v, s.copy i = some v → v = s.value

/-- With `base` the initial value: the counter never exceeds the number of
writes, and a copy that differs from the counter is behind the writes. -/
structure Sound (base : ℕ) (s : State ι) : Prop where
  value_le : s.value ≤ base + s.writes
  copy_behind : ∀ i v, s.copy i = some v → v = s.value ∨ v < base + s.writes

/-- An update has been lost: the counter and all copies are behind the writes. -/
structure Lost (base : ℕ) (s : State ι) : Prop where
  value_lt : s.value < base + s.writes
  copy_lt : ∀ i v, s.copy i = some v → v < base + s.writes

variable [DecidableEq ι] {base : ℕ} {s : State ι} {a : Act ι}

theorem step_write_of_none {i : ι} (h : s.copy i = none) : step (.write i) s = s := by
  simp only [step, h]

theorem step_write_of_some {i : ι} {v : ℕ} (h : s.copy i = some v) :
    step (.write i) s =
      { value := v + 1, copy := Function.update s.copy i none, writes := s.writes + 1 } := by
  simp only [step, h]

/-- A copy held after a read is the counter just read, or was held before. -/
private theorem copy_of_update_some {copy : ι → Option ℕ} {i j : ι} {u v : ℕ}
    (h : Function.update copy i (some u) j = some v) : v = u ∨ copy j = some v := by
  by_cases hji : j = i
  · subst hji
    rw [Function.update_self] at h
    exact Or.inl (Option.some.inj h).symm
  · rw [Function.update_of_ne hji] at h
    exact Or.inr h

/-- A copy held after a client's copy was dropped was held before. -/
private theorem copy_of_update_none {copy : ι → Option ℕ} {i j : ι} {v : ℕ}
    (h : Function.update copy i none j = some v) : copy j = some v := by
  by_cases hji : j = i
  · simp [hji] at h
  · rwa [Function.update_of_ne hji] at h

theorem Sound.step (hs : Sound base s) (a : Act ι) : Sound base (step a s) := by
  cases a with
  | read i =>
    refine ⟨hs.value_le, fun j v hj => ?_⟩
    rcases copy_of_update_some hj with hv | hj
    · exact Or.inl hv
    · exact hs.copy_behind j v hj
  | write i =>
    cases hi : s.copy i with
    | none => rwa [step_write_of_none hi]
    | some v =>
      have hv := hs.copy_behind i v hi
      have hle := hs.value_le
      rw [step_write_of_some hi]
      refine ⟨by dsimp only; omega, fun j w hj => Or.inr ?_⟩
      have hw := hs.copy_behind j w (copy_of_update_none hj)
      dsimp only
      omega

theorem Lost.step (hs : Lost base s) (a : Act ι) : Lost base (step a s) := by
  cases a with
  | read i =>
    refine ⟨hs.value_lt, fun j v hj => ?_⟩
    rcases copy_of_update_some hj with rfl | hj
    · exact hs.value_lt
    · exact hs.copy_lt j v hj
  | write i =>
    cases hi : s.copy i with
    | none => rwa [step_write_of_none hi]
    | some v =>
      have hv := hs.copy_lt i v hi
      rw [step_write_of_some hi]
      refine ⟨by dsimp only; omega, fun j w hj => ?_⟩
      have hw := hs.copy_lt j w (copy_of_update_none hj)
      dsimp only
      omega

/-- A fresh step keeps the counter equal to the number of writes. -/
theorem tight_step (h : s.value = base + s.writes) (hfresh : Fresh a s) :
    (step a s).value = base + (step a s).writes := by
  cases a with
  | read i => exact h
  | write i =>
    cases hi : s.copy i with
    | none => rwa [step_write_of_none hi]
    | some v =>
      rw [step_write_of_some hi]
      have hv : v = s.value := hfresh v hi
      dsimp only
      omega

/-- A stale write loses an update for good. -/
theorem lost_of_stale (hs : Sound base s) (hstale : ¬ Fresh a s) : Lost base (step a s) := by
  cases a with
  | read i => exact absurd trivial hstale
  | write i =>
    simp only [Fresh, not_forall] at hstale
    obtain ⟨v, hi, hne⟩ := hstale
    -- the stale copy is behind, so the value written is not ahead of the old writes
    have hv : v < base + s.writes := (hs.copy_behind i v hi).resolve_left hne
    rw [step_write_of_some hi]
    refine ⟨by dsimp only; omega, fun j w hj => ?_⟩
    have hw := hs.copy_behind j w (copy_of_update_none hj)
    have hle := hs.value_le
    dsimp only
    omega

/-- **No lost update.** From a state without outstanding copies, the counter
ends at its initial value plus the number of writes exactly when every write
found the counter as its client had read it. -/
theorem value_eq_iff_along_fresh (s : State ι) (hcopy : ∀ i, s.copy i = none)
    (acts : List (Act ι)) (hwrites : s.writes = 0) :
    (run step s acts).value = s.value + (run step s acts).writes ↔
      Along step Fresh s acts := by
  -- induction on the run: tight as long as writes are fresh, lost for good after a stale one
  suffices H : ∀ (acts : List (Act ι)) (t : State ι), Sound s.value t →
      t.value = s.value + t.writes →
      ((run step t acts).value = s.value + (run step t acts).writes ↔
        Along step Fresh t acts) by
    refine H acts s ⟨by omega, fun i v hi => ?_⟩ (by omega)
    simp [hcopy i] at hi
  intro acts
  induction acts with
  | nil =>
    intro t _ htight
    exact iff_of_true htight trivial
  | cons a acts ih =>
    intro t hsound htight
    rw [run_cons, along_cons]
    by_cases hfresh : Fresh a t
    · rw [ih _ (hsound.step a) (tight_step htight hfresh)]
      exact (and_iff_right hfresh).symm
    · have hlost : Lost s.value (run step (step a t) acts) :=
        run_invariant (I := Lost s.value) (fun a _ h => h.step a) (lost_of_stale hsound hfresh) acts
      exact iff_of_false (Nat.ne_of_lt hlost.value_lt) fun h => hfresh h.1

end SharedCounter
