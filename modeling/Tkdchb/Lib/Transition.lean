import Mathlib.Data.List.Basic
import Mathlib.Data.Nat.Notation

/-!
# Runs of a labelled step function

A system is given by a total step function `step : α → σ → σ`; an action that is
not enabled leaves the state alone, so every list of actions is a run and the
quantifier over action lists ranges over all interleavings.

## Main definitions

* `Transition.run` — the state after a list of actions
* `Transition.visited` — every state of a run, first to last
* `Transition.Along` — a condition on (action, state before it) at every step
* `Transition.total` — a quantity summed over the steps of a run
* `Transition.outputs` — what the steps of a run put out, in order
* `Transition.transcript` — the run of another system that a run amounts to

## Main results

* `run_invariant`, `Along.invariant`, `Along.forall_visited` — what each step preserves, a
  run preserves
* `mem_visited_iff` — the visited states are the states after the prefixes
* `forall_visited_iff` — the runs that stay in a set of states, by their steps
* `pairwise_visited` — what a step keeps, a run keeps between any two of its states
* `total_le_one` — what ends itself is counted at most once
* `pairwise_visited_iff` — a property is never lost along a run exactly when no
  step loses it
* `run_transcript`, `along_transcript_iff` — simulation of one system by another
-/

namespace Transition

variable {α σ : Type*} (step : α → σ → σ)

/-- The state after performing the actions in order. -/
def run (s : σ) (acts : List α) : σ := acts.foldl (fun s a => step a s) s

/-- The states of a run, the starting state first. -/
def visited (s : σ) : List α → List σ
  | [] => [s]
  | a :: acts => s :: visited (step a s) acts

/-- Every step of the run satisfies `C` of its action and the state before it. -/
def Along (C : α → σ → Prop) (s : σ) : List α → Prop
  | [] => True
  | a :: acts => C a s ∧ Along C (step a s) acts

/-- The sum of `f` over the steps of the run. -/
def total (f : α → σ → ℕ) (s : σ) : List α → ℕ
  | [] => 0
  | a :: acts => f a s + total f (step a s) acts

/-- What the steps of the run put out, in order. -/
def outputs {β : Type*} (f : α → σ → List β) (s : σ) : List α → List β
  | [] => []
  | a :: acts => f a s ++ outputs f (step a s) acts

variable {step} {C : α → σ → Prop} {I : σ → Prop} {s : σ} {a : α} {acts acts' : List α}

@[simp] theorem run_nil : run step s [] = s := rfl

@[simp] theorem run_cons : run step s (a :: acts) = run step (step a s) acts := rfl

theorem run_append : run step s (acts ++ acts') = run step (run step s acts) acts' :=
  List.foldl_append

@[simp] theorem visited_nil : visited step s [] = [s] := rfl

@[simp] theorem visited_cons :
    visited step s (a :: acts) = s :: visited step (step a s) acts := rfl

@[simp] theorem along_nil : Along step C s [] := trivial

@[simp] theorem along_cons :
    Along step C s (a :: acts) ↔ C a s ∧ Along step C (step a s) acts := Iff.rfl

@[simp] theorem total_nil {f : α → σ → ℕ} : total step f s [] = 0 := rfl

@[simp] theorem total_cons {f : α → σ → ℕ} :
    total step f s (a :: acts) = f a s + total step f (step a s) acts := rfl

@[simp] theorem outputs_nil {β : Type*} {f : α → σ → List β} : outputs step f s [] = [] := rfl

@[simp] theorem outputs_cons {β : Type*} {f : α → σ → List β} :
    outputs step f s (a :: acts) = f a s ++ outputs step f (step a s) acts := rfl

instance Along.decidable [∀ a s, Decidable (C a s)] :
    ∀ (s : σ) (acts : List α), Decidable (Along step C s acts)
  | _, [] => isTrue trivial
  | s, a :: acts => @instDecidableAnd _ _ _ (Along.decidable (step a s) acts)

/-- A condition along a run holds at the step after any prefix. -/
theorem along_append :
    Along step C s (acts ++ acts') ↔
      Along step C s acts ∧ Along step C (run step s acts) acts' := by
  induction acts generalizing s with
  | nil => simp
  | cons a acts ih => simp only [List.cons_append, along_cons, ih, run_cons, and_assoc]

theorem Along.mono {D : α → σ → Prop} (himp : ∀ a s, C a s → D a s)
    (h : Along step C s acts) : Along step D s acts := by
  induction acts generalizing s with
  | nil => trivial
  | cons a acts ih => exact ⟨himp a s h.1, ih h.2⟩

theorem Along.and {D : α → σ → Prop} (h : Along step C s acts) (h' : Along step D s acts) :
    Along step (fun a s => C a s ∧ D a s) s acts := by
  induction acts generalizing s with
  | nil => trivial
  | cons a acts ih => exact ⟨⟨h.1, h'.1⟩, ih h.2 h'.2⟩

/-- A condition on every action holds along every run of them. -/
theorem along_of_forall {P : α → Prop} (h : ∀ a ∈ acts, P a) :
    Along step (fun a _ => P a) s acts := by
  induction acts generalizing s with
  | nil => trivial
  | cons a acts ih =>
    exact ⟨h a List.mem_cons_self, ih fun b hb => h b (List.mem_cons_of_mem _ hb)⟩

/-- What the condition and the invariant imply at each step holds along the run. -/
theorem Along.imp_invariant {D : α → σ → Prop} (hstep : ∀ a s, C a s → I s → I (step a s))
    (himp : ∀ a s, C a s → I s → D a s) (h : Along step C s acts) (hs : I s) :
    Along step D s acts := by
  induction acts generalizing s with
  | nil => trivial
  | cons a acts ih => exact ⟨himp a s h.1 hs, ih h.2 (hstep a s h.1 hs)⟩

/-- What every step that meets `C` preserves, a run that meets `C` preserves. -/
theorem Along.invariant (hstep : ∀ a s, C a s → I s → I (step a s))
    (h : Along step C s acts) (hs : I s) : I (run step s acts) := by
  induction acts generalizing s with
  | nil => exact hs
  | cons a acts ih => exact ih h.2 (hstep a s h.1 hs)

/-- What every step preserves, every run preserves. -/
theorem run_invariant (hstep : ∀ a s, I s → I (step a s)) (hs : I s) (acts : List α) :
    I (run step s acts) := by
  induction acts generalizing s with
  | nil => exact hs
  | cons a acts ih => exact ih (hstep a s hs)

/-- Along a run that preserves `I`, conditions may be exchanged that agree under `I`. -/
theorem along_congr {D : α → σ → Prop} (hstep : ∀ a s, I s → I (step a s))
    (hiff : ∀ a s, I s → (C a s ↔ D a s)) (hs : I s) (acts : List α) :
    Along step C s acts ↔ Along step D s acts := by
  induction acts generalizing s with
  | nil => exact Iff.rfl
  | cons a acts ih => exact and_congr (hiff a s hs) (ih (hstep a s hs))

/-- The visited states are exactly the states after the prefixes of the run. -/
theorem mem_visited_iff {t : σ} :
    t ∈ visited step s acts ↔ ∃ front back, acts = front ++ back ∧ t = run step s front := by
  induction acts generalizing s with
  | nil =>
    simp only [visited_nil, List.mem_singleton, List.nil_eq, List.append_eq_nil_iff]
    exact ⟨fun h => ⟨[], [], ⟨rfl, rfl⟩, h⟩, fun ⟨_, _, ⟨hf, _⟩, h⟩ => by rw [h, hf, run_nil]⟩
  | cons a acts ih =>
    rw [visited_cons, List.mem_cons, ih]
    constructor
    · rintro (rfl | ⟨front, back, rfl, rfl⟩)
      · exact ⟨[], a :: acts, rfl, rfl⟩
      · exact ⟨a :: front, back, rfl, rfl⟩
    · rintro ⟨_ | ⟨b, front⟩, back, hacts, rfl⟩
      · exact Or.inl rfl
      · obtain ⟨rfl, rfl⟩ := List.cons.inj hacts
        exact Or.inr ⟨front, back, rfl, rfl⟩

/-- The last state of a run is visited. -/
theorem run_mem_visited (s : σ) (acts : List α) : run step s acts ∈ visited step s acts :=
  mem_visited_iff.mpr ⟨acts, [], (List.append_nil acts).symm, rfl⟩

/-- What holds of the visited states holds at every step. -/
theorem along_of_forall_visited {P : σ → Prop} (h : ∀ t ∈ visited step s acts, P t) :
    Along step (fun _ t => P t) s acts := by
  induction acts generalizing s with
  | nil => trivial
  | cons a acts ih =>
    rw [visited_cons, List.forall_mem_cons] at h
    exact ⟨h.1, ih h.2⟩

/-- What every step that meets `C` preserves holds in every state of a run that meets `C`. -/
theorem Along.forall_visited (hstep : ∀ a s, C a s → I s → I (step a s))
    (h : Along step C s acts) (hs : I s) : ∀ t ∈ visited step s acts, I t := by
  intro t ht
  obtain ⟨front, back, rfl, rfl⟩ := mem_visited_iff.mp ht
  exact (along_append.mp h).1.invariant hstep hs

/-- If a step keeps `I` exactly when it meets `C`, the runs that stay in `I` are those that
meet `C`. What all steps preserve may be assumed. -/
theorem forall_visited_iff {J : σ → Prop} (hinv : ∀ a s, J s → J (step a s))
    (hiff : ∀ a s, J s → I s → (I (step a s) ↔ C a s)) (hs : J s) (hI : I s) (acts : List α) :
    (∀ t ∈ visited step s acts, I t) ↔ Along step C s acts := by
  induction acts generalizing s with
  | nil => simpa using hI
  | cons a acts ih =>
    rw [visited_cons, List.forall_mem_cons, and_iff_right hI, along_cons, ← hiff a s hs hI]
    constructor
    · intro h
      have hnext : I (step a s) := h _ (mem_visited_iff.mpr ⟨[], acts, rfl, rfl⟩)
      exact ⟨hnext, (ih (hinv a s hs) hnext).mp h⟩
    · rintro ⟨hnext, hrest⟩
      exact (ih (hinv a s hs) hnext).mpr hrest

/-- The same for runs whose steps all meet `C`. -/
theorem Along.forall_visited_iff {J : σ → Prop} {D : α → σ → Prop}
    (hinv : ∀ a s, C a s → J s → J (step a s))
    (hiff : ∀ a s, C a s → J s → I s → (I (step a s) ↔ D a s)) (h : Along step C s acts)
    (hs : J s) (hI : I s) : (∀ t ∈ visited step s acts, I t) ↔ Along step D s acts := by
  induction acts generalizing s with
  | nil => simpa using hI
  | cons a acts ih =>
    rw [along_cons] at h
    rw [visited_cons, List.forall_mem_cons, and_iff_right hI, along_cons,
      ← hiff a s h.1 hs hI]
    constructor
    · intro hall
      have hnext : I (step a s) := hall _ (mem_visited_iff.mpr ⟨[], acts, rfl, rfl⟩)
      exact ⟨hnext, (ih h.2 (hinv a s h.1 hs) hnext).mp hall⟩
    · rintro ⟨hnext, hrest⟩
      exact (ih h.2 (hinv a s h.1 hs) hnext).mpr hrest

/-- A relation that is transitive and holds of every step holds of any two states of a run,
the earlier one first. -/
theorem pairwise_visited {R : σ → σ → Prop} (hinv : ∀ a s, I s → I (step a s))
    (htrans : ∀ s t u, R s t → R t u → R s u) (hstep : ∀ a s, I s → R s (step a s)) (hs : I s)
    (acts : List α) : (visited step s acts).Pairwise R := by
  induction acts generalizing s with
  | nil => simp
  | cons a acts ih =>
    have hrest := ih (hinv a s hs)
    rw [visited_cons, List.pairwise_cons]
    refine ⟨fun t ht => ?_, hrest⟩
    cases acts with
    | nil =>
      obtain rfl : t = step a s := by simpa using ht
      exact hstep a s hs
    | cons a' acts =>
      rw [visited_cons, List.pairwise_cons] at hrest
      rcases List.mem_cons.mp ht with rfl | hlater
      · exact hstep a s hs
      · exact htrans _ _ _ (hstep a s hs) (hrest.1 t hlater)

/-- A log that grows with the output of each step grows with the output of the run. -/
theorem log_run {β γ : Type*} {f : α → σ → List β} {g : β → List γ} {L : σ → List γ}
    (hstep : ∀ a s, L (step a s) = L s ++ (f a s).flatMap g) (s : σ) (acts : List α) :
    L (run step s acts) = L s ++ (outputs step f s acts).flatMap g := by
  induction acts generalizing s with
  | nil => rw [run_nil, outputs_nil, List.flatMap_nil, List.append_nil]
  | cons a acts ih =>
    rw [run_cons, ih, hstep, outputs_cons, List.flatMap_append, List.append_assoc]

/-- A property is never lost between two states of a run exactly when no single
step loses it. -/
theorem pairwise_visited_iff (P : σ → Prop) :
    (visited step s acts).Pairwise (fun x y => P x → P y) ↔
      Along step (fun a s => P s → P (step a s)) s acts := by
  induction acts generalizing s with
  | nil => simp
  | cons a acts ih =>
    rw [visited_cons, List.pairwise_cons, along_cons, ih]
    -- the next state is visited; from it on no step loses the property
    refine and_congr_left fun hrest => ⟨fun h => h _ ?_, fun h t ht hPs => ?_⟩
    · exact mem_visited_iff.mpr ⟨[], acts, rfl, rfl⟩
    · obtain ⟨front, back, rfl, rfl⟩ := mem_visited_iff.mp ht
      exact (along_append.mp hrest).1.invariant (fun a s hkeep => hkeep) (h hPs)

theorem total_append {f : α → σ → ℕ} :
    total step f s (acts ++ acts') = total step f s acts + total step f (run step s acts) acts' := by
  induction acts generalizing s with
  | nil => simp
  | cons a acts ih => rw [List.cons_append, total_cons, ih, total_cons, run_cons, Nat.add_assoc]

/-- What no step adds to once `I` holds stays at zero. -/
theorem total_eq_zero {f : α → σ → ℕ} (hinv : ∀ a s, I s → I (step a s))
    (hzero : ∀ a s, I s → f a s = 0) (hs : I s) (acts : List α) : total step f s acts = 0 := by
  induction acts generalizing s with
  | nil => rfl
  | cons a acts ih => rw [total_cons, hzero a s hs, ih (hinv a s hs)]

/-- A run whose steps all add nothing adds nothing. -/
theorem Along.total_eq_zero {f : α → σ → ℕ} (hzero : ∀ a s, C a s → f a s = 0)
    (h : Along step C s acts) : total step f s acts = 0 := by
  induction acts generalizing s with
  | nil => rfl
  | cons a acts ih => rw [total_cons, hzero a s h.1, ih h.2]

/-- A step that counts and ends all later counting is taken at most once. -/
theorem total_le_one {f : α → σ → ℕ} {J : σ → Prop} (hJ : ∀ a s, J s → J (step a s))
    (hinv : ∀ a s, I s → I (step a s)) (hzero : ∀ a s, I s → f a s = 0)
    (hone : ∀ a s, J s → f a s ≤ 1 ∧ (f a s ≠ 0 → I (step a s))) (hs : J s) (acts : List α) :
    total step f s acts ≤ 1 := by
  induction acts generalizing s with
  | nil => exact Nat.zero_le 1
  | cons a acts ih =>
    obtain ⟨hle, hends⟩ := hone a s hs
    rw [total_cons]
    by_cases hcount : f a s = 0
    · rw [hcount, Nat.zero_add]
      exact ih (hJ a s hs)
    · rw [total_eq_zero hinv hzero (hends hcount)]
      exact hle

/-! ### Simulation -/

section Simulation

variable {β τ : Type*} {step' : β → τ → τ} {abs : σ → τ} {tr : α → σ → Option β}

/-- The actions of another system that a run amounts to. A step with no counterpart is
a stutter. -/
def transcript (step : α → σ → σ) (tr : α → σ → Option β) (s : σ) : List α → List β
  | [] => []
  | a :: acts => (tr a s).toList ++ transcript step tr (step a s) acts

/-- If each step amounts to its transcript, so does a run. -/
theorem run_transcript (hinv : ∀ a s, I s → I (step a s))
    (hsim : ∀ a s, I s → abs (step a s) = run step' (abs s) (tr a s).toList)
    (hs : I s) (acts : List α) :
    abs (run step s acts) = run step' (abs s) (transcript step tr s acts) := by
  induction acts generalizing s with
  | nil => rfl
  | cons a acts ih => rw [run_cons, ih (hinv a s hs), hsim a s hs, transcript, run_append]

/-- A condition along the transcript is a condition on the steps that are no stutters. -/
theorem along_transcript_iff {C' : β → τ → Prop} (hinv : ∀ a s, I s → I (step a s))
    (hsim : ∀ a s, I s → abs (step a s) = run step' (abs s) (tr a s).toList)
    (hs : I s) (acts : List α) :
    Along step' C' (abs s) (transcript step tr s acts) ↔
      Along step (fun a s => ∀ b, tr a s = some b → C' b (abs s)) s acts := by
  induction acts generalizing s with
  | nil => exact Iff.rfl
  | cons a acts ih =>
    rw [transcript, along_append, ← hsim a s hs, ih (hinv a s hs), along_cons]
    cases htr : tr a s with
    | none => simp
    | some b => simp

/-- What the transcript adds up to, by the steps that it came from. -/
theorem total_transcript {f : β → τ → ℕ} (hinv : ∀ a s, I s → I (step a s))
    (hsim : ∀ a s, I s → abs (step a s) = run step' (abs s) (tr a s).toList)
    (hs : I s) (acts : List α) :
    total step' f (abs s) (transcript step tr s acts) =
      total step (fun a s => total step' f (abs s) (tr a s).toList) s acts := by
  induction acts generalizing s with
  | nil => rfl
  | cons a acts ih =>
    rw [transcript, total_append, ← hsim a s hs, ih (hinv a s hs), total_cons]

end Simulation

end Transition
