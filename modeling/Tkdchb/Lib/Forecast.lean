import Mathlib.Data.List.Induction
import Tkdchb.Lib.AtomicBatch

/-!
# What a batch comes to, by its inputs

What a record does depends on the tables that the earlier records leave. A forecast says it in
terms of the earlier records only, so that one can tell before the batch runs whether its
messages and its report will fit.

## Main definitions

* `AtomicBatch.Forecast` — what each record will do, given the earlier ones
* `AtomicBatch.Forecast.Holds` — the forecast is right
* `AtomicBatch.Forecast.Fits` — messages and report will fit

## Main results

* `AtomicBatch.mem_handled_iff` — a record is handled in the tables that the earlier ones leave
* `AtomicBatch.after_induction` — what every record preserves holds after all of them
* `AtomicBatch.Forecast.matches_iff` — messages and report fit exactly if the forecast says so
-/

namespace AtomicBatch

/-- An exception leaves the block. -/
@[simp] def Verdict.escaped {σ : Type*} : Verdict σ → Bool
  | escapes _ => true
  | _ => false

section Positions

variable {σ ι : Type*} {act : σ → ι → Verdict σ} {lateEscapes : Bool} {s : σ}
  {batch earlier rest : List ι} {r : ι}

theorem undisturbed_nil : Undisturbed act s [] := fun _ hx => by cases hx

theorem undisturbed_cons_iff {s' : σ} {made : Option ℕ} {sent counted : Bool}
    (h : act s r = .passes s' made sent counted) :
    Undisturbed act s (r :: rest) ↔ Undisturbed act s' rest :=
  (handled_cons_of_passes h).2

theorem after_cons {s' : σ} {made : Option ℕ} {sent counted : Bool}
    (h : act s r = .passes s' made sent counted) : after act s (r :: rest) = after act s' rest := by
  rw [after, h]

theorem goesOn_of_undisturbed_cons (h : Undisturbed act s (r :: rest)) :
    ∃ s' made sent counted, act s r = .passes s' made sent counted := by
  cases hact : act s r with
  | passes s' made sent counted => exact ⟨s', made, sent, counted, rfl⟩
  | spoils sent => exact absurd h (handled_cons_of_stops (by rw [hact]; rfl)).2
  | escapes sent => exact absurd h (handled_cons_of_stops (by rw [hact]; rfl)).2

theorem undisturbed_append_iff : Undisturbed act s (earlier ++ rest) ↔
    Undisturbed act s earlier ∧ Undisturbed act (after act s earlier) rest := by
  induction earlier generalizing s with
  | nil => exact (and_iff_right undisturbed_nil).symm
  | cons r earlier ih =>
    constructor
    · intro h
      obtain ⟨s', made, sent, counted, hact⟩ := goesOn_of_undisturbed_cons h
      rw [undisturbed_cons_iff hact, after_cons hact]
      exact ih.mp ((undisturbed_cons_iff hact).mp h)
    · rintro ⟨h, hrest⟩
      obtain ⟨s', made, sent, counted, hact⟩ := goesOn_of_undisturbed_cons h
      rw [undisturbed_cons_iff hact] at h
      rw [after_cons hact] at hrest
      exact (undisturbed_cons_iff hact).mpr (ih.mpr ⟨h, hrest⟩)

theorem after_append (h : Undisturbed act s earlier) :
    after act s (earlier ++ rest) = after act (after act s earlier) rest := by
  induction earlier generalizing s with
  | nil => rfl
  | cons r earlier ih =>
    obtain ⟨s', made, sent, counted, hact⟩ := goesOn_of_undisturbed_cons h
    rw [List.cons_append, after_cons hact, after_cons hact]
    exact ih ((undisturbed_cons_iff hact).mp h)

/-- A record is handled in the tables that the earlier ones leave, if none of them disturbs the
block. -/
theorem mem_handled_iff {v : Verdict σ} : (r, v) ∈ handled act s batch ↔
    ∃ earlier rest, batch = earlier ++ r :: rest ∧ Undisturbed act s earlier ∧
      v = act (after act s earlier) r := by
  induction batch generalizing s v with
  | nil => simp [handled]
  | cons r' batch ih =>
    constructor
    · intro h
      rw [handled] at h
      rcases List.mem_cons.mp h with heq | hrest
      · obtain ⟨rfl, rfl⟩ := Prod.mk.inj heq
        exact ⟨[], batch, rfl, undisturbed_nil, rfl⟩
      · cases hact : act s r' with
        | passes s' made sent counted =>
          rw [hact] at hrest
          obtain ⟨earlier, rest, rfl, hearlier, rfl⟩ := ih.mp hrest
          refine ⟨r' :: earlier, rest, rfl, (undisturbed_cons_iff hact).mpr hearlier, ?_⟩
          rw [after_cons hact]
        | spoils sent => rw [hact] at hrest; cases hrest
        | escapes sent => rw [hact] at hrest; cases hrest
    · rintro ⟨earlier, rest, heq, hearlier, rfl⟩
      cases earlier with
      | nil =>
        obtain ⟨rfl, rfl⟩ := List.cons.inj heq
        rw [handled]
        exact List.mem_cons_self
      | cons r'' earlier =>
        obtain ⟨rfl, rfl⟩ := List.cons.inj heq
        obtain ⟨s', made, sent, counted, hact⟩ := goesOn_of_undisturbed_cons hearlier
        have hrest := (undisturbed_cons_iff hact).mp hearlier
        rw [(handled_cons_of_passes hact).1, after_cons hact]
        exact List.mem_cons_of_mem _ (ih.mpr ⟨earlier, rest, rfl, hrest, rfl⟩)

theorem mem_handled (hbatch : batch = earlier ++ r :: rest) (hearlier : Undisturbed act s earlier) :
    (r, act (after act s earlier) r) ∈ handled act s batch :=
  mem_handled_iff.mpr ⟨earlier, rest, hbatch, hearlier, rfl⟩

/-- An exception leaves the block from a record, or from the record after one that spoils it. -/
theorem leaves_iff : leaves act lateEscapes s batch = true ↔
    ∃ earlier r rest, batch = earlier ++ r :: rest ∧ Undisturbed act s earlier ∧
      ((act (after act s earlier) r).escaped = true ∨
        lateEscapes = true ∧ (act (after act s earlier) r).goesOn = false ∧ rest ≠ []) := by
  induction batch generalizing s with
  | nil => simp [leaves]
  | cons r' batch ih =>
    -- the record itself, or one of those behind it
    have hsplit : (∃ earlier r rest, r' :: batch = earlier ++ r :: rest ∧
        Undisturbed act s earlier ∧ ((act (after act s earlier) r).escaped = true ∨
          lateEscapes = true ∧ (act (after act s earlier) r).goesOn = false ∧ rest ≠ [])) ↔
        ((act s r').escaped = true ∨
          lateEscapes = true ∧ (act s r').goesOn = false ∧ batch ≠ []) ∨
        ∃ earlier r rest, batch = earlier ++ r :: rest ∧ Undisturbed act s (r' :: earlier) ∧
          ((act (after act s (r' :: earlier)) r).escaped = true ∨
            lateEscapes = true ∧ (act (after act s (r' :: earlier)) r).goesOn = false ∧
              rest ≠ []) := by
      constructor
      · rintro ⟨earlier, r, rest, heq, hearlier, h⟩
        cases earlier with
        | nil =>
          obtain ⟨rfl, rfl⟩ := List.cons.inj heq
          exact .inl h
        | cons r'' earlier =>
          obtain ⟨rfl, rfl⟩ := List.cons.inj heq
          exact .inr ⟨earlier, r, rest, rfl, hearlier, h⟩
      · rintro (h | ⟨earlier, r, rest, rfl, hearlier, h⟩)
        · exact ⟨[], r', batch, rfl, undisturbed_nil, h⟩
        · exact ⟨r' :: earlier, r, rest, rfl, hearlier, h⟩
    rw [hsplit, leaves]
    cases hact : act s r' with
    | passes s' made sent counted =>
      simp only [undisturbed_cons_iff hact, after_cons hact]
      rw [ih]
      simp [Verdict.escaped, Verdict.goesOn]
    | spoils sent =>
      have hstops : ∀ earlier, ¬Undisturbed act s (r' :: earlier) := fun earlier =>
        (handled_cons_of_stops (by rw [hact]; rfl)).2
      simp [hstops, Verdict.escaped, Verdict.goesOn]
    | escapes sent => simp [Verdict.escaped]

/-- **What every record preserves** holds after all of them. -/
theorem after_induction {P : List ι → σ → Prop} (hnil : P [] s)
    (hstep : ∀ earlier r rest s' s'' made sent counted, batch = earlier ++ r :: rest →
      P earlier s' → act s' r = .passes s'' made sent counted → P (earlier ++ [r]) s'')
    (hbatch : batch = earlier ++ rest) (h : Undisturbed act s earlier) :
    P earlier (after act s earlier) := by
  induction earlier using List.reverseRecOn generalizing rest with
  | nil => exact hnil
  | append_singleton earlier r ih =>
    obtain ⟨hearlier, hr⟩ := undisturbed_append_iff.mp h
    obtain ⟨s', made, sent, counted, hact⟩ := goesOn_of_undisturbed_cons hr
    rw [List.append_assoc, List.singleton_append] at hbatch
    rw [after_append hearlier, after_cons hact]
    exact hstep earlier r rest _ s' made sent counted hbatch (ih hbatch hearlier) hact

end Positions

/-- What each record will do, given the earlier ones. -/
structure Forecast (ι : Type*) where
  /-- It disturbs the block. -/
  disturbs : List ι → ι → Prop
  /-- An exception of its own leaves the block. -/
  escapes : List ι → ι → Prop
  /-- Its row is made. -/
  makes : List ι → ι → Prop
  /-- Its message goes out, if its row is made. -/
  tells : ι → Prop
  /-- It is removed, if its row is made. -/
  removes : ι → Prop

namespace Forecast

variable {σ ι : Type*} {f : Forecast ι} {act : σ → ι → Verdict σ} {lateEscapes : Bool} {s : σ}
  {batch : List ι}

/-- The forecast for the record is right. -/
structure Says (f : Forecast ι) (earlier : List ι) (r : ι) (v : Verdict σ) : Prop where
  goesOn : v.goesOn = true ↔ ¬f.disturbs earlier r
  escaped : v.escaped = true ↔ f.escapes earlier r
  made : v.goesOn = true → (v.made.isSome = true ↔ f.makes earlier r)
  sent : v.sent = true ↔ f.makes earlier r ∧ f.tells r
  counted : v.counted = true ↔ f.makes earlier r ∧ f.removes r

/-- It is right for every record that the loop comes to. -/
def Holds (f : Forecast ι) (act : σ → ι → Verdict σ) (s : σ) (batch : List ι) : Prop :=
  ∀ earlier r rest, batch = earlier ++ r :: rest → Undisturbed act s earlier →
    f.Says earlier r (act (after act s earlier) r)

/-- No record disturbs the block. -/
def Smooth (f : Forecast ι) (batch : List ι) : Prop :=
  ∀ earlier r rest, batch = earlier ++ r :: rest → ¬f.disturbs earlier r

/-- The loop comes to the record. -/
def Reaches (f : Forecast ι) (batch earlier : List ι) (r : ι) (rest : List ι) : Prop :=
  batch = earlier ++ r :: rest ∧ f.Smooth earlier

/-- Nothing disturbs the block and every row has its message; or something does, no message goes
out up to there, and an exception leaves the block or no record is counted up to there. -/
def Fits (f : Forecast ι) (lateEscapes : Bool) (batch : List ι) : Prop :=
  f.Smooth batch ∧
      (∀ earlier r rest, f.Reaches batch earlier r rest → f.makes earlier r → f.tells r) ∨
    ¬f.Smooth batch ∧
      (∀ earlier r rest, f.Reaches batch earlier r rest → f.makes earlier r → ¬f.tells r) ∧
      ((∃ earlier r rest, f.Reaches batch earlier r rest ∧
          (f.escapes earlier r ∨ lateEscapes = true ∧ f.disturbs earlier r ∧ rest ≠ [])) ∨
        ∀ earlier r rest, f.Reaches batch earlier r rest → f.makes earlier r → ¬f.removes r)

theorem Holds.of_append {earlier rest : List ι} (h : f.Holds act s (earlier ++ rest)) :
    f.Holds act s earlier := by
  intro e r rest' heq hundisturbed
  refine h e r (rest' ++ rest) ?_ hundisturbed
  rw [heq, List.append_assoc, List.cons_append]

/-- It says whether something disturbs the block. -/
theorem Holds.undisturbed_iff (h : f.Holds act s batch) :
    Undisturbed act s batch ↔ f.Smooth batch := by
  constructor
  · rintro hall earlier r rest rfl
    obtain ⟨hearlier, -⟩ := undisturbed_append_iff.mp hall
    exact (h earlier r rest rfl hearlier).goesOn.mp (hall _ (mem_handled rfl hearlier))
  · rintro hsmooth ⟨r, v⟩ hx
    obtain ⟨earlier, rest, heq, hearlier, rfl⟩ := mem_handled_iff.mp hx
    exact (h earlier r rest heq hearlier).goesOn.mpr (hsmooth earlier r rest heq)

theorem Holds.undisturbed_iff_of_reaches (h : f.Holds act s batch) {earlier rest : List ι} {r : ι}
    (heq : batch = earlier ++ r :: rest) : Undisturbed act s earlier ↔ f.Smooth earlier :=
  (heq ▸ h).of_append.undisturbed_iff

/-- What holds of all verdicts holds of all records that the loop comes to. -/
theorem Holds.forall_handled_iff (h : f.Holds act s batch) (Q : Verdict σ → Prop)
    (R : List ι → ι → Prop)
    (hQ : ∀ earlier r v, (r, v) ∈ handled act s batch → f.Says earlier r v →
      (Q v ↔ R earlier r)) :
    (∀ x ∈ handled act s batch, Q x.2) ↔
      ∀ earlier r rest, f.Reaches batch earlier r rest → R earlier r := by
  constructor
  · rintro hall earlier r rest ⟨heq, hsmooth⟩
    have hearlier := (h.undisturbed_iff_of_reaches heq).mpr hsmooth
    have hmem := mem_handled heq hearlier
    exact (hQ _ _ _ hmem (h earlier r rest heq hearlier)).mp (hall _ hmem)
  · rintro hall ⟨r, v⟩ hx
    obtain ⟨earlier, rest, heq, hearlier, rfl⟩ := mem_handled_iff.mp hx
    have hsmooth := (h.undisturbed_iff_of_reaches heq).mp hearlier
    exact (hQ _ _ _ hx (h earlier r rest heq hearlier)).mpr (hall earlier r rest ⟨heq, hsmooth⟩)

theorem Holds.allTold_iff (h : f.Holds act s batch) (hundisturbed : Undisturbed act s batch) :
    AllTold act s batch ↔
      ∀ earlier r rest, f.Reaches batch earlier r rest → f.makes earlier r → f.tells r := by
  refine h.forall_handled_iff (fun v => v.made.isSome = true → v.sent = true)
    (fun earlier r => f.makes earlier r → f.tells r) ?_
  intro earlier r v hx hright
  rw [hright.made (hundisturbed _ hx), hright.sent]
  exact forall_congr' fun hmakes => and_iff_right hmakes

theorem Holds.noneTold_iff (h : f.Holds act s batch) :
    NoneTold act s batch ↔
      ∀ earlier r rest, f.Reaches batch earlier r rest → f.makes earlier r → ¬f.tells r := by
  refine h.forall_handled_iff (fun v => v.sent = false)
    (fun earlier r => f.makes earlier r → ¬f.tells r) ?_
  intro earlier r v _ hright
  rw [← Bool.not_eq_true, hright.sent, not_and]

theorem Holds.noneCounted_iff (h : f.Holds act s batch) :
    NoneCounted act s batch ↔
      ∀ earlier r rest, f.Reaches batch earlier r rest → f.makes earlier r → ¬f.removes r := by
  refine h.forall_handled_iff (fun v => v.counted = false)
    (fun earlier r => f.makes earlier r → ¬f.removes r) ?_
  intro earlier r v _ hright
  rw [← Bool.not_eq_true, hright.counted, not_and]

theorem Holds.leaves_iff (h : f.Holds act s batch) : leaves act lateEscapes s batch = true ↔
    ∃ earlier r rest, f.Reaches batch earlier r rest ∧
      (f.escapes earlier r ∨ lateEscapes = true ∧ f.disturbs earlier r ∧ rest ≠ []) := by
  rw [AtomicBatch.leaves_iff]
  refine exists₃_congr fun earlier r rest => ?_
  rw [Reaches, and_assoc]
  refine and_congr_right fun heq => ?_
  rw [← h.undisturbed_iff_of_reaches heq]
  refine and_congr_right fun hearlier => ?_
  have hright := h earlier r rest heq hearlier
  rw [hright.escaped, ← Bool.not_eq_true, hright.goesOn, not_not]

variable [DecidableEq ι] {present : σ → ℕ → Bool} {removed : σ → ι → Bool}

/-- **Messages and report fit** exactly if the forecast says so. -/
theorem matches_iff (hf : f.Holds act s batch) (hlaw : Lawful act present removed)
    (hnodup : batch.Nodup) (hwaits : ∀ r ∈ batch, removed s r = false) :
    Matches present removed (perform act lateEscapes s batch) batch ↔ f.Fits lateEscapes batch := by
  rw [AtomicBatch.matches_iff hlaw hnodup hwaits, hf.undisturbed_iff, hf.noneTold_iff,
    hf.leaves_iff, hf.noneCounted_iff, Fits]
  exact or_congr_left (and_congr_right fun hsmooth =>
    hf.allTold_iff (hf.undisturbed_iff.mpr hsmooth))

end Forecast

end AtomicBatch
