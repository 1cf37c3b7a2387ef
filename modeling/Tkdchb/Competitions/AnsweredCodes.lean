import Tkdchb.Competitions.CoachCodes

/-!
# The code in the answer

A coach who accepts the terms is answered with the code of the approval. A new code is
written to a copy of the row that `set_fresh_code` fetches under a lock, and the view answers
from its own copy. So the answer has the code only if the row had one before. The view of
poomsae, and its model, do the same on a table of their own.

## Main definitions

* `PoomsaeApproveRequest`, `poomsaeApproveStep`, `poomsaeApproveAnswer` — the view of poomsae
* `AnswersStored` — the answer is the code that the row has after the step
* `HadCode` — the row had a code before the step

## Main results

* `answered_step_iff` — one step, of a request that waits for no code in vain
* `answered_code_iff` — all answers, after any run of requests
-/

namespace Tkdchb

open Transition

/-! ### Poomsae -/

/-- A request with what its lookups find: the competition, the profile of the user as a coach,
and `registration_open_effective`. -/
structure PoomsaeApproveRequest where
  comp : Option ℕ
  coach : Option ℤ
  registrationOpen : Bool
  deriving DecidableEq, Repr

inductive PoomsaeApproveError where
  /-- `Http404` -/
  | compNotFound
  | noCoach
  | closed
  /-- `ValueError` of `set_fresh_code` -/
  | noFreshCode
  deriving DecidableEq, Repr

def PoomsaeApproveError.detail : PoomsaeApproveError → String
  | .compNotFound => "No PoomsaeCompetition matches the given query."
  | .noCoach => "پروفایل مربی یافت نشد."
  | .closed => "ثبت‌نام این مسابقه فعال نیست."
  | .noFreshCode => "ساخت کد یکتا ممکن نشد، دوباره تلاش کنید."

/-- The row a request is about. -/
def PoomsaeApproveRequest.row (r : PoomsaeApproveRequest) :
    Except PoomsaeApproveError (ℕ × ℤ) :=
  match r.comp, r.coach with
  | none, _ => .error .compNotFound
  | some _, none => .error .noCoach
  | some id, some coach => if r.registrationOpen then .ok (id, coach) else .error .closed

inductive PoomsaeApproveAction where
  /-- `PoomsaeCoachApprovalApproveView.post` up to `set_fresh_code`, or to its end -/
  | request (r : PoomsaeApproveRequest)
  /-- one turn of the loop: a random code, and the look for it -/
  | look (row : ℕ × ℤ) (n : Fin (10 ^ 6))
  /-- the code is saved and the request commits -/
  | save (row : ℕ × ℤ)

/-- From `get_or_create` on the view does what that of kyorugi does. Its table has a column
`approved` in the place of `terms_accepted`. -/
def PoomsaeApproveAction.shared : PoomsaeApproveAction → Except PoomsaeApproveError ApproveAction
  | .request r => r.row.map fun row => .request ⟨some (.kyorugi row.1), some row.2⟩
  | .look row n => .ok (.look row n)
  | .save row => .ok (.save row)

def poomsaeApproveStep (act : PoomsaeApproveAction) (s : ApprovalState) : ApprovalState :=
  match act.shared with
  | .error _ => s
  | .ok act => approveStep act s

/-- The answer with which a request ends in this step. -/
def poomsaeApproveAnswer (act : PoomsaeApproveAction) (s : ApprovalState) :
    Option (Except PoomsaeApproveError (Option String)) :=
  match act.shared with
  | .error e => some (.error e)
  | .ok act => (approveAnswer act s).map fun answer => answer.mapError fun _ => .noFreshCode

/-! ### Answers -/

/-- The row that a step is about. -/
def ApproveAction.row? : ApproveAction → Option (ℕ × ℤ)
  | .request r => r.row.toOption
  | .look row _ => some row
  | .save row => some row

/-- After the step the row has the code that was answered. -/
def AnswersStored (row : Option (ℕ × ℤ)) (s : ApprovalState) (code : Option String) : Prop :=
  code ≠ none ∧ ∃ a ∈ s.approvals.rows, some a.key = row ∧ a.code = code

/-- Before the step the row has a code. -/
def HadCode (row : Option (ℕ × ℤ)) (s : ApprovalState) : Prop :=
  ∃ a ∈ s.approvals.rows, some a.key = row ∧ a.hasCode = true

/-- A request in the loop has a row without a code, and looks for codes that are drawn. -/
def LocksBlank (s : ApprovalState) : Prop :=
  ∀ row p, s.issuing row = some p →
    p.approval.hasCode = false ∧ ∀ c, p.candidate = some c → ∃ n, c = randCode n

section Answers

variable {s : ApprovalState} {act : ApproveAction} {code : Option String}

theorem LocksBlank.update {row : ℕ × ℤ} {turn : Option Issuing} {approvals : KeyedRows _}
    (h : LocksBlank s) (hturn : ∀ p, turn = some p →
      p.approval.hasCode = false ∧ ∀ c, p.candidate = some c → ∃ n, c = randCode n) :
    LocksBlank ⟨approvals, Function.update s.issuing row turn⟩ := by
  intro row' p hp
  dsimp only at hp
  by_cases hrow : row' = row
  · subst hrow
    exact hturn p (by simpa using hp)
  · rw [Function.update_of_ne hrow] at hp
    exact h row' p hp

theorem locksBlank_step (act : ApproveAction) (s : ApprovalState) (h : LocksBlank s) :
    LocksBlank (approveStep act s) := by
  rcases approveStep_cases act s with heq | ⟨row, -, -, heq⟩ | ⟨row, -, hcode, heq⟩ |
    ⟨row, a, tries, turn, hissuing, hturn, heq⟩ | ⟨row, a, tries, c, -, -, heq⟩
  · rwa [heq]
  · rw [heq]
    exact h
  · rw [heq]
    apply h.update
    intro p hp
    rw [← Option.some.inj hp]
    exact ⟨hcode, fun c hc => by cases hc⟩
  · rw [heq]
    apply h.update
    intro p hp
    obtain ⟨happroval, hdrawn⟩ := hturn p hp
    exact ⟨happroval ▸ (h row _ hissuing).1, hdrawn⟩
  · rw [heq]
    apply h.update
    intro p hp
    cases hp

theorem randCode_ne_empty (n : Fin (10 ^ 6)) : randCode n ≠ "" := by
  intro hempty
  have hlength := congrArg (fun s => s.toList.length) hempty
  simp [randCode, Calendar.padded] at hlength

theorem code_eq_of_hasCode_eq_false {a : CoachApproval} (h : a.hasCode = false) :
    a.code = none ∨ a.code = some "" := by
  cases hcode : a.code with
  | none => exact Or.inl rfl
  | some c => simpa [CoachApproval.hasCode, hcode] using h

/-- A request that is answered at once has a row with a code. -/
theorem hadCode_of_answer {r : ApproveRequest}
    (h : approveAnswer (.request r) s = some (.ok code)) :
    HadCode (ApproveAction.request r).row? s := by
  simp only [approveAnswer] at h
  cases hrow : r.row with
  | error e => simp [hrow] at h
  | ok row =>
    simp only [hrow] at h
    split_ifs at h with hlocked hcode
    obtain ⟨a, ha, hkey, hsame⟩ := exists_of_hasCode_accepted hcode
    refine ⟨a, ha, ?_, ?_⟩
    · rw [ApproveAction.row?, hrow, hkey]
      rfl
    · rwa [CoachApproval.hasCode, hsame]

/-- A new code is not the one that is answered, and its row had none. -/
theorem answered_save (hlocks : LocksSound s) (hblank : LocksBlank s) {row : ℕ × ℤ}
    {a : CoachApproval} {tries : ℕ} {c : String}
    (hissuing : s.issuing row = some ⟨a, tries, some c⟩) :
    ¬AnswersStored (some row) (approveStep (.save row) s) a.code ∧ ¬HadCode (some row) s := by
  obtain ⟨hhas, hdrawn⟩ := hblank row _ hissuing
  obtain ⟨hkey, hnone⟩ := hlocks row _ hissuing
  obtain ⟨n, rfl⟩ := hdrawn c rfl
  constructor
  · rintro ⟨hcode, b, hb, hrow, hsame⟩
    simp only [approveStep, hissuing] at hb
    have hwritten : b.code = some (randCode n) := by
      rcases KeyedRows.mem_rows_put.mp hb with rfl | ⟨-, hne⟩
      · rfl
      · exact absurd ((Option.some.inj hrow).trans hkey.symm) hne
    rcases code_eq_of_hasCode_eq_false hhas with heq | heq
    · exact hcode heq
    · rw [hwritten, heq, Option.some.injEq] at hsame
      exact randCode_ne_empty n hsame
  · rintro ⟨b, hb, hrow, hhas'⟩
    rw [hnone b hb (Option.some.inj hrow)] at hhas'
    cases hhas'

/-- **One step.** An answer at once has the code of the row; one after a new code has what the
row had before it. -/
theorem answered_step_iff (hlocks : LocksSound s) (hblank : LocksBlank s)
    (h : approveAnswer act s = some (.ok code)) :
    AnswersStored act.row? (approveStep act s) code ↔ HadCode act.row? s := by
  cases act with
  | request r =>
    obtain ⟨a, ha, hrow, hcode, hhas⟩ := exists_of_answer h
    have hkey : some a.key = (ApproveAction.request r).row? := by
      rw [ApproveAction.row?, hrow]
      rfl
    have hnot : code ≠ none := by
      rintro rfl
      rw [CoachApproval.hasCode, hcode] at hhas
      cases hhas
    exact iff_of_true ⟨hnot, a, ha, hkey, hcode⟩ (hadCode_of_answer h)
  | look row n =>
    simp only [approveAnswer] at h
    split at h
    · split_ifs at h
      cases h
    · cases h
  | save row =>
    simp only [approveAnswer] at h
    split at h
    · next a tries c hissuing =>
      cases h
      obtain ⟨hnot, hnone⟩ := answered_save hlocks hblank hissuing
      exact iff_of_false hnot hnone
    · cases h

/-- What every step preserves, from a state without requests on. -/
theorem locks_run (approvals : KeyedRows CoachApproval.key) (acts : List ApproveAction) :
    LocksSound (run approveStep ⟨approvals, fun _ => none⟩ acts) ∧
      LocksBlank (run approveStep ⟨approvals, fun _ => none⟩ acts) :=
  ⟨run_invariant locksSound_step (fun _ _ h => by cases h) acts,
    run_invariant locksBlank_step (fun _ _ h => by cases h) acts⟩

theorem poomsaeApproveStep_cases (act : PoomsaeApproveAction) (s : ApprovalState) :
    poomsaeApproveStep act s = s ∨
      ∃ act', act.shared = .ok act' ∧ poomsaeApproveStep act s = approveStep act' s := by
  unfold poomsaeApproveStep
  cases hshared : act.shared with
  | error e => exact Or.inl rfl
  | ok act' => exact Or.inr ⟨act', rfl, rfl⟩

theorem poomsaeLocks_run (approvals : KeyedRows CoachApproval.key)
    (acts : List PoomsaeApproveAction) :
    LocksSound (run poomsaeApproveStep ⟨approvals, fun _ => none⟩ acts) ∧
      LocksBlank (run poomsaeApproveStep ⟨approvals, fun _ => none⟩ acts) := by
  have hkeep : ∀ (I : ApprovalState → Prop), (∀ act s, I s → I (approveStep act s)) →
      ∀ act s, I s → I (poomsaeApproveStep act s) := by
    intro I hstep act s hI
    rcases poomsaeApproveStep_cases act s with heq | ⟨act', -, heq⟩
    · rwa [heq]
    · rw [heq]
      exact hstep act' s hI
  exact ⟨run_invariant (hkeep _ locksSound_step) (fun _ _ h => by cases h) acts,
    run_invariant (hkeep _ locksBlank_step) (fun _ _ h => by cases h) acts⟩

end Answers

/-- The row that a step of poomsae is about. -/
def PoomsaeApproveAction.row? (act : PoomsaeApproveAction) : Option (ℕ × ℤ) :=
  act.shared.toOption.bind ApproveAction.row?

/-- **Which answers have the stored code**: those to requests whose approval had a code
already, in both disciplines and after any run of requests. -/
theorem answered_code_iff (approvals : KeyedRows CoachApproval.key) :
    (∀ acts act code,
      approveAnswer act (run approveStep ⟨approvals, fun _ => none⟩ acts) = some (.ok code) →
      (AnswersStored act.row?
          (approveStep act (run approveStep ⟨approvals, fun _ => none⟩ acts)) code ↔
        HadCode act.row? (run approveStep ⟨approvals, fun _ => none⟩ acts))) ∧
    ∀ acts act code,
      poomsaeApproveAnswer act (run poomsaeApproveStep ⟨approvals, fun _ => none⟩ acts) =
        some (.ok code) →
      (AnswersStored act.row?
          (poomsaeApproveStep act (run poomsaeApproveStep ⟨approvals, fun _ => none⟩ acts)) code ↔
        HadCode act.row? (run poomsaeApproveStep ⟨approvals, fun _ => none⟩ acts)) := by
  constructor
  · intro acts act code h
    obtain ⟨hlocks, hblank⟩ := locks_run approvals acts
    exact answered_step_iff hlocks hblank h
  · intro acts act code h
    obtain ⟨hlocks, hblank⟩ := poomsaeLocks_run approvals acts
    unfold poomsaeApproveAnswer at h
    unfold poomsaeApproveStep PoomsaeApproveAction.row?
    cases hshared : act.shared with
    | error e =>
      simp only [hshared] at h
      cases h
    | ok act' =>
      simp only [hshared] at h
      obtain ⟨answer, hanswer, hcode⟩ := Option.map_eq_some_iff.mp h
      cases answer with
      | error e => cases hcode
      | ok code' =>
        cases hcode
        exact answered_step_iff hlocks hblank hanswer

/-- The second request of a coach is answered with the code. -/
theorem answered_code_iff_second_request :
    AnswersStored (ApproveAction.request ⟨some (.kyorugi 1), some 5⟩).row?
        (approveStep (.request ⟨some (.kyorugi 1), some 5⟩)
          (run approveStep noApprovals (oneCoach.take 3))) (some "000000") ↔
      HadCode (ApproveAction.request ⟨some (.kyorugi 1), some 5⟩).row?
        (run approveStep noApprovals (oneCoach.take 3)) :=
  (answered_code_iff KeyedRows.empty).1 (oneCoach.take 3)
    (.request ⟨some (.kyorugi 1), some 5⟩) (some "000000") (by decide +kernel)

/-- The run of the first example up to the save. -/
def firstCode : List ApproveAction := oneCoach.take 2

/-- **The first request is answered without a code**, while its row gets one. -/
theorem first_code_not_answered :
    approveAnswer (.save (1, 5)) (run approveStep noApprovals firstCode) = some (.ok none) ∧
      (approveStep (.save (1, 5)) (run approveStep noApprovals firstCode)).approvals.rows =
        [⟨1, 5, some "000000", true, true⟩] ∧
      ¬AnswersStored (ApproveAction.save (1, 5)).row?
        (approveStep (.save (1, 5)) (run approveStep noApprovals firstCode)) none := by
  refine ⟨by decide +kernel, by decide +kernel, fun h => ?_⟩
  exact h.1 rfl

end Tkdchb
