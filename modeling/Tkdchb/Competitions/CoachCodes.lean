import Tkdchb.Competitions.Records
import Tkdchb.Lib.KeyedRows
import Tkdchb.Lib.Transition

/-!
# The codes of coaches

A coach who accepts the terms of a competition gets a code, which players give to name
their coach. The code is drawn at random, looked up among the codes of the competition, and
saved. The only lock is on the coach's own row, and the constraint on the codes has a
condition, which the database does not enforce. So another request may save the same code
between the look and the save.

## Main definitions

* `CoachApproval`, `ApprovalState` — the rows, and the requests that hold the lock on one
* `ApproveAction`, `approveStep` — a request, each look for a code, and the save
* `UniqueCodes` — no two approvals of a competition have the same code
* `SaveFresh` — at the save no other approval of the competition has the code

## Main results

* `unique_and_kept_iff_saveFresh` — codes are unique exactly in the runs whose saves are
  fresh, and an issued code is never changed
-/

namespace Tkdchb

open Transition

/-- A row of `CoachApproval`. -/
structure CoachApproval where
  competition : ℕ
  coach : ℤ
  code : Option String
  termsAccepted : Bool
  isActive : Bool
  deriving DecidableEq, Repr

/-- `uniq_competition_coach` -/
def CoachApproval.key (a : CoachApproval) : ℕ × ℤ := (a.competition, a.coach)

/-- `not approval.code` fails -/
def CoachApproval.hasCode (a : CoachApproval) : Bool := a.code.any (· ≠ "")

/-- `_rand_code(6)`, of the random number. -/
def randCode (n : Fin (10 ^ 6)) : String := String.ofList (Calendar.padded n 6)

/-- A request in `set_fresh_code`. -/
structure Issuing where
  /-- the row as the request has it, not committed yet -/
  approval : CoachApproval
  /-- the attempts that are left -/
  tries : ℕ
  /-- the code that was not found -/
  candidate : Option String
  deriving DecidableEq, Repr

/-- The committed rows, and for each row the request that holds the lock on it. -/
structure ApprovalState where
  approvals : KeyedRows CoachApproval.key
  issuing : ℕ × ℤ → Option Issuing

/-- What `_get_comp_by_key_any` finds. -/
inductive CompetitionByKey where
  | kyorugi (id : ℕ)
  | poomsae (id : ℕ)
  deriving DecidableEq, Repr

/-- A request with what its lookups find: the competition, and the profile of the user as a
coach. -/
structure ApproveRequest where
  comp : Option CompetitionByKey
  coach : Option ℤ
  deriving DecidableEq, Repr

inductive ApproveError where
  /-- `Http404` -/
  | compNotFound
  | poomsae
  | noCoach
  /-- `ValueError` of `set_fresh_code` -/
  | noFreshCode
  deriving DecidableEq, Repr

def ApproveError.detail : ApproveError → String
  | .compNotFound => "Competition not found"
  | .poomsae => "تأیید مربی برای پومسه هنوز به مدل جدا/جنریک وصل نشده است."
  | .noCoach => "پروفایل مربی یافت نشد."
  | .noFreshCode => "ساخت کد یکتا ممکن نشد، دوباره تلاش کنید."

/-- The row a request is about. -/
def ApproveRequest.row (r : ApproveRequest) : Except ApproveError (ℕ × ℤ) :=
  match r.comp, r.coach with
  | none, _ => .error .compNotFound
  | some (.poomsae _), _ => .error .poomsae
  | some (.kyorugi _), none => .error .noCoach
  | some (.kyorugi id), some coach => .ok (id, coach)

/-- The row after `get_or_create` and the flags. -/
def ApprovalState.accepted (s : ApprovalState) (row : ℕ × ℤ) : CoachApproval :=
  match s.approvals.find row with
  | none => ⟨row.1, row.2, none, true, true⟩
  | some a => { a with termsAccepted := true, isActive := true }

/-- `CoachApproval.objects.filter(competition=self.competition, code=c).exists()` -/
def ApprovalState.codeExists (s : ApprovalState) (competition : ℕ) (code : String) : Bool :=
  s.approvals.rows.any fun a => a.competition = competition && a.code = some code

inductive ApproveAction where
  /-- `ApproveCompetitionView.post` up to `set_fresh_code`, or to its end -/
  | request (r : ApproveRequest)
  /-- one turn of the loop: a random code, and the look for it -/
  | look (row : ℕ × ℤ) (n : Fin (10 ^ 6))
  /-- the code is saved and the request commits -/
  | save (row : ℕ × ℤ)

/-- A request waits while another holds the lock on its row. A request that raises is rolled
back. -/
def approveStep : ApproveAction → ApprovalState → ApprovalState
  | .request r, s =>
    match r.row with
    | .error _ => s
    | .ok row =>
      if (s.issuing row).isSome then s
      else
        let a := s.accepted row
        if a.hasCode then { s with approvals := s.approvals.put a }
        else { s with issuing := Function.update s.issuing row (some ⟨a, 25, none⟩) }
  | .look row n, s =>
    match s.issuing row with
    | some ⟨a, tries + 1, none⟩ =>
      let c := randCode n
      let turn : Option Issuing :=
        if s.codeExists row.1 c then if tries = 0 then none else some ⟨a, tries, none⟩
        else some ⟨a, tries, some c⟩
      { s with issuing := Function.update s.issuing row turn }
    | _ => s
  | .save row, s =>
    match s.issuing row with
    | some ⟨a, _, some c⟩ =>
      { approvals := s.approvals.put { a with code := some c }
        issuing := Function.update s.issuing row none }
    | _ => s

/-- The answer with which a request ends in this step: the code of its copy of the row, which
`set_fresh_code` does not write. -/
def approveAnswer : ApproveAction → ApprovalState → Option (Except ApproveError (Option String))
  | .request r, s =>
    match r.row with
    | .error e => some (.error e)
    | .ok row =>
      if (s.issuing row).isSome then none
      else if (s.accepted row).hasCode then some (.ok (s.accepted row).code) else none
  | .look row n, s =>
    match s.issuing row with
    | some ⟨_, 1, none⟩ =>
      if s.codeExists row.1 (randCode n) then some (.error .noFreshCode) else none
    | _ => none
  | .save row, s =>
    match s.issuing row with
    | some ⟨a, _, some _⟩ => some (.ok a.code)
    | _ => none

/-! ### Codes -/

/-- No two approvals of a competition have the same code. -/
def UniqueCodes (s : ApprovalState) : Prop :=
  ∀ a ∈ s.approvals.rows, ∀ b ∈ s.approvals.rows, a.competition = b.competition →
    a.code = b.code → a.code ≠ none → a.coach = b.coach

/-- Every code that was issued is still there. -/
def CodesKept (s t : ApprovalState) : Prop :=
  ∀ a ∈ s.approvals.rows, a.hasCode = true →
    ∃ b ∈ t.approvals.rows, b.key = a.key ∧ b.code = a.code

/-- At a save no other approval of the competition has the code. -/
def SaveFresh : ApproveAction → ApprovalState → Prop
  | .save row, s =>
    ∀ a tries c, s.issuing row = some ⟨a, tries, some c⟩ →
      ∀ b ∈ s.approvals.rows, b.competition = row.1 → b.code = some c → b.coach = row.2
  | .request _, _ => True
  | .look _ _, _ => True

/-- A request in the loop has the row that it locks, and this row has no code. -/
def LocksSound (s : ApprovalState) : Prop :=
  ∀ row p, s.issuing row = some p →
    p.approval.key = row ∧ ∀ a ∈ s.approvals.rows, a.key = row → a.hasCode = false

section Steps

variable {s : ApprovalState} {row : ℕ × ℤ} {a b : CoachApproval} {tries : ℕ} {c : String}

theorem key_accepted : (s.accepted row).key = row := by
  unfold ApprovalState.accepted
  cases hfound : s.approvals.find row with
  | none => rfl
  | some a => exact (KeyedRows.find_eq_some_iff.mp hfound).2

/-- Accepting the terms leaves the code. -/
theorem code_accepted (ha : a ∈ s.approvals.rows) (hkey : a.key = row) :
    (s.accepted row).code = a.code := by
  rw [ApprovalState.accepted, KeyedRows.find_eq_some_iff.mpr ⟨ha, hkey⟩]

/-- A code that is not issued now comes from a row. -/
theorem exists_of_hasCode_accepted (h : (s.accepted row).hasCode = true) :
    ∃ a ∈ s.approvals.rows, a.key = row ∧ a.code = (s.accepted row).code := by
  cases hfound : s.approvals.find row with
  | none =>
    rw [ApprovalState.accepted, hfound] at h
    cases h
  | some a =>
    obtain ⟨ha, hkey⟩ := KeyedRows.find_eq_some_iff.mp hfound
    exact ⟨a, ha, hkey, (code_accepted ha hkey).symm⟩

/-- The other rows, and those whose code is the one written, keep their codes. -/
theorem codesKept_put {issuing : ℕ × ℤ → Option Issuing}
    (hsame : ∀ b ∈ s.approvals.rows, b.key = a.key → b.hasCode = true → b.code = a.code) :
    CodesKept s ⟨s.approvals.put a, issuing⟩ := by
  intro b hb hcode
  by_cases hkey : b.key = a.key
  · exact ⟨a, KeyedRows.mem_rows_put.mpr (Or.inl rfl), hkey.symm, (hsame b hb hkey hcode).symm⟩
  · exact ⟨b, KeyedRows.mem_rows_put.mpr (Or.inr ⟨hb, hkey⟩), rfl, rfl⟩

theorem CodesKept.refl (s : ApprovalState) : CodesKept s s := fun a ha _ => ⟨a, ha, rfl, rfl⟩

theorem CodesKept.trans {t u : ApprovalState} (h : CodesKept s t) (h' : CodesKept t u) :
    CodesKept s u := by
  intro a ha hcode
  obtain ⟨b, hb, hkey, hsame⟩ := h a ha hcode
  have hcode' : b.hasCode = true := by rwa [CoachApproval.hasCode, hsame]
  obtain ⟨d, hd, hkey', hsame'⟩ := h' b hb hcode'
  exact ⟨d, hd, hkey'.trans hkey, hsame'.trans hsame⟩

/-- **What a step does**: nothing, a row without a new code is written, a request changes in
its loop, or a code is saved. -/
theorem approveStep_cases (act : ApproveAction) (s : ApprovalState) :
    approveStep act s = s ∨
    (∃ row, s.issuing row = none ∧ (s.accepted row).hasCode = true ∧
      approveStep act s = { s with approvals := s.approvals.put (s.accepted row) }) ∨
    (∃ row, s.issuing row = none ∧ (s.accepted row).hasCode = false ∧
      approveStep act s =
        { s with issuing := Function.update s.issuing row (some ⟨s.accepted row, 25, none⟩) }) ∨
    (∃ row a tries turn, s.issuing row = some ⟨a, tries, none⟩ ∧
      (∀ p, turn = some p → p.approval = a ∧ ∀ c, p.candidate = some c → ∃ n, c = randCode n) ∧
      approveStep act s = { s with issuing := Function.update s.issuing row turn }) ∨
    ∃ row a tries c, act = .save row ∧ s.issuing row = some ⟨a, tries, some c⟩ ∧
      approveStep act s =
        { approvals := s.approvals.put { a with code := some c }
          issuing := Function.update s.issuing row none } := by
  cases act with
  | request r =>
    simp only [approveStep]
    cases hrow : r.row with
    | error e => exact Or.inl rfl
    | ok row =>
      dsimp only
      split_ifs with hlocked hcode
      · exact Or.inl rfl
      · exact Or.inr (Or.inl ⟨row, by simpa using hlocked, hcode, rfl⟩)
      · exact Or.inr (Or.inr (Or.inl ⟨row, by simpa using hlocked, by simpa using hcode, rfl⟩))
  | look row n =>
    simp only [approveStep]
    split
    · next a tries hissuing =>
      -- the next turn of the loop, or its end, for the same approval
      refine Or.inr (Or.inr (Or.inr (Or.inl ⟨row, a, tries + 1, _, hissuing, ?_, rfl⟩)))
      intro p hp
      split_ifs at hp
      · rw [← Option.some.inj hp]
        exact ⟨rfl, fun c hc => by cases hc⟩
      · rw [← Option.some.inj hp]
        exact ⟨rfl, fun c hc => ⟨n, (Option.some.inj hc).symm⟩⟩
    · exact Or.inl rfl
  | save row =>
    simp only [approveStep]
    split
    · next a tries c hissuing =>
      exact Or.inr (Or.inr (Or.inr (Or.inr ⟨row, a, tries, c, rfl, hissuing, rfl⟩)))
    · exact Or.inl rfl

theorem codesKept_step (act : ApproveAction) (s : ApprovalState) (hlocks : LocksSound s) :
    CodesKept s (approveStep act s) := by
  rcases approveStep_cases act s with heq | ⟨row, -, -, heq⟩ | ⟨row, -, -, heq⟩ |
    ⟨row, a, tries, turn, -, -, heq⟩ | ⟨row, a, tries, c, -, hissuing, heq⟩
  · rw [heq]
    exact CodesKept.refl s
  · rw [heq]
    apply codesKept_put
    intro b hb hkey _
    exact (code_accepted hb (hkey.trans key_accepted)).symm
  · rw [heq]
    exact CodesKept.refl s
  · rw [heq]
    exact CodesKept.refl s
  · rw [heq]
    obtain ⟨hkey, hnone⟩ := hlocks row _ hissuing
    apply codesKept_put
    intro b hb hrow hcode
    rw [hnone b hb (hrow.trans hkey)] at hcode
    cases hcode

/-- A code that a request is answered at once is the one on the coach's row. -/
theorem exists_of_answer {r : ApproveRequest} {code : Option String}
    (h : approveAnswer (.request r) s = some (.ok code)) :
    ∃ a ∈ (approveStep (.request r) s).approvals.rows, r.row = .ok a.key ∧ a.code = code ∧
      a.hasCode = true := by
  simp only [approveAnswer] at h
  simp only [approveStep]
  cases hrow : r.row with
  | error e => simp [hrow] at h
  | ok row =>
    simp only [hrow] at h ⊢
    split_ifs at h ⊢ with hlocked hcode
    exact ⟨_, KeyedRows.mem_rows_put.mpr (Or.inl rfl), by rw [key_accepted], by simpa using h,
      hcode⟩

/-- A write to a row that no request holds, or that its request gives up, keeps the others
sound. -/
theorem LocksSound.put (h : LocksSound s) (hkey : a.key = row) :
    LocksSound ⟨s.approvals.put a, Function.update s.issuing row none⟩ := by
  intro row' p hp
  dsimp only at hp
  by_cases hrow : row' = row
  · subst hrow
    rw [Function.update_self] at hp
    cases hp
  · rw [Function.update_of_ne hrow] at hp
    obtain ⟨hkey', hnone⟩ := h row' p hp
    refine ⟨hkey', fun b hb hb' => ?_⟩
    rcases KeyedRows.mem_rows_put.mp hb with rfl | ⟨hold, -⟩
    · exact absurd (hb'.symm.trans hkey) hrow
    · exact hnone b hold hb'

theorem LocksSound.update {turn : Option Issuing} (h : LocksSound s)
    (hturn : ∀ p, turn = some p →
      p.approval.key = row ∧ ∀ a ∈ s.approvals.rows, a.key = row → a.hasCode = false) :
    LocksSound { s with issuing := Function.update s.issuing row turn } := by
  intro row' p hp
  by_cases hrow : row' = row
  · subst hrow
    exact hturn p (by simpa using hp)
  · exact h row' p (by simpa [Function.update_of_ne hrow] using hp)

theorem locksSound_step (act : ApproveAction) (s : ApprovalState) (h : LocksSound s) :
    LocksSound (approveStep act s) := by
  rcases approveStep_cases act s with heq | ⟨row, hfree, -, heq⟩ | ⟨row, -, hcode, heq⟩ |
    ⟨row, a, tries, turn, hissuing, hturn, heq⟩ | ⟨row, a, tries, c, -, hissuing, heq⟩
  · rwa [heq]
  · have hsame : Function.update s.issuing row none = s.issuing := by
      rw [← hfree, Function.update_eq_self]
    rw [heq, ← hsame]
    exact h.put key_accepted
  · rw [heq]
    apply h.update
    intro p hp
    obtain rfl := Option.some.inj hp
    refine ⟨key_accepted, fun a ha hkey => ?_⟩
    rwa [CoachApproval.hasCode, ← code_accepted ha hkey]
  · rw [heq]
    apply h.update
    intro p hp
    rw [(hturn p hp).1]
    exact h row _ hissuing
  · rw [heq]
    exact h.put (h row _ hissuing).1

/-- A row can be written exactly if no other approval of the competition has its code. -/
theorem uniqueCodes_put_iff {issuing : ℕ × ℤ → Option Issuing} (huniq : UniqueCodes s) :
    UniqueCodes ⟨s.approvals.put a, issuing⟩ ↔
      (a.code ≠ none → ∀ b ∈ s.approvals.rows, b.competition = a.competition →
        b.code = a.code → b.coach = a.coach) := by
  constructor
  · intro h hcode b hb hcomp hsame
    by_cases hkey : b.key = a.key
    · exact (Prod.mk.inj hkey).2
    · exact h b (KeyedRows.mem_rows_put.mpr (Or.inr ⟨hb, hkey⟩)) a
        (KeyedRows.mem_rows_put.mpr (Or.inl rfl)) hcomp hsame (hsame ▸ hcode)
  · intro h b hb d hd hcomp hsame hcode
    rcases KeyedRows.mem_rows_put.mp hb with rfl | ⟨hold, -⟩
    · rcases KeyedRows.mem_rows_put.mp hd with rfl | ⟨hold, -⟩
      · rfl
      · exact (h hcode d hold hcomp.symm hsame.symm).symm
    · rcases KeyedRows.mem_rows_put.mp hd with rfl | ⟨hold', -⟩
      · exact h (hsame ▸ hcode) b hold hcomp hsame
      · exact huniq b hold d hold' hcomp hsame hcode

/-- A step that saves no code keeps the codes unique. -/
theorem uniqueCodes_of_not_save {act : ApproveAction} (hact : ∀ row, act ≠ .save row)
    (huniq : UniqueCodes s) : UniqueCodes (approveStep act s) := by
  rcases approveStep_cases act s with heq | ⟨row, -, hcode, heq⟩ | ⟨row, -, -, heq⟩ |
    ⟨row, a, tries, turn, -, -, heq⟩ | ⟨row, a, tries, c, hsave, -, -⟩
  · rwa [heq]
  · rw [heq, uniqueCodes_put_iff huniq]
    -- the row had its code before
    obtain ⟨a, ha, hkey, hsame⟩ := exists_of_hasCode_accepted hcode
    obtain ⟨hcomp, hcoach⟩ := Prod.mk.inj (hkey.trans key_accepted.symm)
    intro hne b hb hcomp' hsame'
    rw [← hcoach]
    exact huniq b hb a ha (hcomp'.trans hcomp.symm) (hsame'.trans hsame.symm) (hsame' ▸ hne)
  · rwa [heq]
  · rwa [heq]
  · exact absurd hsave (hact row)

/-- **One step** keeps the codes unique exactly if it is no save of a code that another
approval of the competition has. -/
theorem uniqueCodes_step_iff (act : ApproveAction) (s : ApprovalState) (hlocks : LocksSound s)
    (huniq : UniqueCodes s) : UniqueCodes (approveStep act s) ↔ SaveFresh act s := by
  cases act with
  | request r => exact iff_of_true (uniqueCodes_of_not_save (fun _ h => by cases h) huniq) trivial
  | look row n => exact iff_of_true (uniqueCodes_of_not_save (fun _ h => by cases h) huniq) trivial
  | save row =>
    simp only [approveStep, SaveFresh]
    split
    · next a tries c hissuing =>
      obtain ⟨hkey, -⟩ := hlocks row _ hissuing
      obtain ⟨hcomp, hcoach⟩ := Prod.mk.inj hkey
      rw [uniqueCodes_put_iff huniq]
      constructor
      · intro h a' tries' c' hissuing' b hb hb' hcode
        obtain ⟨rfl, rfl, hc⟩ := by simpa using hissuing.symm.trans hissuing'
        rw [← hcoach]
        exact h (by simp) b hb (hb'.trans hcomp.symm) (hcode.trans (by rw [hc]))
      · intro h _ b hb hb' hcode
        exact (h a tries c hissuing b hb (hb'.trans hcomp) hcode).trans hcoach.symm
    · next hidle =>
      exact iff_of_true huniq fun a tries c hissuing => absurd hissuing (hidle a tries c)

/-- **Codes identify one coach** exactly in the runs in which at every save no other
approval of the competition has the code. **An issued code is never changed.** -/
theorem unique_and_kept_iff_saveFresh (approvals : KeyedRows CoachApproval.key)
    (acts : List ApproveAction) (huniq : UniqueCodes ⟨approvals, fun _ => none⟩) :
    (∀ t ∈ visited approveStep ⟨approvals, fun _ => none⟩ acts, UniqueCodes t) ∧
        (visited approveStep ⟨approvals, fun _ => none⟩ acts).Pairwise CodesKept ↔
      Along approveStep SaveFresh ⟨approvals, fun _ => none⟩ acts := by
  have hlocks : LocksSound ⟨approvals, fun _ => none⟩ := fun _ _ h => by cases h
  have hkept := pairwise_visited (R := CodesKept) locksSound_step (fun _ _ _ => CodesKept.trans) codesKept_step
    hlocks acts
  rw [and_iff_left hkept]
  exact forall_visited_iff locksSound_step uniqueCodes_step_iff hlocks huniq acts

end Steps

/-- No coach has accepted the terms of any competition. -/
def noApprovals : ApprovalState := ⟨KeyedRows.empty, fun _ => none⟩

theorem uniqueCodes_noApprovals : UniqueCodes noApprovals := fun _ ha => by cases ha

/-- Coach 5 gets a code for competition 1, and asks again. -/
def oneCoach : List ApproveAction :=
  [.request ⟨some (.kyorugi 1), some 5⟩, .look (1, 5) 0, .save (1, 5),
    .request ⟨some (.kyorugi 1), some 5⟩]

theorem oneCoach_unique_and_kept :
    UniqueCodes (run approveStep noApprovals oneCoach) ∧
      (visited approveStep noApprovals oneCoach).Pairwise CodesKept := by
  have hnone : (run approveStep noApprovals (oneCoach.take 2)).approvals.rows = [] := by
    decide +kernel
  have hfresh : Along approveStep SaveFresh noApprovals oneCoach := by
    refine ⟨trivial, trivial, fun a tries c _ b hb => ?_, trivial, trivial⟩
    cases hnone ▸ hb
  obtain ⟨huniq, hkept⟩ :=
    (unique_and_kept_iff_saveFresh KeyedRows.empty oneCoach uniqueCodes_noApprovals).mpr hfresh
  exact ⟨huniq _ (run_mem_visited _ _), hkept⟩

/-- Coaches 5 and 6 draw the same code, and both look before either saves. -/
def sameCode : List ApproveAction :=
  [.request ⟨some (.kyorugi 1), some 5⟩, .request ⟨some (.kyorugi 1), some 6⟩,
    .look (1, 5) 0, .look (1, 6) 0, .save (1, 5), .save (1, 6)]

theorem sameCode_not_unique :
    UniqueCodes noApprovals ∧ ¬ UniqueCodes (run approveStep noApprovals sameCode) := by
  refine ⟨uniqueCodes_noApprovals, fun h => ?_⟩
  have hrows : (run approveStep noApprovals sameCode).approvals.rows =
      [⟨1, 5, some "000000", true, true⟩, ⟨1, 6, some "000000", true, true⟩] := by
    decide +kernel
  have hcoach := h ⟨1, 5, some "000000", true, true⟩ (by simp [hrows])
    ⟨1, 6, some "000000", true, true⟩ (by simp [hrows]) rfl rfl (by simp)
  revert hcoach
  decide

end Tkdchb
