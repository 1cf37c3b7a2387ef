import Tkdchb.Competitions.SelfRegister

/-!
# Is the registration open?

The question is answered in five places. Four of them read the manual switch; the
serializer of a registration compares dates only, and so does the part of `can_register`
that comes after the switch. A registration that was opened by hand outside its dates is
open for all but these two.

## Main definitions

* `viewOpenEffective`, `opened`, `getCanRegister`, `acceptsDates` — the other gates, under
  `KyorugiCompetition.registrationOpenEffective`
* `ReachesDateChecks`, `RefusedForDates` — requests whose dates are checked, and those that
  end there

## Main results

* `refusedForDates_iff` — the date checks of `registerSelf` are `acceptsDates`
* `gates_agree_iff` — the gates agree unless a registration is opened by hand outside its
  dates
-/

namespace Tkdchb

open Calendar Web

/-! ### The gates -/

namespace KyorugiCompetition

variable (c : KyorugiCompetition) (today : Date)

/-- `rs <= today <= re_` -/
def inWindow : Bool :=
  decide (c.registrationStart.toOrdinal ≤ today.toOrdinal) &&
    decide (today.toOrdinal ≤ c.registrationEnd.toOrdinal)

/-- `registration_open_effective` of the views. Both dates are set. -/
def viewOpenEffective : Bool :=
  if c.registrationManual = some true then true
  else if c.registrationManual = some false then false
  else c.inWindow today

/-- The filter `open_q` of `_opened`. -/
def openQ : Bool :=
  c.registrationManual == some true ||
    (c.registrationManual.isNone &&
      decide (c.registrationStart.toOrdinal ≤ today.toOrdinal) &&
      decide (c.registrationEnd.toOrdinal ≥ today.toOrdinal))

/-- `get_can_register`, after `get_registration_open_effective`. -/
def getCanRegister : Bool :=
  if !c.registrationOpenEffective today then false else c.inWindow today

/-- The check of `RegisterSelfView.post` and the date checks of
`CompetitionRegistrationSerializer.validate`. -/
def acceptsDates : Bool :=
  c.registrationOpenEffective today &&
    !decide (today.toOrdinal < c.registrationStart.toOrdinal) &&
    !decide (c.registrationEnd.toOrdinal < today.toOrdinal)

end KyorugiCompetition

/-- `_opened` -/
def opened (qs : List KyorugiCompetition) (onlyOpen : Bool) (today : Date) :
    List KyorugiCompetition :=
  if onlyOpen then qs.filter fun c => c.openQ today else qs

section Gates

variable {c : KyorugiCompetition} {today : Date}

theorem registrationOpenEffective_of_manual {manual : Bool}
    (h : c.registrationManual = some manual) : c.registrationOpenEffective today = manual := by
  rw [KyorugiCompetition.registrationOpenEffective, h]

theorem registrationOpenEffective_of_none (h : c.registrationManual = none) :
    c.registrationOpenEffective today = c.inWindow today := by
  rw [KyorugiCompetition.registrationOpenEffective, h, KyorugiCompetition.inWindow]

/-- The helper of the views is the property of the model. -/
theorem viewOpenEffective_eq (c : KyorugiCompetition) (today : Date) :
    c.viewOpenEffective today = c.registrationOpenEffective today := by
  rw [KyorugiCompetition.viewOpenEffective]
  cases hmanual : c.registrationManual with
  | none => rw [registrationOpenEffective_of_none hmanual]; rfl
  | some manual =>
    rw [registrationOpenEffective_of_manual hmanual]
    cases manual <;> rfl

/-- And so is the filter of the lists. -/
theorem openQ_eq (c : KyorugiCompetition) (today : Date) :
    c.openQ today = c.registrationOpenEffective today := by
  rw [KyorugiCompetition.openQ]
  cases hmanual : c.registrationManual with
  | none => rw [registrationOpenEffective_of_none hmanual]; rfl
  | some manual =>
    rw [registrationOpenEffective_of_manual hmanual]
    cases manual <;> rfl

theorem mem_opened_iff {qs : List KyorugiCompetition} (hc : c ∈ qs) :
    c ∈ opened qs true today ↔ c.registrationOpenEffective today = true := by
  rw [opened, if_pos rfl, List.mem_filter, openQ_eq, and_iff_right hc]

/-- The switch and the dates have to agree to `can_register`. -/
theorem getCanRegister_eq (c : KyorugiCompetition) (today : Date) :
    c.getCanRegister today = (c.registrationOpenEffective today && c.inWindow today) := by
  rw [KyorugiCompetition.getCanRegister]
  cases c.registrationOpenEffective today <;> rfl

/-- A registration is refused where `can_register` says so. -/
theorem acceptsDates_eq (c : KyorugiCompetition) (today : Date) :
    c.acceptsDates today = c.getCanRegister today := by
  rw [getCanRegister_eq, KyorugiCompetition.acceptsDates, KyorugiCompetition.inWindow,
    Bool.and_assoc]
  congr 1
  simp only [← decide_not, not_lt]

/-- **The dates count twice**, but only where the registration was opened by hand. -/
theorem and_inWindow_eq_iff :
    (c.registrationOpenEffective today && c.inWindow today) = c.registrationOpenEffective today ↔
      (c.registrationManual = some true → c.inWindow today = true) := by
  cases hmanual : c.registrationManual with
  | none => simp [registrationOpenEffective_of_none hmanual]
  | some manual =>
    rw [registrationOpenEffective_of_manual hmanual]
    cases manual <;> simp

end Gates

/-! ### The requests -/

section Requests

variable {reg : Registry} {self : SelfRegistry} {today : Date} {user : ℕ} {key : String}
  {data : SelfRegisterData} {db : Db} {compId : ℕ} {comp : KyorugiCompetition} {player : ℤ}

/-- A request of a player for a competition that exists, without an earlier enrollment or a
blank field. -/
structure ReachesDateChecks (reg : Registry) (lookups : SelfRegistry) (user : ℕ) (key : String)
    (data : SelfRegisterData) (db : Db) (compId : ℕ) (comp : KyorugiCompetition) (player : ℤ) :
    Prop where
  isPlayer : lookups.isPlayer user = true
  found : reg.getCompByKey key = some compId
  competition : reg.kyorugi compId = some comp
  profile : lookups.playerProfile user = some player
  fresh : (db.enrollments.newest fun e =>
    e.competition == compId && e.player == player && decide (e.status ≠ .canceled)) = none
  filled : data.fieldErrors = []

/-- The request ended at the check of the view or at one of the two of the serializer. -/
def RefusedForDates (result : Except SelfError (Response × Db)) : Prop :=
  (∃ db, result = .ok (.json 400 [("detail", .str "ثبت‌نام این مسابقه فعال نیست.")], db)) ∨
    result = .error (fieldError "__all__" "ثبت‌نام هنوز شروع نشده است.") ∨
    result = .error (fieldError "__all__" "مهلت ثبت‌نام به پایان رسیده است.")

/-- What is left of the handler after the serializer has checked the request. -/
def afterValidation (comp : KyorugiCompetition) :
    Except SelfError Unit → Except SelfError (Response × Db)
  | .error e => .error e
  | .ok () => .error (selfCreateError comp)

/-- What the handler does with a request that reaches the date checks. -/
theorem registerSelf_of_reaches (h : ReachesDateChecks reg self user key data db compId comp player) :
    registerSelf reg self today user key data db =
      if comp.registrationOpenEffective today then
        afterValidation comp (data.validate self today user compId comp db)
      else .ok (.json 400 [("detail", .str "ثبت‌نام این مسابقه فعال نیست.")], db) := by
  have hcomp : (reg.getCompByKey key).bind (fun id => (reg.kyorugi id).map (Prod.mk id)) =
      some (compId, comp) := by
    rw [h.found, Option.bind_some, h.competition, Option.map_some]
  rw [registerSelf, h.isPlayer, hcomp]
  simp only [h.profile, h.fresh, Bool.not_true, Bool.false_eq_true, if_false]
  cases comp.registrationOpenEffective today with
  | false => rfl
  | true => cases data.validate self today user compId comp db <;> rfl

/-- An error of another text is not one of the dates. -/
theorem not_refusedForDates_fieldError {field text : String}
    (hstart : text ≠ "ثبت‌نام هنوز شروع نشده است.")
    (hend : text ≠ "مهلت ثبت‌نام به پایان رسیده است.") :
    ¬RefusedForDates (.error (fieldError field text)) := by
  rintro (⟨db, h⟩ | h | h)
  · cases h
  · injection h with h
    injection h with h
    simp only [Failure.validationError.injEq, List.cons.injEq, Prod.mk.injEq] at h
    exact hstart h.1.2
  · injection h with h
    injection h with h
    simp only [Failure.validationError.injEq, List.cons.injEq, Prod.mk.injEq] at h
    exact hend h.1.2

theorem not_refusedForDates_selfCreateError (comp : KyorugiCompetition) :
    ¬RefusedForDates (.error (selfCreateError comp)) := by
  unfold selfCreateError
  split_ifs
  · exact not_refusedForDates_fieldError (by decide) (by decide)
  · rintro (⟨db, h⟩ | h | h)
    · cases h
    · cases h
    · cases h

/-- Blank fields apart, the dates are the first that `validate` checks. -/
theorem refusedForDates_validate_iff (hfilled : data.fieldErrors = []) :
    RefusedForDates (afterValidation comp (data.validate self today user compId comp db)) ↔
      (!decide (today.toOrdinal < comp.registrationStart.toOrdinal) &&
        !decide (comp.registrationEnd.toOrdinal < today.toOrdinal)) = false := by
  unfold SelfRegisterData.validate
  rw [if_neg (by simp [hfilled])]
  split_ifs with hstart hend
  · exact iff_of_true (.inr (.inl rfl)) (by simp [hstart])
  · exact iff_of_true (.inr (.inr rfl)) (by simp [hend])
  · refine iff_of_false ?_ (by simp [hstart, hend])
    -- every later refusal has another text
    repeat' split
    all_goals first
      | exact not_refusedForDates_selfCreateError comp
      | exact not_refusedForDates_fieldError (by decide) (by decide)

/-- **The date checks of a request.** -/
theorem refusedForDates_iff (h : ReachesDateChecks reg self user key data db compId comp player) :
    RefusedForDates (registerSelf reg self today user key data db) ↔
      comp.acceptsDates today = false := by
  rw [registerSelf_of_reaches h, KyorugiCompetition.acceptsDates, Bool.and_assoc]
  cases comp.registrationOpenEffective today with
  | false => exact iff_of_true (.inl ⟨db, rfl⟩) rfl
  | true =>
    rw [Bool.true_and, if_pos rfl]
    exact refusedForDates_validate_iff h.filled

end Requests

/-- **The gates agree unless a registration is opened by hand outside its dates.** For any
competition and day, the property of the model, the helper of the views, the filter of the
lists, `can_register` and the date checks of a registration give the same answer exactly in
this case. -/
theorem gates_agree_iff (c : KyorugiCompetition) (today : Date) :
    (c.viewOpenEffective today = c.registrationOpenEffective today ∧
      (∀ qs, c ∈ qs → (c ∈ opened qs true today ↔ c.registrationOpenEffective today = true)) ∧
      c.getCanRegister today = c.registrationOpenEffective today ∧
      ∀ reg self user key data db compId player,
        ReachesDateChecks reg self user key data db compId c player →
          (¬RefusedForDates (registerSelf reg self today user key data db) ↔
            c.registrationOpenEffective today = true)) ↔
      (c.registrationManual = some true → c.inWindow today = true) := by
  rw [← and_inWindow_eq_iff, ← getCanRegister_eq]
  constructor
  · exact fun h => h.2.2.1
  · intro h
    refine ⟨viewOpenEffective_eq c today, fun qs hc => mem_opened_iff hc, h, ?_⟩
    intro reg self user key data db compId player hreq
    rw [refusedForDates_iff hreq, Bool.not_eq_false, acceptsDates_eq, h]

/-- A competition whose registration ended on 1 January and was opened again by hand. -/
def reopened : KyorugiCompetition :=
  { (default : KyorugiCompetition) with
    registrationManual := some true
    registrationStart := ⟨2025, 1, 1, by decide⟩
    registrationEnd := ⟨2025, 1, 1, by decide⟩ }

/-- The lookups of a request for it. -/
def reopenedRegistry : Registry :=
  { (default : Registry) with
    kyorugi := fun _ => some reopened
    getCompByKey := fun _ => some 1 }

/-- The user is a player. -/
def anyPlayer : SelfRegistry :=
  { (default : SelfRegistry) with
    isPlayer := fun _ => true
    playerProfile := fun _ => some 5 }

/-- A request without blank fields. -/
def filledRequest : SelfRegisterData := ⟨"code", "60", "7", "1403/05/20"⟩

theorem reachesDateChecks_reopened :
    ReachesDateChecks reopenedRegistry anyPlayer 1 "1" filledRequest default 1 reopened 5 where
  isPlayer := rfl
  found := rfl
  competition := rfl
  profile := rfl
  fresh := rfl
  filled := by decide +kernel

/-- On 2 January it is open, and yet the request is refused for its date. -/
theorem reopened_refuses :
    reopened.registrationOpenEffective ⟨2025, 1, 2, by decide⟩ = true ∧
      reopened.getCanRegister ⟨2025, 1, 2, by decide⟩ = false ∧
      RefusedForDates (registerSelf reopenedRegistry anyPlayer ⟨2025, 1, 2, by decide⟩ 1 "1"
        filledRequest default) :=
  ⟨by decide, by decide, (refusedForDates_iff reachesDateChecks_reopened).mpr (by decide)⟩

end Tkdchb
