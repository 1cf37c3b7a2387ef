import Tkdchb.Payments.Discounts

/-!
# Which event a discount code is for

A code has three columns for the event it is meant for, and `DiscountCode.clean` allows
at most one of them to be set. The lookup filters by the event that is paid for, but
each of its alternatives looks at one column only, and an empty column counts as a code
for everything.

## Main definitions

* `DiscountCode.targets`, `DiscountCode.clean` — the columns, and their validation
* `DiscountCode.OwnEvent` — the code is general or meant for the event
* `DiscountCode.slipsThrough` — the codes of other events that the filter lets pass
* `Misadmits` — the call meets such a code first, and can use it

## Main results

* `applyDiscountForCompetition_code`, `exists_code_of_find` — which row a call hands out
* `returnsOwnCode_iff` — a call hands out only codes of its own event exactly when it
  does not meet a code that slips through
-/

namespace Tkdchb

/-- An event a code can be meant for. -/
inductive Target where
  | kyorugi (id : ℕ)
  | poomsae (id : ℕ)
  | seminar (id : ℕ)
  deriving DecidableEq, Repr

/-- The event a call is about. -/
def CompetitionRef.target : CompetitionRef → Target
  | .kyorugi id => .kyorugi id
  | .poomsae id => .poomsae id

/-- The events a code is meant for. -/
def DiscountCode.targets (dc : DiscountCode) : List Target :=
  (dc.competition.map Target.kyorugi).toList ++ (dc.poomsaeCompetition.map Target.poomsae).toList ++
    (dc.seminar.map Target.seminar).toList

/-- `DiscountCode.clean` -/
def DiscountCode.clean (dc : DiscountCode) : Except String Unit :=
  let targets := [dc.competition.isSome, dc.poomsaeCompetition.isSome, dc.seminar.isSome]
  if 1 < targets.count true then
    .error ("هر کد تخفیف فقط باید برای یکی از «مسابقه کیوروگی» یا «مسابقه پومسه» یا " ++
      "«سمینار» تنظیم شود.")
  else .ok ()

/-- The code has no target, or its only target is the event that is paid for. A call for
another style, or without a competition, names no event. -/
def DiscountCode.OwnEvent (dc : DiscountCode) (competition : Option CompetitionRef) : Prop :=
  dc.targets = [] ∨ ∃ c, competition = some c ∧ dc.targets = [c.target]

/-- The codes with a foreign target that the filter lets pass: for a kyorugi competition
those of the other two columns, for a poomsae competition all of them, and without a
competition every code with a target. -/
def DiscountCode.slipsThrough (dc : DiscountCode) : Option CompetitionRef → Bool
  | some (.kyorugi _) => dc.poomsaeCompetition.isSome || dc.seminar.isSome
  | some (.poomsae id) =>
    dc.competition.isSome || dc.seminar.isSome || dc.poomsaeCompetition.any (· != id)
  | none => dc.competition.isSome || dc.poomsaeCompetition.isSome || dc.seminar.isSome

section Columns

variable {dc : DiscountCode} {competition : Option CompetitionRef}

/-- At most one column is set. -/
theorem clean_ok_iff : dc.clean = .ok () ↔ dc.targets.length ≤ 1 := by
  obtain ⟨_, _, c, p, m, _, _, _⟩ := dc
  cases c <;> cases p <;> cases m <;> simp [DiscountCode.clean, DiscountCode.targets]

/-- What slips through is a code of another event, and nothing else passes the filter
that is not the event's own. -/
theorem ownEvent_iff (hclean : dc.clean = .ok ()) (hvalid : dc.validFor competition = true) :
    dc.OwnEvent competition ↔ dc.slipsThrough competition = false := by
  rw [clean_ok_iff] at hclean
  obtain ⟨_, _, c, p, m, _, _, _⟩ := dc
  -- with at most one column set, the filter and the two predicates are compared by column
  rcases competition with _ | ⟨id⟩ | ⟨id⟩ <;> cases c <;> cases p <;> cases m <;>
    simp_all [DiscountCode.OwnEvent, DiscountCode.targets, DiscountCode.slipsThrough,
      DiscountCode.validFor, CompetitionRef.target]

/-- The filter does not stop them. -/
theorem validFor_of_slipsThrough (hclean : dc.clean = .ok ())
    (hslip : dc.slipsThrough competition = true) : dc.validFor competition = true := by
  rw [clean_ok_iff] at hclean
  obtain ⟨_, _, c, p, m, _, _, _⟩ := dc
  rcases competition with _ | ⟨id⟩ | ⟨id⟩ <;> cases c <;> cases p <;> cases m <;>
    simp_all [DiscountCode.targets, DiscountCode.slipsThrough, DiscountCode.validFor]

end Columns

/-! ### The row a call hands out -/

section Calls

variable {competition : Option CompetitionRef} {baseAmount : ℕ} {codeStr : String}
  {commit : Bool} {commitUse : Option Bool} {codes : Table DiscountCode}

/-- `code__iexact` and `active`. -/
def DiscountCode.answersTo (dc : DiscountCode) (codeStr : String) : Bool :=
  Text.lower dc.code == Text.lower codeStr && dc.active

/-- The call gets as far as the lookup: the amount is in rials and the text is not blank. -/
def LooksUp (baseAmount : ℕ) (codeStr : String) : Prop :=
  (baseAmount = 0 ∨ 10000 ≤ baseAmount) ∧ Text.strip codeStr ≠ ""

/-- The row passes the checks after the lookup. -/
def DiscountCode.usable (dc : DiscountCode) : Prop := dc.exhausted = false ∧ dc.percent ≤ 100

/-- A row is found exactly when it passes the filter and no earlier row does. -/
theorem findCode_eq_some_iff {pk : ℕ} {dc : DiscountCode} :
    findCode competition codeStr codes = some (pk, dc) ↔
      codes.get pk = some dc ∧ (dc.answersTo codeStr = true ∧ dc.validFor competition = true) ∧
        ∀ pk' dc', pk' < pk → codes.get pk' = some dc' → dc'.answersTo codeStr = true →
          dc'.validFor competition = false := by
  unfold findCode DiscountCode.answersTo
  rw [Table.oldest_eq_some_iff]
  simp only [Bool.and_eq_true, Bool.and_eq_false_iff]
  grind

/-- A code that is handed out was found, and passed the checks. -/
theorem applyDiscountForCompetition_code {d : Discounted} {codes' : Table DiscountCode} {pk : ℕ}
    {dc : DiscountCode}
    (h : applyDiscountForCompetition competition baseAmount codeStr commit commitUse codes =
      .ok (d, codes')) (hcode : d.code = some (pk, dc)) :
    LooksUp baseAmount codeStr ∧ dc.usable ∧
      findCode competition (Text.strip codeStr) codes = some (pk, dc) := by
  obtain ⟨hamount, ⟨-, rfl, -⟩ | ⟨pk', dc', hne, hfind, hex, hpercent, rfl, -⟩⟩ :=
    applyDiscountForCompetition_cases h
  · cases hcode
  · -- the code handed out is the row found
    cases hcode
    exact ⟨⟨by omega, hne⟩, ⟨hex, hpercent⟩, hfind⟩

/-- A row that is found and passes the checks is handed out. -/
theorem exists_code_of_find {pk : ℕ} {dc : DiscountCode} (hlooks : LooksUp baseAmount codeStr)
    (husable : dc.usable)
    (hfind : findCode competition (Text.strip codeStr) codes = some (pk, dc)) :
    ∃ d codes', applyDiscountForCompetition competition baseAmount codeStr commit commitUse codes =
      .ok (d, codes') ∧ d.code = some (pk, dc) := by
  obtain ⟨hamount, hne⟩ := hlooks
  obtain ⟨hex, hpercent⟩ := husable
  have hrial : ¬ (0 < baseAmount ∧ baseAmount < 10000) := by omega
  simp only [applyDiscountForCompetition, hfind, if_neg hrial, if_neg hne, hex,
    Bool.false_eq_true, if_false, if_neg hpercent.not_gt,
    if_neg (percent_le baseAmount hpercent).not_gt]
  by_cases hzero : dc.percent = 0
  · rw [if_pos hzero]
    exact ⟨_, _, rfl, rfl⟩
  · rw [if_neg hzero]
    exact ⟨_, _, rfl, rfl⟩

/-- If the call hands out a code, that code is general or meant for the event. -/
def ReturnsOwnCode (competition : Option CompetitionRef) (baseAmount : ℕ) (codeStr : String)
    (commit : Bool) (commitUse : Option Bool) (codes : Table DiscountCode) : Prop :=
  ∀ d codes', applyDiscountForCompetition competition baseAmount codeStr commit commitUse codes =
    .ok (d, codes') → ∀ pk dc, d.code = some (pk, dc) → dc.OwnEvent competition

/-- The call reaches the lookup, and the first row of that code which is active and
passes the filter is a usable one of another event. -/
def Misadmits (competition : Option CompetitionRef) (baseAmount : ℕ) (codeStr : String)
    (codes : Table DiscountCode) : Prop :=
  LooksUp baseAmount codeStr ∧ ∃ pk dc, codes.get pk = some dc ∧
    dc.answersTo (Text.strip codeStr) = true ∧ dc.usable ∧ dc.slipsThrough competition = true ∧
    ∀ pk' dc', pk' < pk → codes.get pk' = some dc' → dc'.answersTo (Text.strip codeStr) = true →
      dc'.validFor competition = false

/-- **A call hands out only codes of its own event exactly when no usable code that slips
through is the first it meets.** -/
theorem returnsOwnCode_iff (hclean : ∀ pk dc, codes.get pk = some dc → dc.clean = .ok ()) :
    ReturnsOwnCode competition baseAmount codeStr commit commitUse codes ↔
      ¬ Misadmits competition baseAmount codeStr codes := by
  constructor
  · rintro h ⟨hlooks, pk, dc, hget, hanswers, husable, hslip, hfirst⟩
    have hvalid := validFor_of_slipsThrough (hclean pk dc hget) hslip
    have hfind : findCode competition (Text.strip codeStr) codes = some (pk, dc) :=
      findCode_eq_some_iff.mpr ⟨hget, ⟨hanswers, hvalid⟩, hfirst⟩
    obtain ⟨d, codes', hok, hcode⟩ := exists_code_of_find hlooks husable hfind
    have hown := h d codes' hok pk dc hcode
    rw [ownEvent_iff (hclean pk dc hget) hvalid, hslip] at hown
    cases hown
  · intro h d codes' hok pk dc hcode
    obtain ⟨hlooks, husable, hfind⟩ := applyDiscountForCompetition_code hok hcode
    obtain ⟨hget, ⟨hanswers, hvalid⟩, hfirst⟩ := findCode_eq_some_iff.mp hfind
    rw [ownEvent_iff (hclean pk dc hget) hvalid]
    by_contra hslip
    exact h ⟨hlooks, pk, dc, hget, hanswers, husable, by simpa using hslip, hfirst⟩

end Calls

/-- A code for the poomsae competition 7. -/
def poomsaeCode : DiscountCode where
  code := "CHB-POOMSAE"
  percent := 20
  competition := none
  poomsaeCompetition := some 7
  seminar := none
  maxUses := none
  usedCount := 0
  active := true

/-- The only row is the code for the poomsae competition. -/
theorem forall_poomsaeCode {P : DiscountCode → Prop} (h : P poomsaeCode) :
    ∀ pk dc, (Table.empty.insert poomsaeCode).get pk = some dc → P dc :=
  Table.forall_insert Table.forall_empty h

/-- The code of the poomsae competition is handed out for a kyorugi competition. -/
theorem poomsaeCode_for_kyorugi :
    poomsaeCode.clean = .ok () ∧
      ¬ ReturnsOwnCode (some (.kyorugi 3)) 500000 "chb-poomsae" false none
        (Table.empty.insert poomsaeCode) := by
  refine ⟨rfl, fun h => ?_⟩
  have hfound : ∃ d codes', applyDiscountForCompetition (some (.kyorugi 3)) 500000 "chb-poomsae"
      false none (Table.empty.insert poomsaeCode) = .ok (d, codes') ∧
        d.code = some (1, poomsaeCode) :=
    exists_code_of_find ⟨by decide, by decide⟩ ⟨rfl, by decide⟩ rfl
  obtain ⟨d, codes', hok, hcode⟩ := hfound
  rcases h d codes' hok 1 poomsaeCode hcode with hnone | ⟨c, hc, htarget⟩
  · cases hnone
  · cases hc
    cases htarget

/-- For the poomsae competition itself it is the right code. -/
theorem poomsaeCode_for_poomsae :
    ReturnsOwnCode (some (.poomsae 7)) 500000 "chb-poomsae" false none
      (Table.empty.insert poomsaeCode) := by
  refine (returnsOwnCode_iff (forall_poomsaeCode rfl)).mpr ?_
  rintro ⟨-, pk, dc, hget, -, -, hslip, -⟩
  have hown := forall_poomsaeCode (P := fun dc => dc.slipsThrough (some (.poomsae 7)) = false)
    rfl pk dc hget
  rw [hown] at hslip
  cases hslip

end Tkdchb
