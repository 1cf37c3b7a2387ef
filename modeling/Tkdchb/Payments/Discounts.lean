import Tkdchb.Payments.Records

/-!
# Applying a discount code

`apply_discount_for_competition` looks a code up, checks its cap and its percentage,
and computes the discounted amount. Amounts are natural numbers of rials, so the
guards against negative amounts are not reached.

## Main definitions

* `CompetitionRef` — the competition a request is about
* `DiscountCode.validFor` — the competition filter of the lookup
* `applyDiscountForCompetition` — the discount of a base amount

## Main results

* `applyDiscountForCompetition_ok` — without the commit flag, a discount that is
  granted comes from an active code below its cap, and no counter moves
-/

namespace Tkdchb

/-- The competition a request is about. -/
inductive CompetitionRef where
  | kyorugi (id : ℕ)
  | poomsae (id : ℕ)
  deriving DecidableEq, Repr

/-- `isinstance(competition, KyorugiCompetition)`, with its key. -/
def CompetitionRef.kyorugiId : CompetitionRef → Option ℕ
  | .kyorugi id => some id
  | .poomsae _ => none

/-- The competition filter of the lookup. Of the columns it probes, the model of a
code has `competition` and `poomsae_competition`. -/
def DiscountCode.validFor (dc : DiscountCode) : Option CompetitionRef → Bool
  | none => true
  | some (.kyorugi id) => dc.competition == some id || dc.competition.isNone
  | some (.poomsae id) =>
    dc.poomsaeCompetition == some id || dc.poomsaeCompetition.isNone || dc.competition.isNone

/-- What `apply_discount_for_competition` returns. -/
structure Discounted where
  finalAmount : ℕ
  code : Option (ℕ × DiscountCode)
  discountAmount : ℕ

/-- `qs.first()` on the filtered codes. -/
def findCode (competition : Option CompetitionRef) (codeStr : String)
    (codes : Table DiscountCode) : Option (ℕ × DiscountCode) :=
  codes.oldest fun dc =>
    Text.lower dc.code == Text.lower codeStr && dc.validFor competition && dc.active

/-- `apply_discount_for_competition`. An error is the text of the `ValidationError`. -/
def applyDiscountForCompetition (competition : Option CompetitionRef) (baseAmount : ℕ)
    (codeStr : String) (commit : Bool) (commitUse : Option Bool) (codes : Table DiscountCode) :
    Except String (Discounted × Table DiscountCode) :=
  let commit := commitUse.getD commit
  let codeStr := Text.strip codeStr
  if 0 < baseAmount ∧ baseAmount < 10000 then
    .error "مبلغ باید به ریال باشد (amount بسیار کوچک است)."
  else if codeStr = "" then
    .ok (⟨baseAmount, none, 0⟩, codes)
  else
    match findCode competition codeStr codes with
    | none => .error "این کد تخفیف برای این مسابقه معتبر نیست."
    | some (pk, dc) =>
      if dc.exhausted then
        .error "سقف استفاده از این کد تخفیف تمام شده است."
      else if 100 < dc.percent then
        .error "درصد تخفیف نامعتبر است."
      else if dc.percent = 0 then
        .ok (⟨baseAmount, some (pk, dc), 0⟩, codes)
      else
        let discountAmount := baseAmount * dc.percent / 100
        let finalAmount := baseAmount - discountAmount
        let codes :=
          if commit then codes.modify pk fun row => { row with usedCount := dc.usedCount + 1 }
          else codes
        if baseAmount < discountAmount then
          .error "discount_amount از مبلغ پایه بیشتر شد."
        else
          .ok (⟨finalAmount, some (pk, dc), discountAmount⟩, codes)

/-- A percentage takes off no more than the amount. -/
theorem percent_le (total : ℕ) {percent : ℕ} (h : percent ≤ 100) :
    total * percent / 100 ≤ total := by
  apply Nat.div_le_of_le_mul
  rw [Nat.mul_comm 100]
  exact Nat.mul_le_mul_left total h

section Apply

variable {competition : Option CompetitionRef} {baseAmount : ℕ} {codeStr : String}
  {codes codes' : Table DiscountCode} {d : Discounted}

/-- The discount that is granted: taken off the base amount, and backed by a code that
is active, meant for the competition and below its cap. -/
structure Granted (competition : Option CompetitionRef) (baseAmount : ℕ)
    (codes : Table DiscountCode) (d : Discounted) : Prop where
  amount_add : d.finalAmount + d.discountAmount = baseAmount
  code_row : ∀ pk dc, d.code = some (pk, dc) → codes.get pk = some dc ∧ dc.active = true ∧
    dc.validFor competition = true ∧ dc.exhausted = false

theorem findCode_spec {pk : ℕ} {dc : DiscountCode}
    (h : findCode competition codeStr codes = some (pk, dc)) :
    codes.get pk = some dc ∧ dc.active = true ∧ dc.validFor competition = true := by
  obtain ⟨hget, hp⟩ := Table.oldest_spec h
  simp only [Bool.and_eq_true] at hp
  exact ⟨hget, hp.2, hp.1.2⟩

/-- What a call that returns has done: nothing for a blank text, and else it has found a usable
code and takes its percentage off. -/
theorem applyDiscountForCompetition_cases {commit : Bool} {commitUse : Option Bool}
    (h : applyDiscountForCompetition competition baseAmount codeStr commit commitUse codes =
      .ok (d, codes')) :
    ¬(0 < baseAmount ∧ baseAmount < 10000) ∧
      (Text.strip codeStr = "" ∧ d = ⟨baseAmount, none, 0⟩ ∧ codes' = codes ∨
        ∃ pk dc, Text.strip codeStr ≠ "" ∧
          findCode competition (Text.strip codeStr) codes = some (pk, dc) ∧
          dc.exhausted = false ∧ dc.percent ≤ 100 ∧
          d = ⟨baseAmount - baseAmount * dc.percent / 100, some (pk, dc),
            baseAmount * dc.percent / 100⟩ ∧
          (commitUse.getD commit = false → codes' = codes)) := by
  simp only [applyDiscountForCompetition] at h
  generalize commitUse.getD commit = commit at h ⊢
  split at h
  · cases h
  · next hsmall =>
    split at h
    · next hempty =>
      cases h
      exact ⟨hsmall, Or.inl ⟨hempty, rfl, rfl⟩⟩
    · next hne =>
      split at h
      · cases h
      · next pk dc hfind =>
        refine ⟨hsmall, Or.inr ⟨pk, dc, hne, hfind, ?_⟩⟩
        split at h
        · cases h
        · next hex =>
          split at h
          · cases h
          · next hpercent =>
            refine ⟨by simpa using hex, not_lt.mp hpercent, ?_⟩
            split at h
            · next hzero =>
              -- a code of zero percent is handed out without a discount
              cases h
              simp [hzero]
            · split at h
              · cases h
              · cases h
                exact ⟨rfl, fun hcommit => by simp [hcommit]⟩

/-- Without the commit flag a discount is granted as stated and no counter moves. -/
theorem applyDiscountForCompetition_ok
    (h : applyDiscountForCompetition competition baseAmount codeStr false none codes =
      .ok (d, codes')) : Granted competition baseAmount codes d ∧ codes' = codes := by
  obtain ⟨-, ⟨-, rfl, rfl⟩ | ⟨pk, dc, -, hfind, hex, hpercent, rfl, hcodes⟩⟩ :=
    applyDiscountForCompetition_cases h
  · exact ⟨⟨rfl, fun _ _ hcode => by cases hcode⟩, rfl⟩
  · obtain ⟨hget, hactive, hvalid⟩ := findCode_spec hfind
    refine ⟨⟨Nat.sub_add_cancel (percent_le baseAmount hpercent), ?_⟩, hcodes rfl⟩
    -- the code handed out is the row that was found and tested
    intro pk' dc' hcode
    cases hcode
    exact ⟨hget, hactive, hvalid, hex⟩

end Apply

end Tkdchb
