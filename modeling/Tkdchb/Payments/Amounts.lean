import Tkdchb.Competitions.CoachRegister
import Tkdchb.Payments.Gateway

/-!
# The amounts of an intent

An intent stores what is to be paid, the discount and the sum before it. Two endpoints
compute these, with checks of signs and sizes on integers; `Discounts` and `Intents` leave
out the checks that never fail. Here they are all in place.

## Main definitions

* `AmountError` — the checks, by name
* `applyDiscountChecked`, `discountForIntentChecked` — the computations on integers, with
  every check of the source
* `AddsUp` — the amounts of an intent are those of its code

## Main results

* `applyDiscountChecked_eq`, `discountForIntentChecked_eq` — on natural amounts nothing is
  lost by leaving the checks out
* `ten_thousand_le_rest_iff` — when a discounted sum is one the bank accepts
* `intents_add_up` — the amounts of every new intent, and the checks that never fail
* `sendable_iff` — which new intents the bank accepts
-/

namespace Tkdchb

open Calendar Web

/-! ### Percentages -/

/-- What is left of a sum is at least ten thousand exactly if, before rounding, it is more than
one unit below. -/
theorem ten_thousand_le_rest_iff {total percent : ℕ} (h : percent ≤ 100) :
    10000 ≤ total - total * percent / 100 ↔ 999900 < total * (100 - percent) := by
  have hsplit : total * percent + total * (100 - percent) = total * 100 := by
    rw [← Nat.mul_add, Nat.add_sub_cancel' h]
  have hle := percent_le total h
  omega

/-! ### The computations with all checks -/

/-- The errors of the computations. -/
inductive AmountError where
  | negativeBase
  | smallBase
  | notFound
  | exhausted
  | percentRange
  | negativeFinal
  | negativeDiscount
  | discountOverBase
  | finalOverBase
  | smallFinal
  deriving DecidableEq, Repr

/-- The text of the `ValidationError` in `apply_discount_for_competition`. -/
def AmountError.text : AmountError → String
  | .negativeBase => "مبلغ پایه نامعتبر است."
  | .smallBase => "مبلغ باید به ریال باشد (amount بسیار کوچک است)."
  | .notFound => "این کد تخفیف برای این مسابقه معتبر نیست."
  | .exhausted => "سقف استفاده از این کد تخفیف تمام شده است."
  | .percentRange => "درصد تخفیف نامعتبر است."
  | .negativeFinal => "amount نهایی منفی شد (خطای تخفیف)."
  | .negativeDiscount => "discount_amount نامعتبر است."
  | .discountOverBase => "discount_amount از مبلغ پایه بیشتر شد."
  | .finalOverBase => "amount نهایی از مبلغ اولیه بیشتر شد (خطای تخفیف)."
  | .smallFinal => "amount نهایی باید به ریال باشد (عدد بسیار کوچک است)."

/-- The final amount, the code and the discount, on integers. -/
structure DiscountedInt where
  finalAmount : ℤ
  code : Option (ℕ × DiscountCode)
  discountAmount : ℤ

/-- The numbers of `apply_discount_for_competition`, as integers. -/
def Discounted.toInt (d : Discounted) : DiscountedInt := ⟨d.finalAmount, d.code, d.discountAmount⟩

/-- The end of `apply_discount_for_competition`, once the code is found: the discount in
percent, and the checks of the results. -/
def takePercent (baseAmount percent : ℤ) (code : Option (ℕ × DiscountCode)) :
    Except AmountError DiscountedInt :=
  if percent < 0 ∨ 100 < percent then .error .percentRange
  else if percent ≤ 0 then .ok ⟨baseAmount, code, 0⟩
  else
    let discountAmount := baseAmount * percent / 100
    let finalAmount := max (baseAmount - discountAmount) 0
    if finalAmount < 0 then .error .negativeFinal
    else if discountAmount < 0 then .error .negativeDiscount
    else if baseAmount < discountAmount then .error .discountOverBase
    else .ok ⟨finalAmount, code, discountAmount⟩

/-- `apply_discount_for_competition` without the commit flag, on integers. -/
def applyDiscountChecked (competition : Option CompetitionRef) (baseAmount : ℤ) (codeStr : String)
    (codes : Table DiscountCode) : Except AmountError DiscountedInt :=
  let codeStr := Text.strip codeStr
  if baseAmount < 0 then .error .negativeBase
  else if 0 < baseAmount ∧ baseAmount < 10000 then .error .smallBase
  else if codeStr = "" then .ok ⟨baseAmount, none, 0⟩
  else
    match findCode competition codeStr codes with
    | none => .error .notFound
    | some (pk, dc) =>
      if dc.exhausted then .error .exhausted
      else takePercent baseAmount dc.percent (some (pk, dc))

/-- The discount of `create_intent`, with the checks it makes again. -/
def discountForIntentChecked (competition : Option CompetitionRef) (baseAmount : ℤ)
    (discountCode : String) (codes : Table DiscountCode) : Except AmountError DiscountedInt :=
  if discountCode = "" then .ok ⟨baseAmount, none, 0⟩
  else
    match applyDiscountChecked competition baseAmount discountCode codes with
    | .error e => .error e
    | .ok d =>
      if d.finalAmount < 0 then .error .negativeFinal
      else if d.discountAmount < 0 then .error .negativeDiscount
      else if baseAmount < d.finalAmount then .error .finalOverBase
      else if 0 < d.finalAmount ∧ d.finalAmount < 10000 then .error .smallFinal
      else .ok d

/-! ### The checks that never fail -/

section Checks

variable {competition : Option CompetitionRef} {baseAmount : ℕ} {codeStr : String}
  {codes : Table DiscountCode} {code : Option (ℕ × DiscountCode)}

/-- In the range of percentages the results pass their checks. -/
theorem takePercent_eq {percent : ℕ} (h : percent ≤ 100) :
    takePercent baseAmount percent code =
      .ok ⟨(baseAmount - baseAmount * percent / 100 : ℕ), code,
        (baseAmount * percent / 100 : ℕ)⟩ := by
  have hle := percent_le baseAmount h
  have hcast : (baseAmount : ℤ) * percent / 100 = ((baseAmount * percent / 100 : ℕ) : ℤ) := by
    push_cast
    rfl
  have hrest : max ((baseAmount : ℤ) - (baseAmount * percent / 100 : ℕ)) 0 =
      (baseAmount - baseAmount * percent / 100 : ℕ) := by
    omega
  unfold takePercent
  dsimp only
  rw [hcast, hrest, if_neg (by omega)]
  by_cases hzero : percent = 0
  · subst hzero
    simp
  · -- neither result is negative, and the discount is within the base
    rw [if_neg (by omega), if_neg (by omega), if_neg (by omega), if_neg (by omega)]

theorem takePercent_of_gt {percent : ℕ} (h : 100 < percent) :
    takePercent baseAmount percent code = .error .percentRange :=
  if_pos (Or.inr (by exact_mod_cast h))

/-- **Leaving the checks out changes nothing**: on natural amounts the computation with all
checks gives what the one without them gives. -/
theorem applyDiscountChecked_eq :
    ((applyDiscountChecked competition baseAmount codeStr codes).mapError AmountError.text) =
      (applyDiscountForCompetition competition baseAmount codeStr false none codes).map
        fun r => r.1.toInt := by
  have hnegative : ¬ (baseAmount : ℤ) < 0 := by omega
  have hsmall : (0 < (baseAmount : ℤ) ∧ (baseAmount : ℤ) < 10000) ↔
      0 < baseAmount ∧ baseAmount < 10000 := by omega
  simp only [applyDiscountChecked, applyDiscountForCompetition, if_neg hnegative, hsmall,
    Option.getD_none, Bool.false_eq_true, if_false]
  split_ifs with hbase hempty
  · rfl
  · rfl
  · cases hfound : findCode competition (Text.strip codeStr) codes with
    | none => rfl
    | some x =>
      obtain ⟨pk, dc⟩ := x
      dsimp only
      by_cases hexhausted : dc.exhausted = true
      · rw [if_pos hexhausted, if_pos hexhausted]
        rfl
      · rw [if_neg hexhausted, if_neg hexhausted]
        by_cases hpercent : 100 < dc.percent
        · rw [takePercent_of_gt hpercent, if_pos hpercent]
          rfl
        · rw [takePercent_eq (Nat.le_of_not_lt hpercent), if_neg hpercent]
          have hle := percent_le baseAmount (Nat.le_of_not_lt hpercent)
          by_cases hzero : dc.percent = 0
          · rw [if_pos hzero, hzero]
            simp [Except.map, Except.mapError, Discounted.toInt]
          · rw [if_neg hzero, if_neg (Nat.not_lt.mpr hle)]
            rfl

/-- What the computation can end in: an error about a negative base, one of the checks of the
base amount, the code and the range, or amounts that add up to the base. -/
theorem applyDiscountChecked_cases (competition : Option CompetitionRef) (base : ℤ)
    (codeStr : String) (codes : Table DiscountCode) :
    (base < 0 ∧ applyDiscountChecked competition base codeStr codes = .error .negativeBase) ∨
      (∃ e ∈ [AmountError.smallBase, .notFound, .exhausted, .percentRange],
        applyDiscountChecked competition base codeStr codes = .error e) ∨
      ∃ d, applyDiscountChecked competition base codeStr codes = .ok d ∧ 0 ≤ d.finalAmount ∧
        0 ≤ d.discountAmount ∧ d.finalAmount + d.discountAmount = base := by
  unfold applyDiscountChecked
  dsimp only
  split
  · next hneg => exact Or.inl ⟨hneg, rfl⟩
  · next hneg =>
    -- from here on the amounts are natural numbers
    obtain ⟨n, rfl⟩ := Int.eq_ofNat_of_zero_le (Int.not_lt.mp hneg)
    right
    split
    · exact Or.inl ⟨_, by decide, rfl⟩
    · split
      · exact Or.inr ⟨_, rfl, Int.natCast_nonneg n, Int.le_refl 0, Int.add_zero _⟩
      · split
        · exact Or.inl ⟨_, by decide, rfl⟩
        · next pk dc _ =>
          split
          · exact Or.inl ⟨_, by decide, rfl⟩
          · by_cases hpercent : 100 < dc.percent
            · rw [takePercent_of_gt hpercent]
              exact Or.inl ⟨_, by decide, rfl⟩
            · have hle : n * dc.percent / 100 ≤ n := percent_le n (Nat.le_of_not_lt hpercent)
              rw [takePercent_eq (Nat.le_of_not_lt hpercent)]
              refine Or.inr ⟨_, rfl, Int.natCast_nonneg _, Int.natCast_nonneg _, ?_⟩
              dsimp only
              omega

theorem discountForIntentChecked_eq {v : Initiate} :
    ((discountForIntentChecked competition v.amount v.discountCode codes).mapError
      AmountError.text) = (discountForIntent competition v codes).map Discounted.toInt := by
  unfold discountForIntentChecked discountForIntent
  by_cases hempty : v.discountCode = ""
  · rw [if_pos hempty, if_pos hempty]
    rfl
  · rw [if_neg hempty, if_neg hempty]
    have heq : (applyDiscountChecked competition v.amount v.discountCode codes).mapError
        AmountError.text =
          (applyDiscountForCompetition competition v.amount v.discountCode false none codes).map
            fun r => r.1.toInt := applyDiscountChecked_eq
    -- the two functions go the same way, by what they make of the code
    cases hfree : applyDiscountForCompetition competition v.amount v.discountCode false none
        codes with
    | error text =>
      cases hchecked : applyDiscountChecked competition v.amount v.discountCode codes with
      | error e =>
        rw [hfree, hchecked] at heq
        exact heq
      | ok d =>
        rw [hfree, hchecked] at heq
        cases heq
    | ok r =>
      obtain ⟨d, codes'⟩ := r
      cases hchecked : applyDiscountChecked competition v.amount v.discountCode codes with
      | error e =>
        rw [hfree, hchecked] at heq
        cases heq
      | ok d' =>
        rw [hfree, hchecked] at heq
        obtain rfl : d' = d.toInt := Except.ok.inj heq
        -- the checks for a negative amount never fire on natural numbers
        have hfinal : d.toInt.finalAmount = d.finalAmount := rfl
        have hdiscount : d.toInt.discountAmount = d.discountAmount := rfl
        dsimp only
        rw [hfinal, hdiscount, if_neg (by omega), if_neg (by omega)]
        by_cases hover : v.amount < d.finalAmount
        · rw [if_pos hover, if_pos (by omega)]
          rfl
        · rw [if_neg hover, if_neg (by omega)]
          by_cases hsmall : 0 < d.finalAmount ∧ d.finalAmount < 10000
          · rw [if_pos hsmall, if_pos (by omega)]
            rfl
          · rw [if_neg hsmall, if_neg (by omega)]
            rfl

/-- **The checks that never fail**: on a base amount that is not negative, no computation ends
in an error about a sign or about the base amount being exceeded. -/
theorem error_mem_of_nonneg {base : ℤ} {e : AmountError} (hbase : 0 ≤ base)
    (h : applyDiscountChecked competition base codeStr codes = .error e ∨
      discountForIntentChecked competition base codeStr codes = .error e) :
    e ∈ [AmountError.smallBase, .notFound, .exhausted, .percentRange, .smallFinal] := by
  have happly : ∀ {e}, applyDiscountChecked competition base codeStr codes = .error e →
      e ∈ [AmountError.smallBase, .notFound, .exhausted, .percentRange, .smallFinal] := by
    intro e h
    rcases applyDiscountChecked_cases competition base codeStr codes with
      ⟨hneg, -⟩ | ⟨e', hmem, he'⟩ | ⟨d, hd, -⟩
    · exact absurd hneg (Int.not_lt.mpr hbase)
    · obtain rfl := Except.error.inj (h.symm.trans he')
      exact List.mem_append_left [AmountError.smallFinal] hmem
    · rw [h] at hd
      cases hd
  rcases h with h | h
  · exact happly h
  · unfold discountForIntentChecked at h
    split at h
    · cases h
    · split at h
      · next e' he' =>
        cases h
        exact happly he'
      · next d hd =>
        -- the amounts of a discount add up to the base, so the sign checks pass
        obtain ⟨hfinal, hdiscount, hsum⟩ : 0 ≤ d.finalAmount ∧ 0 ≤ d.discountAmount ∧
            d.finalAmount + d.discountAmount = base := by
          rcases applyDiscountChecked_cases competition base codeStr codes with
            ⟨-, he⟩ | ⟨e, -, he⟩ | ⟨d', hd', hamounts⟩
          · rw [hd] at he
            cases he
          · rw [hd] at he
            cases he
          · obtain rfl := Except.ok.inj (hd.symm.trans hd')
            exact hamounts
        rw [if_neg (by omega), if_neg (by omega), if_neg (by omega)] at h
        split at h
        · cases h
          decide
        · cases h

end Checks

/-! ### New intents -/

/-- The amounts of an intent are those of its code: they add up, and the discount is the floor
of the percentage, or nothing without a code. -/
structure AddsUp (codes : Table DiscountCode) (i : PaymentIntent) : Prop where
  sum : i.amount + i.discountAmount = i.originalAmount
  amount_le : i.amount ≤ i.originalAmount
  without : i.discountCode = none → i.discountAmount = 0
  floor : ∀ pk, i.discountCode = some pk → ∃ dc, codes.get pk = some dc ∧
    i.discountAmount = i.originalAmount * dc.percent / 100

/-- The percentage of a code that was handed out, and nothing without one. -/
def percentOf (code : Option (ℕ × DiscountCode)) : ℕ := (code.map fun c => c.2.percent).getD 0

/-- The code that a text names, for a competition. -/
def namedCode (competition : Option CompetitionRef) (codeStr : String)
    (codes : Table DiscountCode) : Option (ℕ × DiscountCode) :=
  if Text.strip codeStr = "" then none else findCode competition (Text.strip codeStr) codes

theorem namedCode_strip {competition : Option CompetitionRef} {codeStr : String}
    {codes : Table DiscountCode} :
    namedCode competition (Text.strip codeStr) codes = namedCode competition codeStr codes := by
  rw [namedCode, namedCode, Text.strip_strip]

theorem addsUp_of_code {codes : Table DiscountCode} {i : PaymentIntent}
    {code : Option (ℕ × DiscountCode)} {base final discount : ℕ}
    (hfloor : discount = base * percentOf code / 100) (hsum : final + discount = base)
    (hrow : ∀ pk dc, code = some (pk, dc) → codes.get pk = some dc)
    (horiginal : i.originalAmount = base) (hamount : i.amount = final)
    (hdiscount : i.discountAmount = discount) (hcode : i.discountCode = code.map Prod.fst) :
    AddsUp codes i where
  sum := by rw [hamount, hdiscount, horiginal, hsum]
  amount_le := by
    rw [hamount, horiginal, ← hsum]
    exact Nat.le_add_right final discount
  without hnone := by
    obtain rfl : code = none := Option.map_eq_none_iff.mp (hcode.symm.trans hnone)
    rw [hdiscount, hfloor]
    exact Nat.zero_div 100
  floor pk hpk := by
    obtain ⟨⟨key, dc⟩, rfl, rfl⟩ := Option.map_eq_some_iff.mp (hcode.symm.trans hpk)
    exact ⟨dc, hrow key dc rfl, by rw [hdiscount, horiginal, hfloor]; rfl⟩

section NewIntents

variable {cfg : Settings} {reg : Registry} {user : ℕ} {publicId : String} {db db' : Db}
  {r : Response} {k : ℕ} {i : PaymentIntent}

/-- The code that is handed out is the one the text names, and the discount is the floor of its
percentage. -/
theorem granted_code {competition : Option CompetitionRef} {baseAmount : ℕ} {codeStr : String}
    {codes codes' : Table DiscountCode} {d : Discounted}
    (h : applyDiscountForCompetition competition baseAmount codeStr false none codes =
      .ok (d, codes')) :
    d.code = namedCode competition codeStr codes ∧ percentOf d.code ≤ 100 ∧
      d.discountAmount = baseAmount * percentOf d.code / 100 := by
  obtain ⟨-, ⟨hempty, rfl, -⟩ | ⟨pk, dc, hne, hfind, -, hpercent, rfl, -⟩⟩ :=
    applyDiscountForCompetition_cases h
  · rw [namedCode, if_pos hempty]
    exact ⟨rfl, Nat.zero_le _, (Nat.zero_div 100).symm⟩
  · rw [namedCode, if_neg hne, hfind]
    exact ⟨rfl, hpercent, rfl⟩

/-- A granted discount, as amounts. -/
theorem granted_percent {competition : Option CompetitionRef} {baseAmount : ℕ} {codeStr : String}
    {codes codes' : Table DiscountCode} {d : Discounted}
    (h : applyDiscountForCompetition competition baseAmount codeStr false none codes =
      .ok (d, codes')) :
    percentOf d.code ≤ 100 ∧ d.discountAmount = baseAmount * percentOf d.code / 100 ∧
      d.finalAmount + d.discountAmount = baseAmount ∧
      (∀ pk dc, d.code = some (pk, dc) → codes.get pk = some dc) ∧
      d.code = namedCode competition codeStr codes := by
  obtain ⟨hgranted, -⟩ := applyDiscountForCompetition_ok h
  obtain ⟨hnamed, hrange, hfloor⟩ := granted_code h
  exact ⟨hrange, hfloor, hgranted.amount_add,
    fun pk dc hcode => (hgranted.code_row pk dc hcode).1, hnamed⟩

/-- The discount of an intent, with a code or without. -/
theorem discountForIntent_ok {competition : Option CompetitionRef} {v : Initiate}
    {codes : Table DiscountCode} {d : Discounted}
    (h : discountForIntent competition v codes = .ok d) :
    d.discountAmount = v.amount * percentOf d.code / 100 ∧
      d.finalAmount + d.discountAmount = v.amount ∧
      (∀ pk dc, d.code = some (pk, dc) → codes.get pk = some dc) ∧
      (d.finalAmount = v.amount ∨ d.finalAmount = 0 ∨ 10000 ≤ d.finalAmount) := by
  unfold discountForIntent at h
  split at h
  · cases h
    exact ⟨by simp [percentOf], rfl, nofun, Or.inl rfl⟩
  · split at h
    · cases h
    · next d' codes' hd =>
      split at h
      · cases h
      · split at h
        · cases h
        · next hsmall =>
          cases h
          obtain ⟨-, hfloor, hsum, hrow, -⟩ := granted_percent hd
          exact ⟨hfloor, hsum, hrow, by omega⟩

/-- The intent of a request to `create_intent`. -/
theorem createIntent_new {data : InitiateData}
    (h : createIntent cfg reg user publicId data db = .ok (r, db'))
    (hold : db.intents.get k = none) (hnew : db'.intents.get k = some i) :
    ∃ v competition d, 10000 ≤ v.amount ∧ discountForIntent competition v db.codes = .ok d ∧
      i = apiIntent cfg user publicId competition v d := by
  rcases createIntent_cases h with rfl | ⟨v, competition, d, -, hamount, hd, -, rfl⟩
  · rw [hold] at hnew
    cases hnew
  · rcases Table.get_insert_cases hnew with hget | ⟨-, rfl⟩
    · rw [hold] at hget
      cases hget
    · exact ⟨v, competition, d, hamount, hd, rfl⟩

/-- The price of a group, with a code or without. -/
theorem priceGroup_ok {compId entryFee count : ℕ} {discountCode : String}
    {codes : Table DiscountCode} {q : Quote}
    (h : priceGroup compId entryFee count discountCode codes = .ok q) :
    q.rawTotal = entryFee * count ∧ percentOf q.code ≤ 100 ∧
      q.discountAmount = q.rawTotal * percentOf q.code / 100 ∧
      q.payableAmount + q.discountAmount = q.rawTotal ∧
      (∀ pk dc, q.code = some (pk, dc) → codes.get pk = some dc) ∧
      q.code = namedCode (some (.kyorugi compId)) discountCode codes := by
  unfold priceGroup at h
  dsimp only at h
  split at h
  · next hempty =>
    cases h
    refine ⟨rfl, Nat.zero_le _, by simp [percentOf], rfl, nofun, ?_⟩
    rw [hempty]
    rfl
  · split at h
    · next d codes' hd =>
      cases h
      obtain ⟨hrange, hfloor, hsum, hrow, hnamed⟩ := granted_percent hd
      exact ⟨rfl, hrange, hfloor, hsum, hrow, hnamed⟩
    · cases h

/-- The intent of a coach's request: of a group that has been priced, and is not free. -/
theorem coachRegister_new {now : Time} {today : Date} {key : String} {data : CoachRegisterData}
    (h : coachRegister cfg reg now today user publicId key data db = .ok (r, db'))
    (hold : db.intents.get k = none) (hnew : db'.intents.get k = some i) :
    ∃ compId comp gateway q,
      ((reg.getCompByKey key).bind fun id => (reg.kyorugi id).map (Prod.mk id)) =
        some (compId, comp) ∧
      priceGroup compId comp.entryFee (checkStudents reg db compId comp data.students).items.length
        (Text.strip data.discountCode) db.codes = .ok q ∧
      q.payableAmount ≠ 0 ∧ i = groupIntent cfg user publicId gateway db.groups.next q := by
  -- a branch that leaves the intents alone has no new one
  have hunchanged : db'.intents ≠ db.intents := by
    intro heq
    rw [heq, hold] at hnew
    cases hnew
  rcases coachRegister_cases h with rfl |
    ⟨compId, comp, coach, coachProfile, gateway, q, hcomp, -, hq, hend⟩
  · exact absurd rfl hunchanged
  · simp only [settleOrCharge, bind, Except.bind, pure, Except.pure] at hend
    split at hend
    · cases hend
      exact absurd rfl hunchanged
    · split at hend
      · cases hend
      · split at hend
        · split at hend
          · cases hend
          · cases hend
            exact absurd rfl hunchanged
        · next hcharged =>
          -- the one branch that opens an intent, for an amount that is not 0
          split at hend
          · cases hend
          · cases hend
            rcases Table.get_insert_cases hnew with hget | ⟨-, rfl⟩
            · rw [hold] at hget
              cases hget
            · refine ⟨compId, comp, gateway, q, hcomp, hq, fun hfree => hcharged ?_, rfl⟩
              simp [hfree]

theorem groupIntent_amounts (cfg : Settings) (user : ℕ) (publicId gateway : String) (gpId : ℕ)
    {q : Quote} (hfloor : q.discountAmount = q.rawTotal * percentOf q.code / 100) :
    let i := groupIntent cfg user publicId gateway gpId q
    i.originalAmount = q.rawTotal ∧ i.amount = q.payableAmount ∧
      i.discountAmount = q.discountAmount ∧ i.discountCode = q.code.map Prod.fst := by
  cases hcode : q.code with
  | none =>
    have hnothing : q.discountAmount = 0 := by
      rw [hfloor, hcode]
      exact Nat.zero_div 100
    simp [groupIntent, hcode, hnothing, PaymentIntent.create]
  | some c => simp [groupIntent, hcode, PaymentIntent.create]

/-- **Intent amounts add up** on both paths that create intents; the endpoints compute them as
the computations with all checks do, and of these checks none that is about a sign or about
exceeding the base amount ever fails. -/
theorem intents_add_up :
    (∀ (cfg : Settings) (reg : Registry) (user : ℕ) (publicId : String) (data : InitiateData)
        (db db' : Db) (r : Response) (k : ℕ) (i : PaymentIntent),
      createIntent cfg reg user publicId data db = .ok (r, db') → db.intents.get k = none →
      db'.intents.get k = some i → AddsUp db.codes i) ∧
    (∀ (cfg : Settings) (reg : Registry) (now : Time) (today : Date) (user : ℕ)
        (publicId key : String) (data : CoachRegisterData) (db db' : Db) (r : Response) (k : ℕ)
        (i : PaymentIntent),
      coachRegister cfg reg now today user publicId key data db = .ok (r, db') →
      db.intents.get k = none → db'.intents.get k = some i → AddsUp db.codes i) ∧
    (∀ (competition : Option CompetitionRef) (v : Initiate) (codeStr : String)
        (codes : Table DiscountCode),
      ((applyDiscountChecked competition v.amount codeStr codes).mapError AmountError.text =
        (applyDiscountForCompetition competition v.amount codeStr false none codes).map
          fun r => r.1.toInt) ∧
      (discountForIntentChecked competition v.amount v.discountCode codes).mapError
        AmountError.text = (discountForIntent competition v codes).map Discounted.toInt) ∧
    ∀ (competition : Option CompetitionRef) (base : ℤ) (codeStr : String)
        (codes : Table DiscountCode) (e : AmountError), 0 ≤ base →
      applyDiscountChecked competition base codeStr codes = .error e ∨
        discountForIntentChecked competition base codeStr codes = .error e →
      e ∉ [AmountError.negativeBase, .negativeFinal, .negativeDiscount, .discountOverBase,
        .finalOverBase] := by
  refine ⟨?_, ?_, fun competition v codeStr codes =>
    ⟨applyDiscountChecked_eq, discountForIntentChecked_eq⟩, ?_⟩
  · intro cfg reg user publicId data db db' r k i h hold hnew
    obtain ⟨v, competition, d, -, hd, rfl⟩ := createIntent_new h hold hnew
    obtain ⟨hfloor, hsum, hrow, -⟩ := discountForIntent_ok hd
    exact addsUp_of_code hfloor hsum hrow rfl rfl rfl rfl
  · intro cfg reg now today user publicId key data db db' r k i h hold hnew
    obtain ⟨compId, comp, gateway, q, -, hq, -, rfl⟩ := coachRegister_new h hold hnew
    obtain ⟨-, -, hfloor, hsum, hrow, -⟩ := priceGroup_ok hq
    obtain ⟨horiginal, hamount, hdiscount, hcode⟩ :=
      groupIntent_amounts cfg user publicId gateway db.groups.next hfloor
    exact addsUp_of_code hfloor hsum hrow horiginal hamount hdiscount hcode
  · intro competition base codeStr codes e hbase h hmem
    have hleft := error_mem_of_nonneg hbase h
    cases e <;> simp at hleft hmem

end NewIntents

/-! ### What the bank accepts -/

/-- Nothing is to be paid, or an amount the bank takes. -/
def Sendable (i : PaymentIntent) : Prop := i.amount = 0 ∨ 10000 ≤ i.amount

/-- The answer of the guard in `_dispatch_to_gateway`. -/
def tooSmall : Reply := .respond (.json 400 [("detail", .str "invalid amount (must be rials)")])

theorem ne_tooSmall_of_status {status : ℕ} {body : List (String × Json)} (h : status ≠ 400) :
    Reply.respond (.json status body) ≠ tooSmall := by
  intro heq
  cases heq
  exact h rfl

/-- **The guard** refuses an intent for a bank exactly if it is not one to send. -/
theorem dispatch_tooSmall_iff {cfg : Settings} {reg : Registry} {now : Time} {pk : ℕ}
    {i : PaymentIntent} {outcome : GatewayOutcome} {db : Db}
    (hbank : i.gateway = "sadad" ∨ i.gateway = "bmi") (hcreds : cfg.sadadCredsOk = true) :
    (dispatchToGateway cfg reg now pk i outcome db).1 = tooSmall ↔ ¬ Sendable i := by
  have hdummy : i.gateway ≠ "dummy" := by
    rcases hbank with h | h <;> rw [h] <;> decide
  unfold dispatchToGateway Sendable
  by_cases hzero : i.amount = 0
  · rw [if_pos hzero]
    refine iff_of_false ?_ (not_not.mpr (Or.inl hzero))
    split
    · exact fun heq => by cases heq
    · exact ne_tooSmall_of_status (by decide)
  · rw [if_neg hzero, if_neg hdummy, if_pos hbank, hcreds]
    by_cases hsmall : i.amount < 10000
    · rw [if_neg (by decide), if_pos hsmall]
      exact iff_of_true rfl (by omega)
    · rw [if_neg (by decide), if_neg hsmall]
      refine iff_of_false ?_ (not_not.mpr (Or.inr (Nat.le_of_not_lt hsmall)))
      cases outcome <;> exact fun heq => by cases heq

/-- **New intents can be sent to the bank**: always if they come from `create_intent`; if they
come from a coach, exactly if more than 999,900 hundredths of the fees are left after the
discount of the code. The guard refuses the others. -/
theorem sendable_iff (cfg : Settings) (reg : Registry) (user : ℕ) (publicId : String) (db db' : Db)
    (r : Response) (k : ℕ) (i : PaymentIntent) (hold : db.intents.get k = none)
    (hnew : db'.intents.get k = some i) :
    (∀ data : InitiateData,
      createIntent cfg reg user publicId data db = .ok (r, db') → Sendable i) ∧
    (∀ (now : Time) (today : Date) (key : String) (data : CoachRegisterData),
      coachRegister cfg reg now today user publicId key data db = .ok (r, db') → ∃ compId comp,
        ((reg.getCompByKey key).bind fun id => (reg.kyorugi id).map (Prod.mk id)) =
          some (compId, comp) ∧
        (Sendable i ↔ 999900 < comp.entryFee *
          (checkStudents reg db compId comp data.students).items.length *
          (100 - percentOf (namedCode (some (.kyorugi compId)) data.discountCode db.codes)))) ∧
    ∀ (now : Time) (pk : ℕ) (outcome : GatewayOutcome) (later : Db),
      i.gateway = "sadad" ∨ i.gateway = "bmi" → cfg.sadadCredsOk = true →
      ((dispatchToGateway cfg reg now pk i outcome later).1 = tooSmall ↔ ¬ Sendable i) := by
  refine ⟨?_, ?_, fun now pk outcome later hbank hcreds => dispatch_tooSmall_iff hbank hcreds⟩
  · intro data h
    obtain ⟨v, competition, d, hamount, hd, rfl⟩ := createIntent_new h hold hnew
    obtain ⟨-, -, -, hfinal⟩ := discountForIntent_ok hd
    -- an amount that no discount has changed is one that the serializer has bounded below
    rcases hfinal with heq | hzero | hlarge
    · have hle : 10000 ≤ d.finalAmount := by
        rw [heq]
        exact hamount
      exact Or.inr hle
    · exact Or.inl hzero
    · exact Or.inr hlarge
  · intro now today key data h
    obtain ⟨compId, comp, gateway, q, hcomp, hq, hpayable, rfl⟩ := coachRegister_new h hold hnew
    obtain ⟨htotal, hrange, hfloor, hsum, -, hnamed⟩ := priceGroup_ok hq
    obtain ⟨-, hamount, -, -⟩ :=
      groupIntent_amounts cfg user publicId gateway db.groups.next hfloor
    have hrest : q.payableAmount = q.rawTotal - q.rawTotal * percentOf q.code / 100 := by omega
    refine ⟨compId, comp, hcomp, ?_⟩
    -- the view has refused a price of zero, so only the least amount of the bank is left
    rw [← namedCode_strip, ← hnamed, ← htotal, ← ten_thousand_le_rest_iff hrange, ← hrest,
      Sendable, hamount]
    exact or_iff_right hpayable

/-- A competition that costs the least amount the bank accepts. -/
def cheapRegistry : Registry :=
  { openRegistry with
    kyorugi := fun _ => some { (default : KyorugiCompetition) with
      entryFee := 10000
      competitionDate := ⟨2026, 5, 9, by decide⟩
      registrationManual := some true }
    profile := fun _ => some { (default : UserProfile) with role := "player" }
    getCompByKey := fun _ => some 1
    coachFromRequest := fun _ => some 9
    parseInsuranceDate := fromisoformat
    findWeightCategoryFor := fun _ _ _ => some 3 }

/-- A code that takes off half of every price. -/
def halfPrice : Db :=
  { (default : Db) with
    codes := Table.empty.insert { (default : DiscountCode) with
      code := "half"
      percent := 50
      competition := some 1
      active := true } }

/-- A coach registers students with the code. -/
def registerAtHalf (players : List ℤ) : CoachRegisterData :=
  { (default : CoachRegisterData) with
    students := players.map fun pid => ⟨some pid, some 50, "ins", some "2026-03-02"⟩
    discountCode := "half" }

/-- Payments go to the bank. -/
def bankSettings : Settings :=
  { (default : Settings) with paymentsEnabled := true, sadadCredsOk := true }

/-- Two students at half price: the bank takes the amount. -/
theorem sendable_iff_two :
    ∃ r db' i, coachRegister bankSettings cheapRegistry 0 default 7 "h1" "cup"
        (registerAtHalf [5, 6]) halfPrice = .ok (r, db') ∧ db'.intents.get 1 = some i ∧
      Sendable i := by
  obtain ⟨r, db', i, hok, hnew⟩ : ∃ r db' i, coachRegister bankSettings cheapRegistry 0 default 7
      "h1" "cup" (registerAtHalf [5, 6]) halfPrice = .ok (r, db') ∧ db'.intents.get 1 = some i :=
    ⟨_, _, _, rfl, rfl⟩
  obtain ⟨-, hcoach, -⟩ :=
    sendable_iff bankSettings cheapRegistry 7 "h1" halfPrice db' r 1 i rfl hnew
  obtain ⟨compId, comp, hcomp, hiff⟩ := hcoach 0 default "cup" (registerAtHalf [5, 6]) hok
  cases hcomp
  exact ⟨r, db', i, hok, hnew, hiff.mpr (by decide +kernel)⟩

/-- **A registration that cannot be paid**: half of the least amount is refused by the guard,
and the payment stays open. -/
theorem coach_intent_unsendable :
    ∃ r db' i, coachRegister bankSettings cheapRegistry 0 default 7 "h1" "cup"
        (registerAtHalf [5]) halfPrice = .ok (r, db') ∧ halfPrice.intents.get 1 = none ∧
      db'.intents.get 1 = some i ∧ ¬ Sendable i ∧ i.gateway = "sadad" ∧
      ∀ outcome, dispatchToGateway bankSettings cheapRegistry 0 1 i outcome db' =
        (tooSmall, db') := by
  refine ⟨_, _, _, rfl, rfl, rfl, ?_, by decide +kernel, fun outcome => rfl⟩
  rintro (hzero | hlarge)
  · exact absurd hzero (by decide +kernel)
  · exact absurd hlarge (by decide +kernel)

end Tkdchb
