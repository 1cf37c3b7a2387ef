import Tkdchb.Accounts.Approval

/-!
# The spellings of a phone number

A mobile number is written with or without a country code, with digits of three scripts and
with any marks between them. Approval and the registration for a seminar each normalise it.
The one takes every script but not the code `0098`, which it cuts off at the end; the other
takes this code but only Latin digits, and a number that begins like the country code loses
its first two digits.

## Main definitions

* `SubscriberNumber`, `PhonePrefix`, `Spelling` — what is written, and how
* `normalizeIranMobile` — `_normalize_iran_mobile`
* `Canonical` — both functions find the number, and keep it

## Main results

* `Spelling.normalizePhone_eq_iff`, `Spelling.normalizeIranMobile_eq_iff` — the spellings that
  each of them reads
* `canonical_iff` — the spellings that both read
* `Spelling.same_user_iff` — two spellings become one user
-/

namespace Tkdchb.Accounts

/-! ### Spellings -/

/-- A subscriber number, which begins with a nine. -/
structure SubscriberNumber where
  rest : List Char
  length_rest : rest.length = 9
  latin : ∀ c ∈ rest, c.isDigit = true

namespace SubscriberNumber

/-- `9xxxxxxxxx` -/
def digits (n : SubscriberNumber) : List Char := '9' :: n.rest

/-- `09xxxxxxxxx` -/
def canonical (n : SubscriberNumber) : String := String.ofList ('0' :: n.digits)

theorem isDigit_of_mem {n : SubscriberNumber} : ∀ c ∈ n.digits, c.isDigit = true :=
  List.forall_mem_cons.mpr ⟨by decide, n.latin⟩

end SubscriberNumber

/-- What is written before a subscriber number. -/
inductive PhonePrefix where
  | none
  | zero
  | code
  | plusCode
  | zerosCode
  deriving DecidableEq, Repr

namespace PhonePrefix

def text : PhonePrefix → List Char
  | none => []
  | zero => ['0']
  | code => ['9', '8']
  | plusCode => ['+', '9', '8']
  | zerosCode => ['0', '0', '9', '8']

def digits (pre : PhonePrefix) : List Char := pre.text.filter Char.isDigit

end PhonePrefix

/-- Spaces, dashes, brackets and other marks. The plus sign belongs to the country code. -/
def isSeparator (c : Char) : Bool := !Text.isDigit c && c != '+'

/-- The text is the number with this prefix, in Latin, Persian and Arabic digits, with
separators anywhere. -/
def Spelling (pre : PhonePrefix) (n : SubscriberNumber) (w : String) : Prop :=
  (w.toList.filter fun c => !isSeparator c).map faToEnDigits.toLatin = pre.text ++ n.digits

instance (pre : PhonePrefix) (n : SubscriberNumber) (w : String) : Decidable (Spelling pre n w) :=
  inferInstanceAs (Decidable (_ = _))

/-- All digits of the text are Latin. -/
def LatinOnly (w : String) : Prop := ∀ c ∈ w.toList, Text.isDigit c = true → c.isDigit = true

instance (w : String) : Decidable (LatinOnly w) := inferInstanceAs (Decidable (∀ c ∈ _, _))

/-! ### The other function -/

/-- The digits without a country code, as its three `startswith` tests find it. -/
def withoutCode (digits : List Char) : List Char :=
  if "0098".toList.isPrefixOf digits then digits.drop 4
  else if "98".toList.isPrefixOf digits then digits.drop 2
  else if "+98".toList.isPrefixOf digits then digits.drop 3
  else digits

/-- `_normalize_iran_mobile` -/
def normalizeIranMobile (s : String) : String :=
  if s = "" then s
  else
    let digits := withoutCode (s.toList.filter Text.isDigit)
    if digits.length == 10 && ['9'].isPrefixOf digits then String.ofList ('0' :: digits)
    else String.ofList digits

/-! ### The digits of a spelling -/

section Digits

variable {c : Char}

theorem isDigit_of_isDigit (h : c.isDigit = true) : Text.isDigit c = true := by
  rw [Text.isDigit, Text.isDecimal_of_isDigit h, Bool.true_or]

theorem isDecimal_of_inScript {z : ℕ} (hz : z ∈ faToEnDigits.zeros) (hc : Digits.InScript z c) :
    Text.isDecimal c = true := by
  have hsub : faToEnDigits.zeros ⊆ Text.decimalZeros := by decide
  exact Text.isDecimal_iff.mpr ⟨z, hsub hz, hc⟩

/-- A character is Latin after the translation, or it stays. -/
theorem toLatin_cases (c : Char) :
    Text.isDecimal c = true ∧ (faToEnDigits.toLatin c).isDigit = true ∨
      faToEnDigits.toLatin c = c := by
  by_cases h : ∃ z ∈ faToEnDigits.zeros, Digits.InScript z c
  · obtain ⟨z, hz, hc⟩ := h
    have hdigits : ∀ d < 10, (Nat.digitChar d).isDigit = true := by decide
    refine .inl ⟨isDecimal_of_inScript hz hc, ?_⟩
    rw [Digits.Scripts.toLatin_of_inScript hz hc]
    exact hdigits _ (Nat.sub_lt_left_of_lt_add hc.1 hc.2)
  · exact .inr (Digits.Scripts.toLatin_of_forall_not fun z hz hc => h ⟨z, hz, hc⟩)

/-- Translating makes no digits and removes none. -/
theorem isDigit_toLatin (c : Char) : Text.isDigit (faToEnDigits.toLatin c) = Text.isDigit c := by
  rcases toLatin_cases c with ⟨hdecimal, hlatin⟩ | hsame
  · rw [isDigit_of_isDigit hlatin, Text.isDigit, hdecimal, Bool.true_or]
  · rw [hsame]

theorem toLatin_of_isDigit (h : c.isDigit = true) : faToEnDigits.toLatin c = c :=
  Digits.Scripts.toLatin_of_lt (Text.toNat_of_isDigit h).2

end Digits

namespace Spelling

variable {pre pre' : PhonePrefix} {n : SubscriberNumber} {w w' : String}

/-- The digits that are written, in Latin. -/
theorem map_digits (h : Spelling pre n w) :
    (w.toList.filter Text.isDigit).map faToEnDigits.toLatin = pre.digits ++ n.digits := by
  have hkept : ∀ c, (!isSeparator c && Text.isDigit c) = Text.isDigit c := by
    intro c
    cases hc : Text.isDigit c <;> simp [isSeparator, hc]
  have hcomp : Text.isDigit ∘ faToEnDigits.toLatin = Text.isDigit := funext isDigit_toLatin
  have hprefix : pre.text.filter Text.isDigit = pre.digits := by
    cases pre <;> decide
  have hnumber : n.digits.filter Text.isDigit = n.digits :=
    List.filter_eq_self.mpr fun c hc => isDigit_of_isDigit (n.isDigit_of_mem c hc)
  calc (w.toList.filter Text.isDigit).map faToEnDigits.toLatin
      = ((w.toList.filter fun c => !isSeparator c).filter Text.isDigit).map
          faToEnDigits.toLatin := by
        rw [List.filter_filter]
        simp only [Bool.and_comm (Text.isDigit _), hkept]
    _ = ((w.toList.filter fun c => !isSeparator c).map faToEnDigits.toLatin).filter
          Text.isDigit := by
        rw [List.filter_map, hcomp]
    _ = pre.digits ++ n.digits := by
        rw [h, List.filter_append, hprefix, hnumber]

theorem isDigit_of_mem (n : SubscriberNumber) :
    ∀ c ∈ pre.digits ++ n.digits, c.isDigit = true :=
  List.forall_mem_append.mpr ⟨fun _ hc => (List.mem_filter.mp hc).2, n.isDigit_of_mem⟩

/-! ### Approval -/

/-- Approval finds the same digits. -/
theorem filter_translate (h : Spelling pre n w) :
    (faToEnDigits.translate w).toList.filter Text.isDecimal = pre.digits ++ n.digits := by
  have hsame : w.toList.filter (Text.isDecimal ∘ faToEnDigits.toLatin) =
      w.toList.filter Text.isDigit := by
    apply List.filter_congr
    intro c hc
    cases hdigit : Text.isDigit c with
    | true =>
      have hmem : faToEnDigits.toLatin c ∈ pre.digits ++ n.digits := by
        rw [← h.map_digits]
        exact List.mem_map_of_mem (List.mem_filter.mpr ⟨hc, hdigit⟩)
      exact Text.isDecimal_of_isDigit (isDigit_of_mem n _ hmem)
    | false =>
      rw [← isDigit_toLatin, Text.isDigit, Bool.or_eq_false_iff] at hdigit
      exact hdigit.1
  rw [Digits.Scripts.toList_translate, List.filter_map, hsame, h.map_digits]

/-- **Approval reads every spelling but those with the code in zeros.** It takes the first eleven
digits of those. -/
theorem normalizePhone_eq_iff (h : Spelling pre n w) :
    normalizePhone w = n.canonical ↔ pre ≠ .zerosCode := by
  have hlength := n.length_rest
  have hcode : "98".toList = ['9', '8'] := rfl
  unfold normalizePhone
  dsimp only
  rw [h.filter_translate, hcode, SubscriberNumber.canonical, SubscriberNumber.digits]
  cases pre with
  | none =>
    have hdigits : PhonePrefix.none.digits = [] := rfl
    simp [hdigits, hlength]
  | zero =>
    have hdigits : PhonePrefix.zero.digits = ['0'] := rfl
    simp [hdigits, hlength, List.take_of_length_le]
  | code =>
    have hdigits : PhonePrefix.code.digits = ['9', '8'] := rfl
    simp [hdigits, hlength]
  | plusCode =>
    have hdigits : PhonePrefix.plusCode.digits = ['9', '8'] := rfl
    simp [hdigits, hlength]
  | zerosCode =>
    have hdigits : PhonePrefix.zerosCode.digits = ['0', '0', '9', '8'] := rfl
    rw [hdigits, if_neg (by simp), if_neg (by simp), String.ofList_inj]
    simp

/-! ### Registration for a seminar -/

/-- A character that is in no country code stays. -/
theorem mem_withoutCode {c : Char} {ds : List Char} (hc : c ∈ ds)
    (hnot : c ∉ ['0', '9', '8', '+']) : c ∈ withoutCode ds := by
  have hdrop : ∀ {code : List Char} {k : ℕ}, code.isPrefixOf ds = true → code.length = k →
      code ⊆ ['0', '9', '8', '+'] → c ∈ ds.drop k := by
    rintro code k hprefix rfl hsub
    obtain ⟨rest, rfl⟩ := List.isPrefixOf_iff_prefix.mp hprefix
    rw [List.drop_left]
    exact (List.mem_append.mp hc).resolve_left fun hmem => hnot (hsub hmem)
  unfold withoutCode
  split_ifs with hzeros hcode hplus
  · exact hdrop hzeros rfl (by decide)
  · exact hdrop hcode rfl (by decide)
  · exact hdrop hplus rfl (by decide)
  · exact hc

/-- A digit of another script is never lost. -/
theorem mem_normalizeIranMobile {c : Char} (hc : c ∈ w.toList) (hdigit : Text.isDigit c = true)
    (hother : c.isDigit = false) : c ∈ (normalizeIranMobile w).toList := by
  have hnot : c ∉ ['0', '9', '8', '+'] := by
    intro hmem
    have hall : (['0', '9', '8', '+'].all fun c => c.isDigit || !Text.isDigit c) = true := by
      decide +kernel
    have hone := List.all_eq_true.mp hall c hmem
    rw [hother, hdigit] at hone
    cases hone
  have hkept := mem_withoutCode (List.mem_filter.mpr ⟨hc, hdigit⟩) hnot
  have hne : w ≠ "" := by
    rintro rfl
    cases hc
  unfold normalizeIranMobile
  rw [if_neg hne]
  dsimp only
  split_ifs
  · rw [String.toList_ofList]
    exact List.mem_cons_of_mem _ hkept
  · rw [String.toList_ofList]
    exact hkept

/-- Latin digits are found as they are. -/
theorem filter_of_latinOnly (h : Spelling pre n w) (hlatin : LatinOnly w) :
    w.toList.filter Text.isDigit = pre.digits ++ n.digits := by
  have hsame : (w.toList.filter Text.isDigit).map faToEnDigits.toLatin =
      (w.toList.filter Text.isDigit).map id := by
    apply List.map_congr_left
    intro c hc
    obtain ⟨hmem, hdigit⟩ := List.mem_filter.mp hc
    exact toLatin_of_isDigit (hlatin c hmem hdigit)
  rw [← h.map_digits, hsame, List.map_id]

/-- A country code is taken off, and so is the beginning of a number that looks like one. -/
theorem withoutCode_digits (pre : PhonePrefix) (n : SubscriberNumber) :
    withoutCode (pre.digits ++ n.digits) =
      if pre = .none ∧ n.rest.head? = some '8' then n.rest.drop 1
      else if pre = .zero then '0' :: n.digits else n.digits := by
  have hzeros : "0098".toList = ['0', '0', '9', '8'] := rfl
  have hcode : "98".toList = ['9', '8'] := rfl
  have hplus : "+98".toList = ['+', '9', '8'] := rfl
  unfold withoutCode
  rw [hzeros, hcode, hplus, SubscriberNumber.digits]
  cases pre with
  | none =>
    obtain ⟨a, rest, hrest⟩ := List.exists_cons_of_length_pos (by rw [n.length_rest]; decide)
    have hdigits : PhonePrefix.none.digits = [] := rfl
    rw [hdigits, hrest]
    by_cases ha : a = '8'
    · simp [ha]
    · simp [ha, Ne.symm ha]
  | zero => rfl
  | code => rfl
  | plusCode => rfl
  | zerosCode => rfl

/-- **Registration reads Latin digits**, of numbers that do not begin like the code. -/
theorem normalizeIranMobile_eq_iff (h : Spelling pre n w) :
    normalizeIranMobile w = n.canonical ↔
      LatinOnly w ∧ ¬(pre = .none ∧ n.rest.head? = some '8') := by
  have hlength := n.length_rest
  by_cases hlatin : LatinOnly w
  · have hne : w ≠ "" := by
      rintro rfl
      have hnil := (h.filter_of_latinOnly hlatin).symm
      exact List.append_ne_nil_of_right_ne_nil _ (List.cons_ne_nil _ _) hnil
    unfold normalizeIranMobile
    rw [if_neg hne, h.filter_of_latinOnly hlatin, withoutCode_digits]
    dsimp only
    rw [SubscriberNumber.canonical, SubscriberNumber.digits, and_iff_right hlatin]
    by_cases hcut : pre = .none ∧ n.rest.head? = some '8'
    · -- eight digits are left
      rw [if_pos hcut, if_neg (by simp [hlength]), String.ofList_inj]
      refine iff_of_false (fun heq => ?_) fun hnot => hnot hcut
      have hlengths := congrArg List.length heq
      simp [hlength] at hlengths
    · rw [if_neg hcut]
      by_cases hzero : pre = .zero
      · rw [if_pos hzero, if_neg (by simp [hlength])]
        exact iff_of_true rfl hcut
      · rw [if_neg hzero, if_pos (by simp [hlength])]
        exact iff_of_true rfl hcut
  · refine iff_of_false (fun heq => hlatin fun c hc hdigit => ?_) fun hand => hlatin hand.1
    by_contra hother
    have hmem := mem_normalizeIranMobile hc hdigit (Bool.not_eq_true _ ▸ hother)
    rw [heq, SubscriberNumber.canonical, String.toList_ofList] at hmem
    rcases List.mem_cons.mp hmem with rfl | hmem
    · exact hother (by decide)
    · exact hother (n.isDigit_of_mem c hmem)

end Spelling

/-! ### The canonical form -/

/-- Both functions give the number with its zero, and give it again for what they gave. -/
def Canonical (n : SubscriberNumber) (w : String) : Prop :=
  ∀ normalize ∈ [normalizePhone, normalizeIranMobile],
    normalize w = n.canonical ∧ normalize (normalize w) = normalize w

/-- The canonical form is a spelling. -/
theorem spelling_canonical (n : SubscriberNumber) : Spelling .zero n n.canonical := by
  have hlatin : ∀ c ∈ '0' :: n.digits, c.isDigit = true :=
    List.forall_mem_cons.mpr ⟨by decide, n.isDigit_of_mem⟩
  have hkeep : ('0' :: n.digits).filter (fun c => !isSeparator c) = '0' :: n.digits := by
    rw [List.filter_eq_self]
    intro c hc
    simp [isSeparator, isDigit_of_isDigit (hlatin c hc)]
  have hsame : ('0' :: n.digits).map faToEnDigits.toLatin = ('0' :: n.digits).map id :=
    List.map_congr_left fun c hc => toLatin_of_isDigit (hlatin c hc)
  rw [Spelling, SubscriberNumber.canonical, String.toList_ofList, hkeep, hsame, List.map_id]
  rfl

theorem latinOnly_canonical (n : SubscriberNumber) : LatinOnly n.canonical := by
  intro c hc _
  rw [SubscriberNumber.canonical, String.toList_ofList] at hc
  rcases List.mem_cons.mp hc with rfl | hmem
  · decide
  · exact n.isDigit_of_mem c hmem

/-- Both functions keep the canonical form. -/
theorem normalizePhone_canonical (n : SubscriberNumber) :
    normalizePhone n.canonical = n.canonical :=
  (spelling_canonical n).normalizePhone_eq_iff.mpr (by decide)

theorem normalizeIranMobile_canonical (n : SubscriberNumber) :
    normalizeIranMobile n.canonical = n.canonical :=
  (spelling_canonical n).normalizeIranMobile_eq_iff.mpr
    ⟨latinOnly_canonical n, fun hnone => absurd hnone.1 (by decide)⟩

/-- **Two spellings become one user** exactly if both or neither have the code in zeros. -/
theorem Spelling.same_user_iff {pre pre' : PhonePrefix} {n : SubscriberNumber} {w w' : String}
    (h : Spelling pre n w) (h' : Spelling pre' n w') :
    normalizePhone w = normalizePhone w' ↔ (pre = .zerosCode ↔ pre' = .zerosCode) := by
  by_cases hzeros : pre = .zerosCode <;> by_cases hzeros' : pre' = .zerosCode
  · subst hzeros hzeros'
    refine iff_of_true ?_ Iff.rfl
    unfold normalizePhone
    rw [h.filter_translate, h'.filter_translate]
  · rw [h'.normalizePhone_eq_iff.mpr hzeros', h.normalizePhone_eq_iff]
    exact iff_of_false (fun hne => hne hzeros) fun hiff => hzeros' (hiff.mp hzeros)
  · rw [h.normalizePhone_eq_iff.mpr hzeros, eq_comm, h'.normalizePhone_eq_iff]
    exact iff_of_false (fun hne => hne hzeros') fun hiff => hzeros (hiff.mpr hzeros')
  · rw [h.normalizePhone_eq_iff.mpr hzeros, h'.normalizePhone_eq_iff.mpr hzeros']
    exact iff_of_true rfl (iff_of_false hzeros hzeros')

/-- **The spellings that both functions read**: in Latin digits, not with the code in zeros, and
with a prefix if the number begins like the code. -/
theorem canonical_iff {pre : PhonePrefix} {n : SubscriberNumber} {w : String}
    (h : Spelling pre n w) :
    Canonical n w ↔
      pre ≠ .zerosCode ∧ LatinOnly w ∧ ¬(pre = .none ∧ n.rest.head? = some '8') := by
  have hfound : Canonical n w ↔
      normalizePhone w = n.canonical ∧ normalizeIranMobile w = n.canonical := by
    simp only [Canonical, List.forall_mem_cons, List.not_mem_nil, false_imp_iff, implies_true,
      and_true]
    constructor
    · exact fun hboth => ⟨hboth.1.1, hboth.2.1⟩
    · rintro ⟨hphone, hmobile⟩
      rw [hphone, hmobile]
      exact ⟨⟨rfl, normalizePhone_canonical n⟩, rfl, normalizeIranMobile_canonical n⟩
  rw [hfound, h.normalizePhone_eq_iff, h.normalizeIranMobile_eq_iff]

/-- The number of the example in the message to the user. -/
def exampleNumber : SubscriberNumber := ⟨"123456789".toList, rfl, List.all_eq_true.mp (by decide)⟩

theorem canonical_iff_dashes :
    Canonical exampleNumber "+98 (912) 345-6789" ↔
      PhonePrefix.plusCode ≠ .zerosCode ∧ LatinOnly "+98 (912) 345-6789" ∧
        ¬(PhonePrefix.plusCode = .none ∧ exampleNumber.rest.head? = some '8') :=
  canonical_iff (by decide +kernel : Spelling .plusCode exampleNumber "+98 (912) 345-6789")

/-- The code in zeros makes a user of its own, and Persian digits stay Persian. -/
theorem spellings_not_canonical :
    Spelling .zerosCode exampleNumber "00989123456789" ∧
      normalizePhone "00989123456789" = "00989123456" ∧
      ¬Canonical exampleNumber "00989123456789" ∧
      Spelling .zero exampleNumber "۰۹۱۲۳۴۵۶۷۸۹" ∧
      normalizeIranMobile "۰۹۱۲۳۴۵۶۷۸۹" = "۰۹۱۲۳۴۵۶۷۸۹" ∧
      ¬Canonical exampleNumber "۰۹۱۲۳۴۵۶۷۸۹" := by
  have hzeros : Spelling .zerosCode exampleNumber "00989123456789" := by decide +kernel
  have hpersian : Spelling .zero exampleNumber "۰۹۱۲۳۴۵۶۷۸۹" := by decide +kernel
  refine ⟨hzeros, by decide +kernel, fun hall => ?_, hpersian, by decide +kernel, fun hall => ?_⟩
  · exact absurd (hall normalizePhone List.mem_cons_self).1 (by decide +kernel)
  · exact absurd (hall normalizeIranMobile (List.mem_cons_of_mem _ List.mem_cons_self)).1
      (by decide +kernel)

example : normalizeIranMobile "9812345678" = "12345678" := by decide +kernel

end Tkdchb.Accounts
