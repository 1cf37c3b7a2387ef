import Mathlib.Algebra.Order.Group.Unbundled.Int
import Tkdchb.Lib.Calendar
import Tkdchb.Lib.Text

/-!
# Dates with a time, and their ISO text

`datetime.datetime` to the microsecond, with or without a distance from UTC, and the two
directions of its ISO text. Every text that is read has the dashes of a date.

## Main definitions

* `Calendar.DateTime` — a date with a time, valid by construction
* `Calendar.DateTime.isoformat`, `Calendar.datetimeFromisoformat` — the ISO text

## Main results

* `Calendar.intOfDigits_padded` — the fields of an ISO text are read back as numbers
* `Calendar.fromisoformat_eq_none`, `Calendar.datetimeFromisoformat_eq_none` — a text without
  dashes is no ISO text
-/

namespace Calendar

/-- The fields `datetime.time` accepts. -/
def ValidTime (hour minute second microsecond : ℕ) : Prop :=
  hour < 24 ∧ minute < 60 ∧ second < 60 ∧ microsecond < 1000000

instance (hour minute second microsecond : ℕ) :
    Decidable (ValidTime hour minute second microsecond) :=
  inferInstanceAs (Decidable (_ ∧ _))

/-- A distance from UTC that `datetime.timezone` accepts, in microseconds. -/
def ValidOffset (offset : Option ℤ) : Prop := ∀ o ∈ offset, |o| < 86400000000

instance (offset : Option ℤ) : Decidable (ValidOffset offset) :=
  inferInstanceAs (Decidable (∀ o ∈ offset, _))

/-- A date with a time. Without an offset it is naive. -/
structure DateTime where
  date : Date
  hour : ℕ
  minute : ℕ
  second : ℕ
  microsecond : ℕ
  offset : Option ℤ
  valid : ValidTime hour minute second microsecond
  validOffset : ValidOffset offset
  deriving DecidableEq

/-- `datetime.combine(date, time(…, tzinfo=…))`, with `none` for the `ValueError`. -/
def dateTime? (date : Date) (hour minute second microsecond : ℕ) (offset : Option ℤ) :
    Option DateTime :=
  if h : ValidTime hour minute second microsecond ∧ ValidOffset offset then
    some ⟨date, hour, minute, second, microsecond, offset, h.1, h.2⟩
  else none

/-! ### ISO text -/

/-- The fraction of a second, which is left out when it is zero. -/
def fraction (microsecond : ℕ) : List Char :=
  if microsecond = 0 then [] else '.' :: padded microsecond 6

/-- `±HH:MM[:SS[.ffffff]]` -/
def offsetText (offset : ℤ) : List Char :=
  let n := offset.natAbs
  let seconds := n / 1000000 % 60
  (if offset < 0 then '-' else '+') :: padded (n / 3600000000) 2 ++
    ':' :: padded (n / 60000000 % 60) 2 ++
    if seconds = 0 ∧ n % 1000000 = 0 then []
    else ':' :: padded seconds 2 ++ fraction (n % 1000000)

/-- The time of `datetime.isoformat`, after its minutes. -/
def DateTime.isoRest (t : DateTime) : List Char :=
  ':' :: padded t.second 2 ++ fraction t.microsecond ++ (t.offset.map offsetText).getD []

/-- `datetime.isoformat(sep)` -/
def DateTime.isoformat (t : DateTime) (sep : Char) : String :=
  String.ofList (t.date.isoformat.toList ++
    sep :: (padded t.hour 2 ++ ':' :: (padded t.minute 2 ++ t.isoRest)))

/-- `HH[:MM[:SS[.fff[fff]]]]` as hours, minutes, seconds and microseconds. -/
def parseTimeFields (text : List Char) : Option (ℕ × ℕ × ℕ × ℕ) :=
  match text with
  | [h₁, h₂] => (parseDigits 0 [h₁, h₂]).map fun h => (h, 0, 0, 0)
  | [h₁, h₂, ':', m₁, m₂] => do
    let h ← parseDigits 0 [h₁, h₂]
    let m ← parseDigits 0 [m₁, m₂]
    return (h, m, 0, 0)
  | h₁ :: h₂ :: ':' :: m₁ :: m₂ :: ':' :: s₁ :: s₂ :: rest => do
    let h ← parseDigits 0 [h₁, h₂]
    let m ← parseDigits 0 [m₁, m₂]
    let s ← parseDigits 0 [s₁, s₂]
    match rest with
    | [] => return (h, m, s, 0)
    | ['.', f₁, f₂, f₃] => (parseDigits 0 [f₁, f₂, f₃]).map fun f => (h, m, s, 1000 * f)
    | ['.', f₁, f₂, f₃, f₄, f₅, f₆] =>
      (parseDigits 0 [f₁, f₂, f₃, f₄, f₅, f₆]).map fun f => (h, m, s, f)
    | _ => none
  | _ => none

/-- `HH:MM[:SS[.ffffff]]` after its sign, in microseconds. -/
def parseOffset (sign : Char) (text : List Char) : Option ℤ :=
  if text.length = 5 ∨ text.length = 8 ∨ text.length = 15 then
    (parseTimeFields text).map fun (h, m, s, f) =>
      let n : ℤ := ((h * 60 + m) * 60 + s) * 1000000 + f
      if sign = '-' then -n else n
  else none

/-- A time with an optional offset, which begins at the first sign. -/
def parseTime (date : Date) (text : List Char) : Option DateTime := do
  let (h, m, s, f) ← parseTimeFields (text.takeWhile fun c => c != '+' && c != '-')
  match text.dropWhile fun c => c != '+' && c != '-' with
  | [] => dateTime? date h m s f none
  | sign :: offset => (parseOffset sign offset).bind fun o => dateTime? date h m s f (some o)

/-- `datetime.fromisoformat` on `YYYY-MM-DD[*HH[:MM[:SS[.fff[fff]]]][+HH:MM[:SS[.ffffff]]]]`;
`none` is the `ValueError`. -/
def datetimeFromisoformat (s : String) : Option DateTime := do
  let date ← fromisoformat (String.ofList (s.toList.take 10))
  -- any character separates the date from the time
  match s.toList.drop 11 with
  | [] => dateTime? date 0 0 0 0 none
  | time => parseTime date time

/-! ### Texts without dashes -/

theorem fromisoformat_eq_none {s : String} (h : '-' ∉ s.toList) : fromisoformat s = none := by
  unfold fromisoformat
  split
  · next heq =>
    rw [heq] at h
    simp at h
  · rfl

theorem datetimeFromisoformat_eq_none {s : String} (h : '-' ∉ s.toList) :
    datetimeFromisoformat s = none := by
  have hdate : fromisoformat (String.ofList (s.toList.take 10)) = none := by
    apply fromisoformat_eq_none
    rw [String.toList_ofList]
    exact fun hmem => h (List.mem_of_mem_take hmem)
  rw [datetimeFromisoformat, hdate]
  rfl

/-! ### The characters of a field -/

theorem isDigit_of_mem_padded {n width : ℕ} {c : Char} (hc : c ∈ padded n width) :
    c.isDigit = true := by
  induction width generalizing n with
  | zero => cases hc
  | succ width ih =>
    rcases List.mem_append.mp hc with hfront | hlast
    · exact ih hfront
    · have hall : ∀ d < 10, (Nat.digitChar d).isDigit = true := by decide
      rw [List.mem_singleton.mp hlast]
      exact hall _ (Nat.mod_lt _ (by decide))

theorem padded_ne_nil {n width : ℕ} : padded n (width + 1) ≠ [] := by
  rw [padded]
  exact List.append_ne_nil_of_right_ne_nil _ (List.cons_ne_nil _ _)

/-- A number printed in a field that is wide enough is read back. -/
theorem intOfDigits_padded {n : ℕ} (width : ℕ) (h : n < 10 ^ width) :
    Text.intOfDigits (padded n width) = n := by
  induction width generalizing n with
  | zero =>
    rw [pow_zero, Nat.lt_one_iff] at h
    rw [h]
    rfl
  | succ width ih =>
    have hfront : Text.intOfDigits (padded (n / 10) width) = n / 10 :=
      ih (Nat.div_lt_of_lt_mul (by rwa [pow_succ, mul_comm] at h))
    have hdigit : ∀ d < 10, (Text.digitValue? (Nat.digitChar d)).getD 0 = d := by decide
    rw [Text.intOfDigits] at hfront ⊢
    rw [padded, List.foldl_append, hfront, List.foldl_cons, List.foldl_nil,
      hdigit _ (Nat.mod_lt _ (by decide))]
    exact Nat.div_add_mod n 10

/-- `int` of a field. -/
theorem int?_padded {n : ℕ} (width : ℕ) (h : n < 10 ^ (width + 1)) :
    Text.int? (String.ofList (padded n (width + 1))) = some (n : ℤ) := by
  rw [Text.int?_of_digits padded_ne_nil fun c hc => isDigit_of_mem_padded hc,
    intOfDigits_padded _ h]

theorem notBlank_padded {n width : ℕ} : ∀ c ∈ padded n width, Text.isSpace c = false :=
  fun _ hc => Text.isSpace_of_isDigit (isDigit_of_mem_padded hc)

theorem notBlank_fraction {n : ℕ} : ∀ c ∈ fraction n, Text.isSpace c = false := by
  unfold fraction
  split_ifs
  · exact fun _ hc => absurd hc List.not_mem_nil
  · exact List.forall_mem_cons.mpr ⟨by decide, notBlank_padded⟩

theorem notBlank_offsetText {o : ℤ} : ∀ c ∈ offsetText o, Text.isSpace c = false := by
  have hcolon : Text.isSpace ':' = false := by decide
  have hsign : Text.isSpace (if o < 0 then '-' else '+') = false := by
    split_ifs <;> decide
  simp only [offsetText, List.cons_append, List.forall_mem_cons, List.forall_mem_append]
  refine ⟨hsign, ⟨notBlank_padded, hcolon, notBlank_padded⟩, ?_⟩
  split_ifs
  · exact fun _ hc => absurd hc List.not_mem_nil
  · simp only [List.forall_mem_cons, List.forall_mem_append]
    exact ⟨hcolon, notBlank_padded, notBlank_fraction⟩

/-- The time of an ISO text has no blanks. -/
theorem DateTime.notBlank_isoRest (t : DateTime) : ∀ c ∈ t.isoRest, Text.isSpace c = false := by
  simp only [isoRest, List.cons_append, List.forall_mem_cons, List.forall_mem_append]
  refine ⟨by decide, ⟨notBlank_padded, notBlank_fraction⟩, ?_⟩
  cases t.offset with
  | none => exact fun _ hc => absurd hc List.not_mem_nil
  | some o => exact notBlank_offsetText

end Calendar
