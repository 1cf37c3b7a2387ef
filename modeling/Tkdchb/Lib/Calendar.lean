import Mathlib.Algebra.GroupWithZero.Nat
import Mathlib.Data.Nat.Notation
import Mathlib.Tactic.Common

/-!
# Gregorian dates and their ISO text

The proleptic Gregorian calendar of `datetime.date`: years 1 to 9999, the
ordinal used for date arithmetic, and the ten-character ISO form.

## Main definitions

* `Calendar.Date` — a date, valid by construction
* `Calendar.Date.toOrdinal` — days since the day before 1 January of year 1
* `Calendar.Date.isoformat`, `Calendar.fromisoformat` — `YYYY-MM-DD`

## Main results

* `Calendar.fromisoformat_isoformat` — the ISO text of a date is read back
-/

namespace Calendar

def isLeap (year : ℕ) : Bool := year % 4 == 0 && (year % 100 != 0 || year % 400 == 0)

def daysInMonth (year month : ℕ) : ℕ :=
  match month with
  | 2 => if isLeap year then 29 else 28
  | 4 | 6 | 9 | 11 => 30
  | _ => 31

/-- The triples `datetime.date` accepts. -/
def ValidYmd (year month day : ℕ) : Prop :=
  (1 ≤ year ∧ year ≤ 9999) ∧ (1 ≤ month ∧ month ≤ 12) ∧ 1 ≤ day ∧ day ≤ daysInMonth year month

instance (year month day : ℕ) : Decidable (ValidYmd year month day) :=
  inferInstanceAs (Decidable (_ ∧ _))

/-- A date of the calendar. -/
structure Date where
  year : ℕ
  month : ℕ
  day : ℕ
  valid : ValidYmd year month day
  deriving DecidableEq

instance : Inhabited Date := ⟨⟨1, 1, 1, by decide⟩⟩

/-- `date(year, month, day)`, with `none` for the `ValueError`. -/
def date? (year month day : ℕ) : Option Date :=
  if h : ValidYmd year month day then some ⟨year, month, day, h⟩ else none

theorem date?_self (d : Date) : date? d.year d.month d.day = some d := dif_pos d.valid

/-- Days before 1 January of the year. -/
def daysBeforeYear (year : ℕ) : ℕ :=
  (year - 1) * 365 + (year - 1) / 4 - (year - 1) / 100 + (year - 1) / 400

/-- Days before the first of the month. -/
def daysBeforeMonth (year month : ℕ) : ℕ :=
  ((List.range (month - 1)).map fun m => daysInMonth year (m + 1)).sum

/-- `date.toordinal`. -/
def Date.toOrdinal (d : Date) : ℕ :=
  daysBeforeYear d.year + daysBeforeMonth d.year d.month + d.day

/-! ### ISO text -/

/-- Decimal digits of `n`, exactly `width` of them. -/
def padded (n : ℕ) : ℕ → List Char
  | 0 => []
  | width + 1 => padded (n / 10) width ++ [Nat.digitChar (n % 10)]

/-- The value of an ASCII digit. -/
def asciiDigit? (c : Char) : Option ℕ := if c.isDigit then some (c.toNat - 48) else none

/-- A run of ASCII digits. -/
def parseDigits (acc : ℕ) : List Char → Option ℕ
  | [] => some acc
  | c :: cs => (asciiDigit? c).bind fun d => parseDigits (10 * acc + d) cs

/-- `date.isoformat`. -/
def Date.isoformat (d : Date) : String :=
  String.ofList (padded d.year 4 ++ '-' :: padded d.month 2 ++ '-' :: padded d.day 2)

/-- `date.fromisoformat` on the ten-character form; `none` is the `ValueError`. -/
def fromisoformat (s : String) : Option Date :=
  match s.toList with
  | [y₁, y₂, y₃, y₄, '-', m₁, m₂, '-', d₁, d₂] => do
    let year ← parseDigits 0 [y₁, y₂, y₃, y₄]
    let month ← parseDigits 0 [m₁, m₂]
    let day ← parseDigits 0 [d₁, d₂]
    date? year month day
  | _ => none

theorem asciiDigit?_digitChar {n : ℕ} (h : n < 10) : asciiDigit? (Nat.digitChar n) = some n := by
  have hall : ∀ n < 10, asciiDigit? (Nat.digitChar n) = some n := by decide
  exact hall n h

theorem daysInMonth_le (year month : ℕ) : daysInMonth year month ≤ 31 := by
  unfold daysInMonth
  split <;> first | split <;> decide | decide

theorem parseDigits_padded_two {n : ℕ} (h : n < 100) : parseDigits 0 (padded n 2) = some n := by
  simp only [padded, List.nil_append, List.cons_append, parseDigits,
    asciiDigit?_digitChar (Nat.mod_lt _ (by decide : 0 < 10)), Option.bind_some, Option.some.injEq]
  omega

theorem parseDigits_padded_four {n : ℕ} (h : n < 10000) : parseDigits 0 (padded n 4) = some n := by
  simp only [padded, List.nil_append, List.cons_append, parseDigits,
    asciiDigit?_digitChar (Nat.mod_lt _ (by decide : 0 < 10)), Option.bind_some, Option.some.injEq]
  omega

/-- The ISO text of a date is read back. -/
theorem fromisoformat_isoformat (d : Date) : fromisoformat d.isoformat = some d := by
  obtain ⟨⟨-, hyear⟩, ⟨-, hmonth⟩, -, hday⟩ := d.valid
  have hlen := daysInMonth_le d.year d.month
  have hy : parseDigits 0 (padded d.year 4) = some d.year := parseDigits_padded_four (by omega)
  have hm : parseDigits 0 (padded d.month 2) = some d.month := parseDigits_padded_two (by omega)
  have hd : parseDigits 0 (padded d.day 2) = some d.day := parseDigits_padded_two (by omega)
  simp only [padded, List.nil_append, List.cons_append] at hy hm hd
  simp only [fromisoformat, Date.isoformat, String.toList_ofList, padded, List.nil_append,
    List.cons_append, hy, hm, hd, Option.bind_eq_bind, Option.bind_some, date?_self]

end Calendar
