import Mathlib.Algebra.Field.Rat
import Tkdchb.Lib.Text

/-!
# Decimal numbers in a text

A number with a point and an exponent, as `float` reads it from a text. Numbers are exact.
The infinities and `nan`, which `float` also reads, are no numbers.

## Main definitions

* `Text.float?` — `float(text)`
-/

namespace Text

/-- Digits with at most one point, which may be first or last. -/
def decimal? (text : List Char) : Option ℚ :=
  match text.splitOn '.' with
  | [whole] => (digitGroups? whole).map fun n => (n : ℚ)
  | [whole, frac] =>
    if whole = [] ∧ frac = [] then none
    else do
      let n ← if whole = [] then some 0 else digitGroups? whole
      let m ← if frac = [] then some 0 else digitGroups? frac
      return n + m / 10 ^ (frac.filter (· ≠ '_')).length
  | _ => none

/-- A number without a sign: digits, a point, and an exponent. -/
def scientific? (text : List Char) : Option ℚ :=
  match (text.map Char.toLower).splitOn 'e' with
  | [mantissa] => decimal? mantissa
  | [mantissa, '-' :: digits] => do
    return (← decimal? mantissa) / 10 ^ (← digitGroups? digits)
  | [mantissa, '+' :: digits] => do
    return (← decimal? mantissa) * 10 ^ (← digitGroups? digits)
  | [mantissa, digits] => do
    return (← decimal? mantissa) * 10 ^ (← digitGroups? digits)
  | _ => none

/-- `float(text)`, with `none` for the `ValueError` and for what is no number. -/
def float? (s : String) : Option ℚ :=
  match (strip s).toList with
  | '-' :: rest => (scientific? rest).map fun q => -q
  | '+' :: rest => scientific? rest
  | rest => scientific? rest

example : float? " 4_9.90 " = some (499 / 10) := by decide +kernel

example : float? "50kg" = none := by decide +kernel

end Text
