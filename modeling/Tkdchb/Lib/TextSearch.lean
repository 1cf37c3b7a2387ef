import Mathlib.Data.List.Infix
import Tkdchb.Lib.Text

/-!
# Searching a rewritten text

A program rewrites a text, character by character, before it searches it for a key that it
does not rewrite. What it finds is what it would have found in the text as it was, as long as
the rewriting neither makes nor changes a character of the key. A search that reads numbers
after the key may have the digits of the text in any script.

## Main definitions

* `Text.Spares` — a rewriting leaves the characters of a key alone
* `Text.latinDigit` — a digit of any script as a Latin digit

## Main results

* `Text.contains_iff` — `key in text` is the order of infixes
* `Text.infix_strip_iff` — a key without blanks is not stripped off
* `Text.Spares.infix_map_iff`, `Text.Spares.dropPrefix?_map` — the key is found in the same
  places
* `Text.isSpace_lowerLatin` — lower case makes no blanks
* `Text.intOfDigits_map_latinDigit` — numbers are read as before
-/

namespace Text

/-! ### Infixes -/

theorem contains_iff {key text : List Char} : contains key text = true ↔ key <:+: text := by
  induction text with
  | nil => rw [contains, List.isEmpty_iff, List.infix_nil]
  | cons c text ih =>
    rw [contains, Bool.or_eq_true, ih, List.isPrefixOf_iff_prefix, List.infix_cons_iff]

/-- A word is still there when the blanks before it are gone. -/
theorem infix_dropWhile_isSpace {key text : List Char} (hkey : ∀ c ∈ key, isSpace c = false)
    (h : key <:+: text) : key <:+: text.dropWhile isSpace := by
  obtain ⟨before, after, rfl⟩ := h
  rw [List.append_assoc, List.dropWhile_append]
  split_ifs with hblank
  · -- all that stands before the key is blank
    cases key with
    | nil => exact List.nil_infix
    | cons c key =>
      rw [List.cons_append, List.dropWhile_cons_of_neg (by simp [hkey c List.mem_cons_self])]
      exact ⟨[], after, rfl⟩
  · rw [← List.append_assoc]
    exact ⟨before.dropWhile isSpace, after, rfl⟩

/-- **A key without blanks is not stripped off.** -/
theorem infix_strip_iff {key : List Char} (hkey : ∀ c ∈ key, isSpace c = false) (s : String) :
    key <:+: (strip s).toList ↔ key <:+: s.toList := by
  constructor
  · intro h
    obtain ⟨before, after, hs, -⟩ := exists_toList_eq_strip s
    rw [hs]
    exact h.trans ⟨before, after, rfl⟩
  · intro h
    have hback : ∀ c ∈ key.reverse, isSpace c = false := fun c hc => hkey c (List.mem_reverse.mp hc)
    rw [strip, String.toList_ofList, ← List.reverse_infix, List.reverse_reverse]
    exact infix_dropWhile_isSpace hback
      (List.reverse_infix.mpr (infix_dropWhile_isSpace hkey h))

/-! ### Rewriting that spares a key -/

/-- The rewriting neither makes nor changes a character of the key. -/
def Spares (f : Char → Char) (key : List Char) : Prop := ∀ c, f c ∈ key ∨ c ∈ key → f c = c

namespace Spares

variable {f : Char → Char} {key text : List Char}

/-- The part of the text that became the key was the key. -/
theorem eq_of_map_eq (h : Spares f key) (hmap : text.map f = key) : text = key := by
  have hkept : ∀ c ∈ text, f c = c := fun c hc => h c (.inl (hmap ▸ List.mem_map_of_mem hc))
  rw [← hmap, List.map_congr_left hkept, List.map_id']

theorem map_eq (h : Spares f key) : key.map f = key := by
  rw [List.map_congr_left fun c hc => h c (.inr hc), List.map_id']

/-- **The key is where it was.** -/
theorem infix_map_iff (h : Spares f key) : key <:+: text.map f ↔ key <:+: text := by
  rw [List.infix_map_iff]
  constructor
  · rintro ⟨part, hpart, hkey⟩
    rw [← h.eq_of_map_eq hkey.symm]
    exact hpart
  · intro hkey
    exact ⟨key, hkey, h.map_eq.symm⟩

theorem contains_map (h : Spares f key) : contains key (text.map f) = contains key text := by
  rw [Bool.eq_iff_iff, contains_iff, contains_iff, h.infix_map_iff]

/-- **What follows the key** at the front is what followed it, rewritten. -/
theorem dropPrefix?_map (h : Spares f key) :
    (text.map f).dropPrefix? key = (text.dropPrefix? key).map (List.map f) := by
  ext rest
  rw [List.dropPrefix?_eq_some_iff, Option.map_eq_some_iff]
  constructor
  · rintro ⟨front, hsplit, hfront⟩
    obtain ⟨part, part', rfl, rfl, rfl⟩ := List.map_eq_append_iff.mp hsplit
    have hpart : part = key := h.eq_of_map_eq (beq_iff_eq.mp hfront)
    exact ⟨part', List.dropPrefix?_eq_some_iff.mpr ⟨part, rfl, beq_iff_eq.mpr hpart⟩, rfl⟩
  · rintro ⟨part', hdrop, rfl⟩
    obtain ⟨part, rfl, hpart⟩ := List.dropPrefix?_eq_some_iff.mp hdrop
    rw [beq_iff_eq] at hpart
    subst hpart
    exact ⟨part, by rw [List.map_append, h.map_eq], beq_iff_eq.mpr rfl⟩

end Spares

/-! ### Lower case -/

section LowerLatin

variable {c : Char}

theorem lowerLatin_eq_self (hkelvin : c ≠ '\u212a') (h : c.toNat < 65 ∨ 90 < c.toNat) :
    lowerLatin c = c := by
  rw [lowerLatin, if_neg hkelvin]
  refine dif_neg ?_
  rintro ⟨hlow, hhigh⟩
  have hlow' : 65 ≤ c.toNat := UInt32.le_iff_toNat_le.mp hlow
  have hhigh' : c.toNat ≤ 90 := UInt32.le_iff_toNat_le.mp hhigh
  omega

/-- Letters with two cases are no blanks. -/
theorem isSpace_lowerLatin (c : Char) : isSpace (lowerLatin c) = isSpace c := by
  by_cases hkelvin : c = '\u212a'
  · subst hkelvin
    decide
  by_cases hupper : c.toNat < 65 ∨ 90 < c.toNat
  · rw [lowerLatin_eq_self hkelvin hupper]
  · have hletters : ∀ i < 26, isSpace (lowerLatin (Char.ofNat (65 + i))) =
        isSpace (Char.ofNat (65 + i)) := by decide
    have hletter := hletters (c.toNat - 65) (by omega)
    rwa [Nat.add_sub_cancel' (by omega), Char.ofNat_toNat] at hletter

end LowerLatin

/-! ### Digits of any script -/

/-- A decimal digit of any script as a Latin digit. -/
def latinDigit (c : Char) : Char :=
  match digitValue? c with
  | some n => Nat.digitChar n
  | none => c

section LatinDigit

variable {c : Char}

theorem digitValue?_lt {n : ℕ} (h : digitValue? c = some n) : n < 10 := by
  obtain ⟨z, -, hvalue⟩ := List.exists_of_findSome?_eq_some h
  split_ifs at hvalue with hrange
  rw [← Option.some.inj hvalue]
  omega

/-- A Latin digit has the value it is written for. -/
theorem digitValue?_digitChar {n : ℕ} (h : n < 10) : digitValue? (Nat.digitChar n) = some n := by
  have hdigit : ∀ n < 10, (Nat.digitChar n).isDigit = true := by decide
  rw [digitValue?_of_isDigit (hdigit n h), Nat.toNat_digitChar_of_lt_ten h,
    Nat.add_sub_cancel_left]

/-- No two scripts share a digit. -/
theorem decimalZeros_apart : ∀ z ∈ decimalZeros, ∀ z' ∈ decimalZeros,
    z = z' ∨ z + 10 ≤ z' ∨ z' + 10 ≤ z := by
  decide +kernel

/-- The value of a digit is its distance from the zero of its script. -/
theorem digitValue?_of_zero {z : ℕ} (hz : z ∈ decimalZeros) (hlow : z ≤ c.toNat)
    (hhigh : c.toNat < z + 10) : digitValue? c = some (c.toNat - z) := by
  have hdecimal : isDecimal c = true := isDecimal_iff.mpr ⟨z, hz, hlow, hhigh⟩
  obtain ⟨n, hn⟩ := Option.isSome_iff_exists.mp hdecimal
  obtain ⟨z', hz', hvalue⟩ := List.exists_of_findSome?_eq_some hn
  split_ifs at hvalue with hrange
  have hsame : z = z' := by
    have hapart := decimalZeros_apart z hz z' hz'
    omega
  rw [hn, ← hvalue, hsame]

theorem latinDigit_of_value {n : ℕ} (h : digitValue? c = some n) :
    latinDigit c = Nat.digitChar n := by
  rw [latinDigit, h]

theorem latinDigit_of_not_isDecimal (h : isDecimal c = false) : latinDigit c = c := by
  have hnone : digitValue? c = none := by simpa [isDecimal] using h
  rw [latinDigit, hnone]

/-- The value of the digit is kept. -/
theorem digitValue?_latinDigit (c : Char) : digitValue? (latinDigit c) = digitValue? c := by
  cases hvalue : digitValue? c with
  | none => rw [latinDigit, hvalue, hvalue]
  | some n => rw [latinDigit_of_value hvalue, digitValue?_digitChar (digitValue?_lt hvalue)]

theorem isDecimal_latinDigit (c : Char) : isDecimal (latinDigit c) = isDecimal c := by
  rw [isDecimal, digitValue?_latinDigit, isDecimal]

theorem isSpace_latinDigit (c : Char) : isSpace (latinDigit c) = isSpace c := by
  cases hdecimal : isDecimal c with
  | false => rw [latinDigit_of_not_isDecimal hdecimal]
  | true =>
    have hlatin : isDecimal (latinDigit c) = true := (isDecimal_latinDigit c).trans hdecimal
    rw [isSpace_of_isDecimal hlatin, isSpace_of_isDecimal hdecimal]

/-- A key without digits is spared. -/
theorem spares_latinDigit {key : List Char} (hkey : ∀ c ∈ key, isDecimal c = false) :
    Spares latinDigit key := by
  rintro c (hmem | hmem)
  · have hdecimal := hkey _ hmem
    rw [isDecimal_latinDigit] at hdecimal
    exact latinDigit_of_not_isDecimal hdecimal
  · exact latinDigit_of_not_isDecimal (hkey c hmem)

/-- **Numbers are read as before.** -/
theorem intOfDigits_map_latinDigit (digits : List Char) :
    intOfDigits (digits.map latinDigit) = intOfDigits digits := by
  rw [intOfDigits, intOfDigits, List.foldl_map]
  simp only [digitValue?_latinDigit]

end LatinDigit

end Text
