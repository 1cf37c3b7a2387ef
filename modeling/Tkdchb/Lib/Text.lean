import Mathlib.Data.Int.Notation
import Mathlib.Data.List.Basic
import Mathlib.Data.List.TakeWhile
import Mathlib.Data.Nat.Notation

/-!
# Text as scripting languages read it

Whitespace, decimal digits of every script, and the two shapes of regular
expression search that appear in request handlers: a literal key directly
followed by a number, and a key, an equals sign and a number.

## Main definitions

* `Text.isSpace`, `Text.strip`, `Text.lower` — the string methods
* `Text.digitValue?` — the value of a decimal digit in any script
* `Text.isDigit`, `Text.allDigits` — `str.isdigit`
* `Text.contains` — `key in text`
* `Text.int?` — `int` of a text
* `Text.words` — `str.split` without an argument
* `Text.searchNumber` — `re.search(key + r"(\d+)", text)`, read as an integer
* `Text.searchAssigned` — `re.search(key + r"\s*=\s*(\d+)", text, IGNORECASE)`

## Main results

* `Text.readNumber_toDigits` — a printed number is read back
-/

namespace Text

/-- The characters for which `str.isspace` holds, and which `\s` matches. -/
def isSpace (c : Char) : Bool :=
  let n := c.toNat
  (0x9 ≤ n && n ≤ 0xd) || (0x1c ≤ n && n ≤ 0x20) || n == 0x85 || n == 0xa0 || n == 0x1680 ||
    (0x2000 ≤ n && n ≤ 0x200a) || n == 0x2028 || n == 0x2029 || n == 0x202f || n == 0x205f ||
    n == 0x3000

/-- `str.strip`. -/
def strip (s : String) : String :=
  String.ofList ((s.toList.dropWhile isSpace).reverse.dropWhile isSpace).reverse

/-- Stripping looks at blanks only. -/
theorem strip_map {f : Char → Char} (hf : ∀ c, isSpace (f c) = isSpace c) (s : String) :
    strip (String.ofList (s.toList.map f)) = String.ofList ((strip s).toList.map f) := by
  have hcomp : isSpace ∘ f = isSpace := funext hf
  simp only [strip, String.toList_ofList, List.dropWhile_map, hcomp, ← List.map_reverse]

/-- What is no blank is kept. -/
theorem mem_strip_iff {s : String} {c : Char} (hc : isSpace c = false) :
    c ∈ (strip s).toList ↔ c ∈ s.toList := by
  have hdrop : ∀ l : List Char, c ∈ l.dropWhile isSpace ↔ c ∈ l := by
    intro l
    refine ⟨fun hmem => (List.dropWhile_suffix isSpace).subset hmem, fun hmem => ?_⟩
    rw [← List.takeWhile_append_dropWhile (p := isSpace) (l := l)] at hmem
    rcases List.mem_append.mp hmem with hfront | hback
    · rw [List.mem_takeWhile_imp hfront] at hc
      cases hc
    · exact hback
  rw [strip, String.toList_ofList, List.mem_reverse, hdrop, List.mem_reverse, hdrop]

/-- A text that was stripped stays as it is. -/
theorem strip_strip (s : String) : strip (strip s) = strip s := by
  -- what begins like a text without blanks at its front has none there either
  have hfront : ∀ l l' : List Char, l' <+: l.dropWhile isSpace → l'.dropWhile isSpace = l' := by
    intro l l' hprefix
    cases l' with
    | nil => rfl
    | cons c cs =>
      obtain ⟨rest, hrest⟩ := hprefix
      have hne : l.dropWhile isSpace ≠ [] := by simp [← hrest]
      have hhead := List.head_dropWhile_not (p := isSpace) (l := l) hne
      simp only [← hrest, List.cons_append, List.head_cons] at hhead
      exact List.dropWhile_cons_of_neg (by simp [hhead])
  have hback : ∀ l : List Char, (l.dropWhile isSpace).dropWhile isSpace = l.dropWhile isSpace :=
    fun l => hfront l _ (List.prefix_refl _)
  have hkept : (((s.toList.dropWhile isSpace).reverse.dropWhile isSpace).reverse).dropWhile
      isSpace = ((s.toList.dropWhile isSpace).reverse.dropWhile isSpace).reverse := by
    apply hfront s.toList
    rw [← List.reverse_suffix, List.reverse_reverse]
    exact List.dropWhile_suffix isSpace
  simp only [strip, String.toList_ofList]
  rw [hkept, List.reverse_reverse, hback]

/-- A text that neither begins nor ends with a blank is stripped already. -/
theorem strip_of_ends {s : String} (hfirst : ∀ c ∈ s.toList.head?, isSpace c = false)
    (hlast : ∀ c ∈ s.toList.getLast?, isSpace c = false) : strip s = s := by
  have hkeep : ∀ l : List Char, (∀ c ∈ l.head?, isSpace c = false) →
      l.dropWhile isSpace = l := by
    intro l hl
    cases l with
    | nil => rfl
    | cons c l => exact List.dropWhile_cons_of_neg (by simp [hl c rfl])
  rw [← List.head?_reverse] at hlast
  rw [strip, hkeep _ hfirst, hkeep _ hlast, List.reverse_reverse, String.ofList_toList]

/-- A text without blanks is stripped already. -/
theorem strip_of_forall_not {s : String} (h : ∀ c ∈ s.toList, isSpace c = false) :
    strip s = s :=
  strip_of_ends (fun c hc => h c (List.mem_of_head? hc)) fun c hc => h c (List.mem_of_getLast? hc)

/-- Nothing is stripped off around two words. -/
theorem strip_of_two_words {u v : List Char} {c : Char} (hu : u ≠ []) (hv : v ≠ [])
    (hunot : ∀ c ∈ u, isSpace c = false) (hvnot : ∀ c ∈ v, isSpace c = false) :
    strip (String.ofList (u ++ c :: v)) = String.ofList (u ++ c :: v) := by
  apply strip_of_ends
  · rw [String.toList_ofList, List.head?_append_of_ne_nil _ hu]
    exact fun c hc => hunot c (List.mem_of_head? hc)
  · rw [String.toList_ofList, List.append_cons, List.getLast?_append_of_ne_nil _ hv]
    exact fun c hc => hvnot c (List.mem_of_getLast? hc)

/-- What is stripped off is blank. -/
theorem exists_toList_eq_strip (s : String) :
    ∃ a b, s.toList = a ++ (strip s).toList ++ b ∧ (∀ c ∈ a, isSpace c = true) ∧
      ∀ c ∈ b, isSpace c = true := by
  refine ⟨s.toList.takeWhile isSpace,
    ((s.toList.dropWhile isSpace).reverse.takeWhile isSpace).reverse, ?_,
    fun c hc => List.mem_takeWhile_imp hc,
    fun c hc => List.mem_takeWhile_imp (List.mem_reverse.mp hc)⟩
  rw [strip, String.toList_ofList, List.append_assoc, ← List.reverse_append,
    List.takeWhile_append_dropWhile, List.reverse_reverse, List.takeWhile_append_dropWhile]

/-- Blanks around a text do not matter. -/
theorem strip_append {a l b : List Char} (ha : ∀ c ∈ a, isSpace c = true)
    (hb : ∀ c ∈ b, isSpace c = true) :
    strip (String.ofList (a ++ l ++ b)) = strip (String.ofList l) := by
  simp only [strip, String.toList_ofList]
  rw [List.append_assoc, List.dropWhile_append_of_pos ha, List.dropWhile_append]
  split_ifs with hblank
  · rw [List.isEmpty_iff.mp hblank, List.dropWhile_eq_nil_iff.mpr hb]
  · rw [List.reverse_append, List.dropWhile_append_of_pos fun c hc => hb c (List.mem_reverse.mp hc)]

/-- A text may be stripped before characters are removed from it. -/
theorem strip_filter (p : Char → Bool) (s : String) :
    strip (String.ofList (s.toList.filter p)) =
      strip (String.ofList ((strip s).toList.filter p)) := by
  obtain ⟨a, b, hs, ha, hb⟩ := exists_toList_eq_strip s
  have hkeep : ∀ l : List Char, (∀ c ∈ l, isSpace c = true) → ∀ c ∈ l.filter p, isSpace c = true :=
    fun l hl c hc => hl c (List.mem_of_mem_filter hc)
  rw [hs, List.filter_append, List.filter_append, strip_append (hkeep a ha) (hkeep b hb)]

/-- Stripping keeps what stands before a character that is no blank. -/
theorem exists_strip_append_cons {u v : List Char} {c : Char}
    (hu : ∀ c ∈ u, isSpace c = false) (hc : isSpace c = false) :
    ∃ w, (strip (String.ofList (u ++ c :: v))).toList = u ++ c :: w := by
  have hfront : (u ++ c :: v).dropWhile isSpace = u ++ c :: v := by
    cases u with
    | nil => exact List.dropWhile_cons_of_neg (by simp [hc])
    | cons x u => exact List.dropWhile_cons_of_neg (by simp [hu x List.mem_cons_self])
  refine ⟨(v.reverse.dropWhile isSpace).reverse, ?_⟩
  rw [strip, String.toList_ofList, String.toList_ofList, hfront, List.reverse_append,
    List.reverse_cons, List.append_assoc, List.dropWhile_append]
  split_ifs with hblank
  · rw [List.isEmpty_iff.mp hblank, List.singleton_append,
      List.dropWhile_cons_of_neg (by simp [hc])]
    simp
  · simp

/-- `str.lower` on the Latin alphabet; other letters are kept. -/
def lower (s : String) : String := String.ofList (s.toList.map Char.toLower)

/-- `str.lower` of a character, where it gives a letter of the Latin alphabet: the Kelvin sign
has the lower case of a capital K. Other letters are kept. -/
def lowerLatin (c : Char) : Char := if c = '\u212a' then 'k' else c.toLower

/-- `x or y` on strings: the first one unless it is empty. -/
def orElse (x y : String) : String := if x = "" then y else x

/-- The code point of zero in each script with decimal digits (category `Nd`). -/
def decimalZeros : List ℕ :=
  [0x30, 0x660, 0x6f0, 0x7c0, 0x966, 0x9e6, 0xa66, 0xae6, 0xb66, 0xbe6, 0xc66, 0xce6, 0xd66,
    0xde6, 0xe50, 0xed0, 0xf20, 0x1040, 0x1090, 0x17e0, 0x1810, 0x1946, 0x19d0, 0x1a80, 0x1a90,
    0x1b50, 0x1bb0, 0x1c40, 0x1c50, 0xa620, 0xa8d0, 0xa900, 0xa9d0, 0xa9f0, 0xaa50, 0xabf0,
    0xff10, 0x104a0, 0x10d30, 0x11066, 0x110f0, 0x11136, 0x111d0, 0x112f0, 0x11450, 0x114d0,
    0x11650, 0x116c0, 0x11730, 0x118e0, 0x11950, 0x11c50, 0x11d50, 0x11da0, 0x16a60, 0x16ac0,
    0x16b50, 0x1d7ce, 0x1d7d8, 0x1d7e2, 0x1d7ec, 0x1d7f6, 0x1e140, 0x1e2f0, 0x1e950, 0x1fbf0]

/-- The value of a decimal digit of any script, as `\d` and `int` read it. -/
def digitValue? (c : Char) : Option ℕ :=
  decimalZeros.findSome? fun z =>
    if z ≤ c.toNat ∧ c.toNat < z + 10 then some (c.toNat - z) else none

/-- `\d` matches the character. -/
def isDecimal (c : Char) : Bool := (digitValue? c).isSome

/-- The digits that are no decimal digits, as ranges of code points: superscripts, circled
numbers and the like. -/
def digitRanges : List (ℕ × ℕ) :=
  [(0xb2, 0xb3), (0xb9, 0xb9), (0x1369, 0x1371), (0x19da, 0x19da), (0x2070, 0x2070),
    (0x2074, 0x2079), (0x2080, 0x2089), (0x2460, 0x2468), (0x2474, 0x247c), (0x2488, 0x2490),
    (0x24ea, 0x24ea), (0x24f5, 0x24fd), (0x24ff, 0x24ff), (0x2776, 0x277e), (0x2780, 0x2788),
    (0x278a, 0x2792), (0x10a40, 0x10a43), (0x10e60, 0x10e68), (0x11052, 0x1105a),
    (0x1f100, 0x1f10a)]

/-- `str.isdigit` of a character. -/
def isDigit (c : Char) : Bool :=
  isDecimal c || digitRanges.any fun r => r.1 ≤ c.toNat && c.toNat ≤ r.2

/-- `str.isdigit` -/
def allDigits (s : String) : Bool := !s.toList.isEmpty && s.toList.all isDigit

/-- `int` of a run of decimal digits. -/
def intOfDigits (cs : List Char) : ℕ :=
  cs.foldl (fun acc c => 10 * acc + (digitValue? c).getD 0) 0

/-- `(\d+)` at the front of the text, read as an integer. -/
def readNumber (text : List Char) : Option ℕ :=
  match text.takeWhile isDecimal with
  | [] => none
  | d :: ds => some (intOfDigits (d :: ds))

/-- The number after the leftmost occurrence of `key` that a number follows. -/
def searchNumber (key : List Char) : List Char → Option ℕ
  | [] => none
  | c :: cs =>
    match (c :: cs).dropPrefix? key with
    -- no number here: the search goes on one character later
    | some rest => (readNumber rest).or (searchNumber key cs)
    | none => searchNumber key cs

/-- `key\s*=\s*(\d+)` at the front of the text, ignoring case: the digits. -/
def assignedAt (key text : List Char) : Option (List Char) := do
  let rest ← if (text.take key.length).map Char.toLower = key.map Char.toLower
    then some (text.drop key.length) else none
  match rest.dropWhile isSpace with
  | '=' :: rest =>
    match (rest.dropWhile isSpace).takeWhile isDecimal with
    | [] => none
    | digits => some digits
  | _ => none

/-- The digits assigned to `key` at its leftmost matching occurrence. -/
def searchAssigned (key : List Char) : List Char → Option (List Char)
  | [] => none
  | c :: cs => (assignedAt key (c :: cs)).or (searchAssigned key cs)

/-- `key in text` -/
def contains (key : List Char) : List Char → Bool
  | [] => key.isEmpty
  | c :: cs => key.isPrefixOf (c :: cs) || contains key cs

/-- Decimal digits, with single underscores between them. -/
def digitGroups? (text : List Char) : Option ℕ :=
  let groups := text.splitOn '_'
  if groups.all fun g => !g.isEmpty && g.all isDecimal then some (intOfDigits groups.flatten)
  else none

/-- `int(text)`, with `none` for the `ValueError`. -/
def int? (s : String) : Option ℤ :=
  match (strip s).toList with
  | '-' :: digits => (digitGroups? digits).map fun n => -(n : ℤ)
  | '+' :: digits => (digitGroups? digits).map Int.ofNat
  | digits => (digitGroups? digits).map Int.ofNat

/-- `text.split()`: the parts between blanks. -/
def words (text : List Char) : List (List Char) :=
  (text.splitOnP isSpace).filter fun word => !word.isEmpty

/-- `s.strip(quote)` for one character. -/
def stripChar (quote : Char) (s : String) : String :=
  String.ofList ((s.toList.dropWhile (· == quote)).reverse.dropWhile (· == quote)).reverse

/-- `s.replace(old, new)` for single characters. -/
def replaceChar (old new : Char) (s : String) : String :=
  String.ofList (s.toList.map fun c => if c = old then new else c)

theorem words_of_forall_not {word : List Char} (hne : word ≠ [])
    (h : ∀ c ∈ word, isSpace c = false) : words word = [word] := by
  rw [words, List.splitOnP_eq_singleton h]
  simp [hne]

/-- The first word ends at the first blank. -/
theorem words_append_cons {word rest : List Char} {c : Char} (hne : word ≠ [])
    (h : ∀ c ∈ word, isSpace c = false) (hc : isSpace c = true) :
    words (word ++ c :: rest) = word :: words rest := by
  rw [words, List.splitOnP_append_cons_of_forall_mem h c hc,
    List.filter_cons_of_pos (by simp [hne])]
  rfl

theorem toList_replaceChar {old new : Char} (s : String) :
    (replaceChar old new s).toList = s.toList.map fun c => if c = old then new else c :=
  String.toList_ofList

/-- What is replaced is gone. -/
theorem not_mem_replaceChar {old new : Char} (hne : new ≠ old) (s : String) :
    old ∉ (replaceChar old new s).toList := by
  rw [toList_replaceChar]
  intro hmem
  obtain ⟨c, -, hc⟩ := List.mem_map.mp hmem
  split_ifs at hc with hold
  · exact hne hc
  · exact hold hc

/-- A character that is not there is not replaced. -/
theorem replaceChar_eq_self {old new : Char} {s : String} (h : old ∉ s.toList) :
    replaceChar old new s = s := by
  have hmap : (s.toList.map fun c => if c = old then new else c) = s.toList.map id := by
    apply List.map_congr_left
    intro c hc
    exact if_neg fun (heq : c = old) => h (heq ▸ hc)
  rw [replaceChar, hmap, List.map_id, String.ofList_toList]

theorem stripChar_eq_self {quote : Char} {s : String} (h : quote ∉ s.toList) :
    stripChar quote s = s := by
  have hkeep : ∀ l : List Char, quote ∉ l → l.dropWhile (· == quote) = l := by
    intro l hl
    cases l with
    | nil => rfl
    | cons c l =>
      have hne : ¬(c == quote) = true := by
        rw [beq_iff_eq]
        rintro rfl
        exact hl List.mem_cons_self
      exact List.dropWhile_cons_of_neg hne
  rw [stripChar, hkeep _ h, hkeep _ (fun hmem => h (List.mem_reverse.mp hmem)),
    List.reverse_reverse, String.ofList_toList]

/-! ### Printed numbers are read back -/

theorem toNat_of_isDigit {c : Char} (h : c.isDigit = true) : 48 ≤ c.toNat ∧ c.toNat < 58 := by
  simp only [Char.isDigit, ge_iff_le, Bool.and_eq_true, decide_eq_true_eq] at h
  exact ⟨UInt32.le_iff_toNat_le.mp h.1, Nat.lt_succ_of_le (UInt32.le_iff_toNat_le.mp h.2)⟩

theorem isSpace_of_isDigit {c : Char} (h : c.isDigit = true) : isSpace c = false := by
  obtain ⟨hlow, hhigh⟩ := toNat_of_isDigit h
  simp only [isSpace, Bool.or_eq_false_iff, Bool.and_eq_false_iff, decide_eq_false_iff_not,
    beq_eq_false_iff_ne]
  omega

theorem digitValue?_of_isDigit {c : Char} (h : c.isDigit = true) :
    digitValue? c = some (c.toNat - 48) := by
  have hrange : 48 ≤ c.toNat ∧ c.toNat < 48 + 10 := toNat_of_isDigit h
  simp only [digitValue?, decimalZeros, List.findSome?_cons, if_pos hrange]

theorem isDecimal_of_isDigit {c : Char} (h : c.isDigit = true) : isDecimal c = true := by
  rw [isDecimal, digitValue?_of_isDigit h]
  rfl

theorem isDecimal_iff {c : Char} :
    isDecimal c = true ↔ ∃ z ∈ decimalZeros, z ≤ c.toNat ∧ c.toNat < z + 10 := by
  rw [isDecimal, digitValue?, List.findSome?_isSome_iff]
  constructor
  · rintro ⟨z, hz, hsome⟩
    split_ifs at hsome with hrange
    · exact ⟨z, hz, hrange⟩
    · cases hsome
  · rintro ⟨z, hz, hrange⟩
    exact ⟨z, hz, by rw [if_pos hrange, Option.isSome_some]⟩

/-- No decimal digit is a blank. -/
theorem isSpace_of_isDecimal {c : Char} (h : isDecimal c = true) : isSpace c = false := by
  obtain ⟨z, hz, hlow, hhigh⟩ := isDecimal_iff.mp h
  have hapart : ∀ z ∈ decimalZeros, z = 0x30 ∨ 0xa1 ≤ z ∧ z + 10 ≤ 0x1680 ∨
      0x1681 ≤ z ∧ z + 10 ≤ 0x2000 ∨ 0x3001 ≤ z := by decide
  have hzero := hapart z hz
  simp only [isSpace, Bool.or_eq_false_iff, Bool.and_eq_false_iff, decide_eq_false_iff_not,
    beq_eq_false_iff_ne]
  omega

theorem intOfDigits_eq_ofDigitChars {cs : List Char} (h : ∀ c ∈ cs, c.isDigit = true) :
    intOfDigits cs = Nat.ofDigitChars 10 cs 0 := by
  rw [intOfDigits, Nat.ofDigitChars_eq_foldl]
  refine List.foldl_ext _ _ _ fun acc c hc => ?_
  rw [digitValue?_of_isDigit (h c hc)]
  rfl

/-- A number printed in decimal is read back. -/
theorem readNumber_toDigits (n : ℕ) : readNumber (Nat.toDigits 10 n) = some n := by
  have hdigit : ∀ c ∈ Nat.toDigits 10 n, c.isDigit = true := fun c hc =>
    Nat.isDigit_of_mem_toDigits (by decide) (by decide) hc
  have hall : (Nat.toDigits 10 n).takeWhile isDecimal = Nat.toDigits 10 n :=
    List.takeWhile_eq_self_iff.mpr fun c hc => isDecimal_of_isDigit (hdigit c hc)
  unfold readNumber
  rw [hall]
  split
  · next hnil => exact absurd hnil Nat.toDigits_ne_nil
  · next d ds hcons =>
    rw [← hcons, intOfDigits_eq_ofDigitChars hdigit, Nat.ofDigitChars_ten_toDigits]

/-- `int` reads a run of decimal digits. -/
theorem int?_of_decimals {cs : List Char} (hne : cs ≠ []) (h : ∀ c ∈ cs, isDecimal c = true) :
    int? (String.ofList cs) = some (intOfDigits cs : ℤ) := by
  have hnot : ∀ c : Char, isDecimal c = false → c ∉ cs := by
    intro c hc hmem
    rw [h c hmem] at hc
    cases hc
  have hspace : ∀ c ∈ (String.ofList cs).toList, isSpace c = false := by
    intro c hc
    rw [String.toList_ofList] at hc
    exact isSpace_of_isDecimal (h c hc)
  have hgroups : digitGroups? cs = some (intOfDigits cs) := by
    have hsplit : cs.splitOn '_' = [cs] :=
      List.splitOn_eq_singleton (hnot '_' (by decide))
    have hall : cs.all isDecimal = true := List.all_eq_true.mpr h
    simp [digitGroups?, hsplit, hall, hne]
  unfold int?
  rw [strip_of_forall_not hspace, String.toList_ofList]
  split
  · exact absurd List.mem_cons_self (hnot '-' (by decide))
  · exact absurd List.mem_cons_self (hnot '+' (by decide))
  · rw [hgroups]
    rfl

/-- Splitting loses only the separators. -/
theorem exists_mem_splitOn {text : List Char} {sep c : Char} (hc : c ∈ text) (hne : c ≠ sep) :
    ∃ part ∈ text.splitOn sep, c ∈ part := by
  induction text with
  | nil => cases hc
  | cons d text ih =>
    rw [List.splitOn_cons_eq_if_modifyHead]
    cases hsplit : text.splitOn sep with
    | nil => exact absurd hsplit (List.splitOn_ne_nil sep text)
    | cons part rest =>
      rw [hsplit] at ih
      split_ifs with hd
      · rcases List.mem_cons.mp hc with rfl | hc
        · exact absurd (beq_iff_eq.mp hd) hne
        · obtain ⟨part', hpart', hmem⟩ := ih hc
          exact ⟨part', List.mem_cons_of_mem _ hpart', hmem⟩
      · rw [List.modifyHead_cons]
        rcases List.mem_cons.mp hc with rfl | hc
        · exact ⟨_, List.mem_cons_self, List.mem_cons_self⟩
        · obtain ⟨part', hpart', hmem⟩ := ih hc
          rcases List.mem_cons.mp hpart' with rfl | hrest
          · exact ⟨_, List.mem_cons_self, List.mem_cons_of_mem _ hmem⟩
          · exact ⟨part', List.mem_cons_of_mem _ hrest, hmem⟩

/-- Groups of digits have only digits and underscores. -/
theorem digitGroups?_eq_none {text : List Char} {c : Char} (hc : c ∈ text)
    (hdecimal : isDecimal c = false) (hne : c ≠ '_') : digitGroups? text = none := by
  unfold digitGroups?
  dsimp only
  refine if_neg fun hall => ?_
  obtain ⟨part, hpart, hmem⟩ := exists_mem_splitOn hc hne
  have hdigits := List.all_eq_true.mp hall part hpart
  rw [Bool.and_eq_true, List.all_eq_true] at hdigits
  rw [hdigits.2 c hmem] at hdecimal
  cases hdecimal

/-- `int` refuses a text with a character that no number has. -/
theorem int?_eq_none {s : String} {c : Char} (hc : c ∈ s.toList) (hspace : isSpace c = false)
    (hdecimal : isDecimal c = false) (hsign : c ∉ ['_', '+', '-']) : int? s = none := by
  simp only [List.mem_cons, List.not_mem_nil, or_false, not_or] at hsign
  obtain ⟨hunderscore, hplus, hminus⟩ := hsign
  have hkept := (mem_strip_iff hspace).mpr hc
  unfold int?
  split
  · next digits heq =>
    rw [heq] at hkept
    rw [digitGroups?_eq_none (List.mem_of_ne_of_mem hminus hkept) hdecimal hunderscore]
    rfl
  · next digits heq =>
    rw [heq] at hkept
    rw [digitGroups?_eq_none (List.mem_of_ne_of_mem hplus hkept) hdecimal hunderscore]
    rfl
  · rw [digitGroups?_eq_none hkept hdecimal hunderscore]
    rfl

/-- `int` reads a run of Latin digits. -/
theorem int?_of_digits {cs : List Char} (hne : cs ≠ []) (h : ∀ c ∈ cs, c.isDigit = true) :
    int? (String.ofList cs) = some (intOfDigits cs : ℤ) :=
  int?_of_decimals hne fun c hc => isDecimal_of_isDigit (h c hc)

end Text
