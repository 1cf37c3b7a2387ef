import Mathlib.Tactic.Common
import Tkdchb.Lib.Text

/-!
# Digits of several scripts

A program that takes numbers from keyboards of several scripts translates them to Latin
digits before it compares them. Two translators that know different scripts agree on a text
exactly if the text has no digit of a script that only one of them knows.

## Main definitions

* `Digits.Scripts` — scripts by their zeros, none of them Latin and no two overlapping
* `Digits.Scripts.toLatin`, `Digits.Scripts.translate` — of a character and of a text

## Main results

* `Digits.Scripts.translate_translate` — the larger translator undoes the smaller one
* `Digits.Scripts.translate_eq_translate_iff` — when two translators agree on a text
* `Digits.Scripts.translate_eq_self_iff` — when there is nothing to translate
* `Digits.Scripts.strip_translate` — blanks may be stripped before or after
-/

namespace Digits

/-- The character is a decimal digit of the script with this zero. -/
def InScript (z : ℕ) (c : Char) : Prop := z ≤ c.toNat ∧ c.toNat < z + 10

instance (z : ℕ) (c : Char) : Decidable (InScript z c) :=
  inferInstanceAs (Decidable (_ ∧ _))

/-- Scripts, by the code points of their zeros. -/
structure Scripts where
  zeros : List ℕ
  /-- Latin digits are not among them. -/
  notLatin : ∀ z ∈ zeros, 58 ≤ z
  /-- No character is a digit of two of them. -/
  apart : ∀ z ∈ zeros, ∀ z' ∈ zeros, z = z' ∨ z + 10 ≤ z' ∨ z' + 10 ≤ z

namespace Scripts

variable {S T : Scripts} {c : Char} {s : String} {z : ℕ}

/-- `c.translate(str.maketrans(digits, "0123456789…"))` -/
def toLatin (S : Scripts) (c : Char) : Char :=
  match S.zeros.find? fun z => InScript z c with
  | some z => Nat.digitChar (c.toNat - z)
  | none => c

/-- `s.translate(str.maketrans(digits, "0123456789…"))` -/
def translate (S : Scripts) (s : String) : String := String.ofList (s.toList.map S.toLatin)

@[simp] theorem toList_translate : (S.translate s).toList = s.toList.map S.toLatin :=
  String.toList_ofList

theorem toLatin_of_inScript (hz : z ∈ S.zeros) (hc : InScript z c) :
    S.toLatin c = Nat.digitChar (c.toNat - z) := by
  unfold toLatin
  cases hfound : S.zeros.find? fun z => InScript z c with
  | none => exact absurd hc (by simpa using List.find?_eq_none.mp hfound z hz)
  | some z' =>
    have hz' : InScript z' c := by simpa using List.find?_some hfound
    have heq : z = z' := by
      rcases S.apart z hz z' (List.mem_of_find?_eq_some hfound) with heq | hlt | hlt
      · exact heq
      · exact absurd (Nat.lt_of_lt_of_le hc.2 (hlt.trans hz'.1)) (Nat.lt_irrefl _)
      · exact absurd (Nat.lt_of_lt_of_le hz'.2 (hlt.trans hc.1)) (Nat.lt_irrefl _)
    rw [heq]

theorem toLatin_of_forall_not (h : ∀ z ∈ S.zeros, ¬ InScript z c) : S.toLatin c = c := by
  have hnone : S.zeros.find? (fun z => InScript z c) = none :=
    List.find?_eq_none.mpr fun z hz => by simpa using h z hz
  rw [toLatin, hnone]

/-- A digit of a script becomes a Latin digit, below every script. -/
theorem toNat_toLatin_lt (hz : z ∈ S.zeros) (hc : InScript z c) : (S.toLatin c).toNat < 58 := by
  have hlt : c.toNat - z < 10 := Nat.sub_lt_left_of_lt_add hc.1 hc.2
  rw [toLatin_of_inScript hz hc, Nat.toNat_digitChar_of_lt_ten hlt]
  omega

theorem toLatin_eq_self_iff : S.toLatin c = c ↔ ∀ z ∈ S.zeros, ¬ InScript z c := by
  refine ⟨fun h z hz hc => ?_, toLatin_of_forall_not⟩
  have hlow := toNat_toLatin_lt hz hc
  have hhigh := S.notLatin z hz
  rw [h] at hlow
  have := hc.1
  omega

/-- Latin digits, and every character below them, stay. -/
theorem toLatin_of_lt (h : c.toNat < 58) : S.toLatin c = c :=
  toLatin_of_forall_not fun z hz hc => by
    have := S.notLatin z hz
    have := hc.1
    omega

/-- The translator that knows more scripts gives the same on what was translated before. -/
theorem toLatin_toLatin (hsub : S.zeros ⊆ T.zeros) (c : Char) :
    T.toLatin (S.toLatin c) = T.toLatin c := by
  by_cases h : ∃ z ∈ S.zeros, InScript z c
  · obtain ⟨z, hz, hc⟩ := h
    rw [toLatin_of_lt (toNat_toLatin_lt hz hc), toLatin_of_inScript hz hc,
      toLatin_of_inScript (hsub hz) hc]
  · rw [toLatin_of_forall_not fun z hz hc => h ⟨z, hz, hc⟩]

theorem translate_translate (hsub : S.zeros ⊆ T.zeros) (s : String) :
    T.translate (S.translate s) = T.translate s := by
  apply String.toList_injective
  rw [toList_translate, toList_translate, toList_translate, List.map_map]
  exact List.map_congr_left fun c _ => toLatin_toLatin hsub c

/-- **There is nothing to translate** exactly if no character is a digit of a script. -/
theorem translate_eq_self_iff :
    S.translate s = s ↔ ∀ c ∈ s.toList, ∀ z ∈ S.zeros, ¬ InScript z c := by
  rw [← String.toList_inj, toList_translate]
  calc s.toList.map S.toLatin = s.toList
      ↔ s.toList.map S.toLatin = s.toList.map id := by rw [List.map_id]
    _ ↔ ∀ c ∈ s.toList, S.toLatin c = c := List.map_inj_left
    _ ↔ ∀ c ∈ s.toList, ∀ z ∈ S.zeros, ¬ InScript z c :=
      forall₂_congr fun c _ => toLatin_eq_self_iff

/-- **Two translators agree** exactly if no character is a digit of a script that only the
larger one knows. -/
theorem translate_eq_translate_iff (hsub : S.zeros ⊆ T.zeros) :
    S.translate s = T.translate s ↔
      ∀ c ∈ s.toList, ∀ z ∈ T.zeros, InScript z c → z ∈ S.zeros := by
  rw [← translate_translate hsub s, eq_comm, translate_eq_self_iff, toList_translate]
  constructor
  · intro h c hc z hz hin
    by_contra hnot
    -- the smaller translator leaves this digit
    have hsame : S.toLatin c = c := toLatin_of_forall_not fun z' hz' hin' => by
      rcases T.apart z hz z' (hsub hz') with rfl | hlt | hlt
      · exact hnot hz'
      · exact absurd (Nat.lt_of_lt_of_le hin.2 (hlt.trans hin'.1)) (Nat.lt_irrefl _)
      · exact absurd (Nat.lt_of_lt_of_le hin'.2 (hlt.trans hin.1)) (Nat.lt_irrefl _)
    exact h c (List.mem_map.mpr ⟨c, hc, hsame⟩) z hz hin
  · intro h d hd z hz hin
    obtain ⟨c, hc, rfl⟩ := List.mem_map.mp hd
    by_cases hknown : ∃ z' ∈ S.zeros, InScript z' c
    · obtain ⟨z', hz', hin'⟩ := hknown
      have hlow := toNat_toLatin_lt hz' hin'
      have hhigh := T.notLatin z hz
      have := hin.1
      omega
    · rw [toLatin_of_forall_not fun z' hz' hin' => hknown ⟨z', hz', hin'⟩] at hin
      exact hknown ⟨z, h c hc z hz hin, hin⟩

/-- No digit of these scripts is a blank. -/
def NotBlank (S : Scripts) : Prop :=
  ∀ z ∈ S.zeros, ∀ i < 10, Text.isSpace (Char.ofNat (z + i)) = false

instance (S : Scripts) : Decidable S.NotBlank :=
  inferInstanceAs (Decidable (∀ z ∈ S.zeros, ∀ i < 10, _))

theorem isSpace_toLatin (hblank : S.NotBlank) (c : Char) :
    Text.isSpace (S.toLatin c) = Text.isSpace c := by
  by_cases h : ∃ z ∈ S.zeros, InScript z c
  · obtain ⟨z, hz, hc⟩ := h
    have hlt : c.toNat - z < 10 := Nat.sub_lt_left_of_lt_add hc.1 hc.2
    have hlatin : ∀ n < 10, Text.isSpace (Nat.digitChar n) = false := by decide
    have hdigit := hblank z hz (c.toNat - z) hlt
    rw [Nat.add_sub_cancel' hc.1, Char.ofNat_toNat] at hdigit
    rw [toLatin_of_inScript hz hc, hlatin _ hlt, hdigit]
  · rw [toLatin_of_forall_not fun z hz hc => h ⟨z, hz, hc⟩]

/-- **Blanks may be stripped before or after.** -/
theorem strip_translate (hblank : S.NotBlank) (s : String) :
    Text.strip (S.translate s) = S.translate (Text.strip s) := by
  unfold translate
  exact Text.strip_map (isSpace_toLatin hblank) s

end Scripts

end Digits
