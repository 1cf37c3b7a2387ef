import Mathlib.Data.List.Find
import Tkdchb.Competitions.Eligibility
import Tkdchb.Lib.TextSearch

/-!
# The spellings of a belt

The keys of `BELT_BASE` are searched in a text whose letters have been rewritten, and are not
rewritten themselves. Two of them have the Arabic letters that no rewritten text has. One is
another key in Arabic letters and is found as that key; the other also ends in an alef maksura,
which is not rewritten, and no key is found in its place.

## Main definitions

* `Lists`, `Spells` — a key in the text, in any case, and in either form of its letters
* `SameForms` — texts that differ in forms of letters and scripts of digits
* `SameBelt` — a belt of a group is that of the player
* `Readable` — the text has a key that can be found

## Main results

* `normBelt_eq_readBelt` — the digits need no translation
* `normBelt_congr` — forms and scripts do not matter
* `normBelt_ne_none_iff`, `normBelt_ne_none_of_lists` — which texts are recognised
* `belt_spellings_iff` — when a listed spelling is recognised and matched
-/

namespace Tkdchb

/-! ### What the search sees -/

section Letters

variable {c : Char}

theorem persianForm_of_not_mem (h : c ∉ ['ي', 'ك']) : persianForm c = c := by
  simp only [List.mem_cons, List.not_mem_nil, or_false, not_or] at h
  rw [persianForm, if_neg h.1]
  exact if_neg h.2

/-- An Arabic form is replaced, and every other character is kept. -/
theorem persianForm_cases (c : Char) :
    c = 'ي' ∨ c = 'ك' ∨ c ∉ ['ي', 'ك'] ∧ persianForm c = c := by
  by_cases hform : c ∈ ['ي', 'ك']
  · simp only [List.mem_cons, List.not_mem_nil, or_false] at hform
    exact hform.imp_right .inl
  · exact .inr (.inr ⟨hform, persianForm_of_not_mem hform⟩)

/-- No Arabic form is left. -/
theorem persianForm_not_mem (c : Char) : persianForm c ∉ ['ي', 'ك'] := by
  rcases persianForm_cases c with rfl | rfl | ⟨hform, heq⟩
  · decide
  · decide
  · rwa [heq]

theorem isSpace_persianForm (c : Char) : Text.isSpace (persianForm c) = Text.isSpace c := by
  rcases persianForm_cases c with rfl | rfl | ⟨-, heq⟩
  · decide
  · decide
  · rw [heq]

theorem isSpace_foldLetter (c : Char) : Text.isSpace (foldLetter c) = Text.isSpace c := by
  rw [foldLetter, isSpace_persianForm, Text.isSpace_lowerLatin]

/-- Digits have neither case nor forms. -/
theorem foldLetter_of_isDecimal (h : Text.isDecimal c = true) : foldLetter c = c := by
  obtain ⟨z, hz, hlow, hhigh⟩ := Text.isDecimal_iff.mp h
  have hapart : ∀ z ∈ Text.decimalZeros,
      z + 10 ≤ 65 ∨ 0x64b ≤ z ∧ z + 10 ≤ 0x212a ∨ 0x212b ≤ z := by decide
  have hzero := hapart z hz
  have hne : ∀ letter : Char, letter.toNat ∈ [0x643, 0x64a, 0x212a] → c ≠ letter := by
    intro letter hletter heq
    rw [← heq] at hletter
    simp only [List.mem_cons, List.not_mem_nil, or_false] at hletter
    omega
  have hform : c ∉ ['ي', 'ك'] := by
    simp only [List.mem_cons, List.not_mem_nil, or_false, not_or]
    exact ⟨hne _ (by decide), hne _ (by decide)⟩
  rw [foldLetter, Text.lowerLatin_eq_self (hne _ (by decide)) (by omega),
    persianForm_of_not_mem hform]

/-- A digit that `_to_en_digits` translates is one of those that `int` reads anyway. -/
theorem latinDigit_foldLetter_toLatin (c : Char) :
    Text.latinDigit (foldLetter (digitMap.toLatin c)) = Text.latinDigit (foldLetter c) := by
  by_cases hscript : ∃ z ∈ digitMap.zeros, Digits.InScript z c
  · obtain ⟨z, hz, hlow, hhigh⟩ := hscript
    have hzero : ∀ z ∈ digitMap.zeros, z ∈ Text.decimalZeros := by decide
    have hvalue := Text.digitValue?_of_zero (hzero z hz) hlow hhigh
    have hlatin : Text.digitValue? (digitMap.toLatin c) = some (c.toNat - z) := by
      rw [Digits.Scripts.toLatin_of_inScript hz ⟨hlow, hhigh⟩]
      exact Text.digitValue?_digitChar (Text.digitValue?_lt hvalue)
    rw [foldLetter_of_isDecimal (Option.isSome_of_eq_some hvalue),
      foldLetter_of_isDecimal (Option.isSome_of_eq_some hlatin), Text.latinDigit_of_value hvalue,
      Text.latinDigit_of_value hlatin]
  · rw [Digits.Scripts.toLatin_of_forall_not fun z hz hc => hscript ⟨z, hz, hc⟩]

end Letters

/-! ### What is read -/

section Read

variable {t : List Char}

/-- The keys have letters only, and so have the words of `_DAN_RE`. -/
theorem letters_of_mem : ∀ word ∈ "دان" :: beltBase.map Prod.fst, ∀ c ∈ word.toList,
    Text.isDecimal c = false ∧ Text.isSpace c = false := by
  have hall : ("دان" :: beltBase.map Prod.fst).all (fun word => word.toList.all fun c =>
      !Text.isDecimal c && !Text.isSpace c) = true := by decide +kernel
  intro word hword c hc
  simpa using List.all_eq_true.mp (List.all_eq_true.mp hall word hword) c hc

/-- The search for a word does not see the digits. -/
theorem spares_of_mem {word : String} (h : word ∈ "دان" :: beltBase.map Prod.fst) :
    Text.Spares Text.latinDigit word.toList :=
  Text.spares_latinDigit fun c hc => (letters_of_mem word h c hc).1

theorem notBlank_key {entry : String × BeltCode} (h : entry ∈ beltBase) :
    ∀ c ∈ entry.1.toList, Text.isSpace c = false :=
  fun c hc => (letters_of_mem entry.1 (List.mem_cons_of_mem _ (List.mem_map_of_mem h)) c hc).2

/-- The number after the words is the same in any script. -/
theorem danAt_map_latinDigit (t : List Char) : danAt (t.map Text.latinDigit) = danAt t := by
  have hpersian : Text.Spares Text.latinDigit "مشکی".toList := spares_of_mem (by decide)
  have harabic : Text.Spares Text.latinDigit "مشكى".toList := spares_of_mem (by decide)
  have hdan : Text.Spares Text.latinDigit "دان".toList := spares_of_mem List.mem_cons_self
  have hspace : Text.isSpace ∘ Text.latinDigit = Text.isSpace := funext Text.isSpace_latinDigit
  have hdecimal : Text.isDecimal ∘ Text.latinDigit = Text.isDecimal :=
    funext Text.isDecimal_latinDigit
  have hdigits : ∀ rest : List Char,
      (((rest.map Text.latinDigit).dropWhile Text.isSpace).takeWhile Text.isDecimal).take 2 =
        (((rest.dropWhile Text.isSpace).takeWhile Text.isDecimal).take 2).map Text.latinDigit := by
    intro rest
    rw [List.dropWhile_map, hspace, List.takeWhile_map, hdecimal, List.map_take]
  unfold danAt
  -- the belt, the word for dan and the number, one after another
  rw [hpersian.dropPrefix?_map, harabic.dropPrefix?_map, ← Option.map_or]
  cases (t.dropPrefix? "مشکی".toList).or (t.dropPrefix? "مشكى".toList) with
  | none => rfl
  | some rest =>
    rw [Option.map_some, Option.bind_eq_bind, Option.bind_some, Option.bind_some, List.dropWhile_map, hspace, hdan.dropPrefix?_map]
    cases (rest.dropWhile Text.isSpace).dropPrefix? "دان".toList with
    | none => rfl
    | some rest =>
      rw [Option.map_some, Option.bind_some, Option.bind_some, hdigits]
      cases ((rest.dropWhile Text.isSpace).takeWhile Text.isDecimal).take 2 with
      | nil => rfl
      | cons d ds =>
        rw [List.map_cons]
        dsimp only
        rw [← List.map_cons, Text.intOfDigits_map_latinDigit]

theorem danSearch_map_latinDigit (t : List Char) :
    danSearch (t.map Text.latinDigit) = danSearch t := by
  induction t with
  | nil => rfl
  | cons c t ih =>
    rw [List.map_cons, danSearch, danSearch, ih, ← List.map_cons, danAt_map_latinDigit]

/-- **Digits may be of any script.** -/
theorem readBelt_map_latinDigit (t : List Char) : readBelt (t.map Text.latinDigit) = readBelt t := by
  have hfind : beltBase.find? (fun entry =>
      Text.contains entry.1.toList (t.map Text.latinDigit)) =
        beltBase.find? fun entry => Text.contains entry.1.toList t := by
    apply List.find?_congr
    intro entry hentry
    exact (spares_of_mem (List.mem_cons_of_mem _ (List.mem_map_of_mem hentry))).contains_map
  rw [readBelt, readBelt, danSearch_map_latinDigit, hfind]

theorem readBelt_map_comp (f : Char → Char) (l : List Char) :
    readBelt (l.map fun c => Text.latinDigit (f c)) = readBelt (l.map f) := by
  rw [← readBelt_map_latinDigit (l.map f), List.map_map, Function.comp_def]

/-- A number of dan comes after one of two keys. -/
theorem infix_of_danSearch (h : danSearch t ≠ none) :
    "مشکی".toList <:+: t ∨ "مشكى".toList <:+: t := by
  induction t with
  | nil => exact absurd rfl h
  | cons c t ih =>
    by_cases hhere : danAt (c :: t) = none
    · rw [danSearch, hhere, Option.none_or] at h
      exact (ih h).imp List.infix_cons List.infix_cons
    · have hdrop : ∀ word : List Char, (c :: t).dropPrefix? word ≠ none → word <:+: c :: t := by
        intro word hword
        obtain ⟨rest, hrest⟩ := Option.ne_none_iff_exists'.mp hword
        obtain ⟨front, hsplit, hfront⟩ := List.dropPrefix?_eq_some_iff.mp hrest
        exact ⟨[], rest, by rw [List.nil_append, ← beq_iff_eq.mp hfront, hsplit]⟩
      by_contra hnot
      rw [not_or] at hnot
      refine hhere ?_
      unfold danAt
      rw [not_not.mp (mt (hdrop _) hnot.1), not_not.mp (mt (hdrop _) hnot.2)]
      rfl

/-- The belt of a text is that of a key in it. -/
theorem exists_of_readBelt {v : BeltCode} (h : readBelt t = some v) :
    ∃ entry ∈ beltBase, entry.2 = v ∧ entry.1.toList <:+: t := by
  rw [readBelt] at h
  split_ifs at h with hdan
  · have hblack : BeltCode.black = v := Option.some.inj h
    have hfound : danSearch t ≠ none := by
      intro hnone
      rw [hnone] at hdan
      cases hdan
    rcases infix_of_danSearch hfound with hkey | hkey
    · exact ⟨("مشکی", .black), by decide, hblack, hkey⟩
    · exact ⟨("مشكى", .black), by decide, hblack, hkey⟩
  · obtain ⟨entry, hentry, hvalue⟩ := Option.map_eq_some_iff.mp h
    have hkey := List.find?_some hentry
    exact ⟨entry, List.mem_of_find?_eq_some hentry, hvalue, Text.contains_iff.mp hkey⟩

/-- **A text has a belt** exactly if a key is in it. -/
theorem readBelt_ne_none_iff : readBelt t ≠ none ↔ ∃ entry ∈ beltBase, entry.1.toList <:+: t := by
  constructor
  · intro h
    obtain ⟨v, hv⟩ := Option.ne_none_iff_exists'.mp h
    obtain ⟨entry, hentry, -, hkey⟩ := exists_of_readBelt hv
    exact ⟨entry, hentry, hkey⟩
  · rintro ⟨entry, hentry, hkey⟩
    rw [readBelt]
    split_ifs
    · exact Option.some_ne_none _
    · rw [Option.ne_none_iff_isSome, Option.isSome_map, List.find?_isSome]
      exact ⟨entry, hentry, Text.contains_iff.mpr hkey⟩

/-- A text in which all keys are of one belt has that belt. -/
theorem readBelt_eq_some {v : BeltCode} (h : ∃ entry ∈ beltBase, entry.1.toList <:+: t)
    (hone : ∀ entry ∈ beltBase, entry.1.toList <:+: t → entry.2 = v) : readBelt t = some v := by
  obtain ⟨w, hw⟩ := Option.ne_none_iff_exists'.mp (readBelt_ne_none_iff.mpr h)
  obtain ⟨entry, hentry, hvalue, hkey⟩ := exists_of_readBelt hw
  rw [hw, ← hvalue, hone entry hentry hkey]

end Read

/-- **The digits need no translation**: case and forms are all that the search depends on. -/
theorem normBelt_eq_readBelt (s : String) :
    normBelt s = readBelt ((Text.strip s).toList.map foldLetter) := by
  calc normBelt s
      = readBelt ((Text.strip s).toList.map fun c => foldLetter (digitMap.toLatin c)) :=
        normBelt_eq s
    _ = readBelt ((Text.strip s).toList.map fun c =>
          Text.latinDigit (foldLetter (digitMap.toLatin c))) := (readBelt_map_comp _ _).symm
    _ = readBelt ((Text.strip s).toList.map fun c => Text.latinDigit (foldLetter c)) := by
        simp only [latinDigit_foldLetter_toLatin]
    _ = readBelt ((Text.strip s).toList.map foldLetter) := readBelt_map_comp _ _

/-! ### Forms and scripts -/

/-- Two characters that differ at most in the form of the letter or the script of the digit. -/
def SameLetter (c c' : Char) : Prop :=
  c = c' ∨ (c ∈ ['ي', 'ی'] ∧ c' ∈ ['ي', 'ی']) ∨ (c ∈ ['ك', 'ک'] ∧ c' ∈ ['ك', 'ک']) ∨
    (Text.isDecimal c = true ∧ Text.digitValue? c = Text.digitValue? c')

instance (c c' : Char) : Decidable (SameLetter c c') := inferInstanceAs (Decidable (_ ∨ _))

/-- Two texts that differ only in Arabic and Persian forms of yeh and kaf and in the scripts of
their digits. -/
def SameForms (s s' : String) : Prop := List.Forall₂ SameLetter s.toList s'.toList

instance (s s' : String) : Decidable (SameForms s s') :=
  inferInstanceAs (Decidable (List.Forall₂ _ _ _))

theorem SameLetter.latinDigit_foldLetter_eq {c c' : Char} (h : SameLetter c c') :
    Text.latinDigit (foldLetter c) = Text.latinDigit (foldLetter c') := by
  have hyeh : ∀ c ∈ ['ي', 'ی'], foldLetter c = 'ی' := by
    simp only [List.forall_mem_cons, List.not_mem_nil, false_imp_iff, implies_true, and_true]
    decide
  have hkaf : ∀ c ∈ ['ك', 'ک'], foldLetter c = 'ک' := by
    simp only [List.forall_mem_cons, List.not_mem_nil, false_imp_iff, implies_true, and_true]
    decide
  rcases h with rfl | ⟨hc, hc'⟩ | ⟨hc, hc'⟩ | ⟨hc, hvalue⟩
  · rfl
  · rw [hyeh c hc, hyeh c' hc']
  · rw [hkaf c hc, hkaf c' hc']
  · obtain ⟨n, hn⟩ := Option.isSome_iff_exists.mp hc
    have hn' : Text.digitValue? c' = some n := hvalue.symm.trans hn
    rw [foldLetter_of_isDecimal hc, foldLetter_of_isDecimal (Option.isSome_of_eq_some hn'),
      Text.latinDigit_of_value hn, Text.latinDigit_of_value hn']

theorem SameForms.map_eq {s s' : String} (h : SameForms s s') :
    s.toList.map (fun c => Text.latinDigit (foldLetter c)) =
      s'.toList.map fun c => Text.latinDigit (foldLetter c) := by
  rw [← List.forall₂_eq_eq_eq, List.forall₂_map_left_iff, List.forall₂_map_right_iff]
  exact h.imp fun c c' hsame => hsame.latinDigit_foldLetter_eq

/-- **Forms and scripts do not matter.** -/
theorem normBelt_congr {s s' : String} (h : SameForms s s') : normBelt s = normBelt s' := by
  have hspace : ∀ c, Text.isSpace (Text.latinDigit (foldLetter c)) = Text.isSpace c := fun c => by
    rw [Text.isSpace_latinDigit, isSpace_foldLetter]
  have hread : ∀ s, normBelt s = readBelt (Text.strip (String.ofList
      (s.toList.map fun c => Text.latinDigit (foldLetter c)))).toList := by
    intro s
    rw [normBelt_eq_readBelt, Text.strip_map hspace, String.toList_ofList, readBelt_map_comp]
  rw [hread, hread, h.map_eq]

/-! ### Listed spellings -/

/-- The text contains the key, in any letter case. -/
def Lists (key s : String) : Prop := key.toList <:+: s.toList.map Text.lowerLatin

/-- The text contains the key, in any letter case and with either form of yeh and kaf. -/
def Spells (key s : String) : Prop := key.toList.map persianForm <:+: s.toList.map foldLetter

instance (key s : String) : Decidable (Lists key s) := inferInstanceAs (Decidable (_ <:+: _))

instance (key s : String) : Decidable (Spells key s) := inferInstanceAs (Decidable (_ <:+: _))

/-- The text contains a key of `BELT_BASE`. -/
def Listed (s : String) : Prop := ∃ entry ∈ beltBase, Lists entry.1 s

/-- The text contains a key, in either form, other than the one with Arabic kaf and alef
maksura. -/
def Readable (s : String) : Prop := ∃ entry ∈ beltBase, entry.1 ≠ "مشكى" ∧ Spells entry.1 s

/-- The text contains a key of the belt and, in either form, none of another belt. -/
def Names (s : String) (v : BeltCode) : Prop :=
  (∃ entry ∈ beltBase, entry.2 = v ∧ Lists entry.1 s) ∧
    ∀ entry ∈ beltBase, Spells entry.1 s → entry.2 = v

/-- A belt of a group is that of the player: it has the same text but for forms and scripts, or
both are listed spellings of one belt. -/
def SameBelt (s name : String) : Prop := SameForms s name ∨ ∃ v, Names s v ∧ Names name v

instance (s : String) : Decidable (Listed s) := inferInstanceAs (Decidable (∃ entry ∈ _, _))

instance (s : String) : Decidable (Readable s) := inferInstanceAs (Decidable (∃ entry ∈ _, _))

instance (s : String) (v : BeltCode) : Decidable (Names s v) := inferInstanceAs (Decidable (_ ∧ _))

section Listed

variable {s : String} {key : String}

theorem Lists.spells (h : Lists key s) : Spells key s := by
  have hmap := h.map persianForm
  rwa [List.map_map] at hmap

/-- What the search sees of a text is all of it but the blanks around it. -/
theorem infix_stripped_iff {word : List Char} (hword : ∀ c ∈ word, Text.isSpace c = false) :
    word <:+: (Text.strip s).toList.map foldLetter ↔ word <:+: s.toList.map foldLetter := by
  have hstrip := Text.strip_map isSpace_foldLetter s
  rw [← String.toList_ofList (l := (Text.strip s).toList.map foldLetter), ← hstrip,
    Text.infix_strip_iff hword, String.toList_ofList]

/-- A key that is found is spelled in the text, and has no Arabic forms. -/
theorem spells_of_found (hkey : ∀ c ∈ key.toList, Text.isSpace c = false)
    (h : key.toList <:+: (Text.strip s).toList.map foldLetter) :
    Spells key s ∧ ∀ c ∈ key.toList, c ∉ ['ي', 'ك'] := by
  have hform : ∀ c ∈ key.toList, c ∉ ['ي', 'ك'] := by
    intro c hc
    obtain ⟨d, -, rfl⟩ := List.mem_map.mp (h.subset hc)
    exact persianForm_not_mem _
  refine ⟨?_, hform⟩
  rw [Spells, List.map_congr_left fun c hc => persianForm_of_not_mem (hform c hc), List.map_id',
    ← infix_stripped_iff hkey]
  exact h

/-- Every key but one is a key in Persian forms too, of the same belt. -/
theorem exists_persian_key : ∀ entry ∈ beltBase, entry.1 ≠ "مشكى" →
    ∃ found ∈ beltBase, found.2 = entry.2 ∧ found.1.toList = entry.1.toList.map persianForm := by
  have hall : beltBase.all (fun entry => entry.1 = "مشكى" || beltBase.any fun found =>
      found.2 = entry.2 && found.1.toList = entry.1.toList.map persianForm) = true := by
    decide +kernel
  intro entry hentry hne
  simpa [hne] using List.all_eq_true.mp hall entry hentry

/-- **A text is recognised** exactly if it has a key that can be found. -/
theorem normBelt_ne_none_iff : normBelt s ≠ none ↔ Readable s := by
  rw [normBelt_eq_readBelt, readBelt_ne_none_iff]
  constructor
  · rintro ⟨entry, hentry, hkey⟩
    obtain ⟨hspells, hform⟩ := spells_of_found (notBlank_key hentry) hkey
    refine ⟨entry, hentry, fun heq => ?_, hspells⟩
    -- the key has an Arabic kaf, which no rewritten text has
    rw [heq] at hform
    exact hform 'ك' (by decide) (by decide)
  · rintro ⟨entry, hentry, hne, hspells⟩
    obtain ⟨found, hfound, -, hkey⟩ := exists_persian_key entry hentry hne
    refine ⟨found, hfound, ?_⟩
    rw [infix_stripped_iff (notBlank_key hfound), hkey]
    exact hspells

/-- Every key but one is recognised, in any text and letter case. -/
theorem normBelt_ne_none_of_lists {entry : String × BeltCode} (hentry : entry ∈ beltBase)
    (hne : entry.1 ≠ "مشكى") (h : Lists entry.1 s) : normBelt s ≠ none :=
  normBelt_ne_none_iff.mpr ⟨entry, hentry, hne, h.spells⟩

/-- A text that names one belt has its code, once a key can be found. -/
theorem Names.normBelt_eq {v : BeltCode} (h : Names s v) (hread : Readable s) :
    normBelt s = some v := by
  have hfound := normBelt_ne_none_iff.mpr hread
  rw [normBelt_eq_readBelt] at hfound ⊢
  refine readBelt_eq_some (readBelt_ne_none_iff.mp hfound) fun entry hentry hkey => ?_
  exact h.2 entry hentry (spells_of_found (notBlank_key hentry) hkey).1

end Listed

/-! ### Recognised and matched -/

/-- A listed spelling has a code. -/
def Recognised (s : String) : Prop := Listed s → normBelt s ≠ none

/-- A player whose belt is a listed spelling is matched wherever a group contains that belt. -/
def Matched (s name : String) : Prop :=
  Listed s → SameBelt s name → ∀ (p : PlayerProfile) (rules : BeltRules), p.beltGrade = s →
    (∃ g ∈ rules.groups, name ∈ g.belts) →
      rules.findBeltGroupObj (playerBeltCodeFromProfile p) ≠ none

/-- One belt has one code, once a key of each text can be found. -/
theorem SameBelt.normBelt_eq {s name : String} (h : SameBelt s name) (hs : Readable s)
    (hname : Readable name) : normBelt s = normBelt name := by
  rcases h with hforms | ⟨v, hnames, hnames'⟩
  · exact normBelt_congr hforms
  · rw [hnames.normBelt_eq hs, hnames'.normBelt_eq hname]

theorem matched_iff (s name : String) :
    Matched s name ↔ (Listed s → SameBelt s name → Readable s ∧ Readable name) := by
  constructor
  · intro h hlisted hsame
    -- a competition with one group, which has the belt under this name
    have hfound := h hlisted hsame { (default : PlayerProfile) with beltGrade := s }
      ⟨[⟨0, [name]⟩], ""⟩ rfl ⟨⟨0, [name]⟩, List.mem_singleton_self _, List.mem_singleton_self _⟩
    obtain ⟨c, hcode, g, hg, name', hname', hcode'⟩ :=
      BeltRules.findBeltGroupObj_ne_none_iff.mp hfound
    obtain rfl := List.mem_singleton.mp hg
    obtain rfl := List.mem_singleton.mp hname'
    have hplayer : normBelt s = some c := hcode
    constructor
    · rw [← normBelt_ne_none_iff, hplayer]
      exact Option.some_ne_none c
    · rw [← normBelt_ne_none_iff, hcode']
      exact Option.some_ne_none c
  · rintro h hlisted hsame p rules rfl ⟨g, hg, hname⟩
    obtain ⟨hread, hread'⟩ := h hlisted hsame
    obtain ⟨c, hc⟩ := Option.ne_none_iff_exists'.mp (normBelt_ne_none_iff.mpr hread)
    refine BeltRules.findBeltGroupObj_ne_none_iff.mpr ⟨c, hc, g, hg, name, hname, ?_⟩
    rw [← hsame.normBelt_eq hread hread', hc]

/-- **When a listed spelling is recognised and matched**: a key can be found in the text, and in
the name of the same belt in the group. Forms and scripts never matter. -/
theorem belt_spellings_iff (s name : String) :
    (∀ s', SameForms s s' → normBelt s = normBelt s') ∧
      (Recognised s ∧ Matched s name ↔
        (Listed s → Readable s ∧ (SameBelt s name → Readable name))) := by
  refine ⟨fun s' h => normBelt_congr h, ?_⟩
  rw [matched_iff, Recognised, normBelt_ne_none_iff]
  constructor
  · rintro ⟨hrecognised, hmatched⟩ hlisted
    exact ⟨hrecognised hlisted, fun hsame => (hmatched hlisted hsame).2⟩
  · intro h
    exact ⟨fun hlisted => (h hlisted).1,
      fun hlisted hsame => ⟨(h hlisted).1, (h hlisted).2 hsame⟩⟩

theorem belt_spellings_iff_fifth_dan :
    normBelt "مشكي دان ۵" = normBelt "مشکی دان 5" ∧ Matched "Black Belt" "مشکی" :=
  ⟨(belt_spellings_iff "مشكي دان ۵" "").1 _ (by decide +kernel),
    ((belt_spellings_iff "Black Belt" "مشکی").2.mpr fun _ =>
      ⟨by decide +kernel, fun _ => by decide +kernel⟩).2⟩

/-- The key with Arabic kaf and alef maksura, alone and with a number of dan, and the Persian
key. -/
theorem listed_key_not_recognised :
    ("مشكى", BeltCode.black) ∈ beltBase ∧ ¬ Recognised "مشكى" ∧ ¬ Recognised "مشكى دان ۱" ∧
      ¬ Matched "مشکی" "مشكى" := by
  have hlisted : Listed "مشكى" ∧ Listed "مشكى دان ۱" ∧ Listed "مشکی" := by decide +kernel
  have hnames : Names "مشکی" .black ∧ Names "مشكى" .black := by decide +kernel
  refine ⟨by decide, fun h => h hlisted.1 (by decide +kernel),
    fun h => h hlisted.2.1 (by decide +kernel), fun h => ?_⟩
  obtain ⟨-, hread⟩ := (matched_iff _ _).mp h hlisted.2.2 (.inr ⟨.black, hnames⟩)
  exact absurd hread (by decide +kernel)

end Tkdchb
