import Tkdchb.Lib.Digits

/-!
# Belts

A belt is a free text; it is normalised to one of six codes before it is compared. A
competition admits the belts of its belt groups or, if it has none, those of its level.
The page of a coach and the page of a competition read that in two ways, and the handlers
look only for a belt group.

## Main definitions

* `normBelt` — `_norm_belt`
* `foldLetter`, `readBelt` — its two halves, the rewriting and the search
* `BeltRules` — what a competition says about belts
* `BeltRules.listed` — the test of the coach's list
* `BeltRules.allows` — the test of `get_user_eligible_self` and of the poomsae page
* `BeltRules.findBeltGroupObj` — the search of the handlers

## Main results

* `normBelt_eq` — characters are rewritten one by one
* `exists_levelBeltName_iff` — the names of a level have its codes, and white
* `BeltRules.listed_iff`, `BeltRules.allows_iff` — what the tests say of a belt with which
  the handlers are content
-/

namespace Tkdchb

/-! ### Codes -/

/-- The values of `BELT_BASE`, in alphabetical order. -/
inductive BeltCode where
  | black
  | blue
  | green
  | red
  | white
  | yellow
  deriving DecidableEq, Repr

theorem digitMap_notLatin : ∀ z ∈ [0x6f0, 0x660], 58 ≤ z := by decide

theorem digitMap_apart :
    ∀ z ∈ [0x6f0, 0x660], ∀ z' ∈ [0x6f0, 0x660], z = z' ∨ z + 10 ≤ z' ∨ z' + 10 ≤ z := by
  decide

/-- `_DIGIT_MAP`: the Persian and the Arabic digits. -/
def digitMap : Digits.Scripts where
  zeros := [0x6f0, 0x660]
  notLatin := digitMap_notLatin
  apart := digitMap_apart

theorem notBlank_digitMap : digitMap.NotBlank := by decide +kernel

/-- `_to_en_digits` -/
def toEnDigits (s : String) : String := digitMap.translate s

/-- `BELT_BASE` -/
def beltBase : List (String × BeltCode) :=
  [("white", .white), ("سفید", .white), ("yellow", .yellow), ("زرد", .yellow),
    ("green", .green), ("سبز", .green), ("blue", .blue), ("آبی", .blue), ("ابي", .blue),
    ("ابی", .blue), ("red", .red), ("قرمز", .red), ("black", .black), ("مشکی", .black),
    ("مشكى", .black)]

/-- A match of `_DAN_RE` at the front of the text: its number. -/
def danAt (text : List Char) : Option ℕ := do
  let rest ← (text.dropPrefix? "مشکی".toList).or (text.dropPrefix? "مشكى".toList)
  let rest ← (rest.dropWhile Text.isSpace).dropPrefix? "دان".toList
  match ((rest.dropWhile Text.isSpace).takeWhile Text.isDecimal).take 2 with
  | [] => none
  | digits => some (Text.intOfDigits digits)

/-- `_DAN_RE.search` -/
def danSearch : List Char → Option ℕ
  | [] => none
  | c :: cs => (danAt (c :: cs)).or (danSearch cs)

/-- `_norm_belt`. Its last test asks for texts that the loop before it has found. -/
def normBelt (s : String) : Option BeltCode :=
  if s = "" then none
  else
    let t := Text.replaceChar 'ك' 'ک' (Text.replaceChar 'ي' 'ی'
      (String.ofList ((Text.strip (toEnDigits s)).toList.map Text.lowerLatin)))
    match (danSearch t.toList).filter fun dan => 1 ≤ dan && dan ≤ 10 with
    | some _ => some .black
    | none => (beltBase.find? fun entry => Text.contains entry.1.toList t.toList).map Prod.snd

@[simp] theorem normBelt_empty : normBelt "" = none := rfl

/-- `t.replace("ي", "ی").replace("ك", "ک")`, of a letter. -/
def persianForm (c : Char) : Char :=
  let c := if c = 'ي' then 'ی' else c
  if c = 'ك' then 'ک' else c

/-- What is left of a letter when case and Arabic forms are gone. -/
def foldLetter (c : Char) : Char := persianForm (Text.lowerLatin c)

/-- What `_norm_belt` does with the rewritten text. -/
def readBelt (t : List Char) : Option BeltCode :=
  if ((danSearch t).filter fun dan => 1 ≤ dan && dan ≤ 10).isSome then some .black
  else (beltBase.find? fun entry => Text.contains entry.1.toList t).map Prod.snd

/-- The text before it is searched, with the digits that it had. -/
theorem toList_rewritten (s : String) :
    (Text.replaceChar 'ك' 'ک' (Text.replaceChar 'ي' 'ی' (String.ofList
      ((Text.strip (toEnDigits s)).toList.map Text.lowerLatin)))).toList =
        (Text.strip s).toList.map fun c => foldLetter (digitMap.toLatin c) := by
  rw [toEnDigits, Digits.Scripts.strip_translate notBlank_digitMap,
    Digits.Scripts.toList_translate, Text.toList_replaceChar, Text.toList_replaceChar,
    String.toList_ofList, List.map_map, List.map_map, List.map_map]
  rfl

/-- Blanks are stripped, and every character that is left is rewritten on its own. -/
theorem normBelt_eq (s : String) :
    normBelt s = readBelt ((Text.strip s).toList.map fun c => foldLetter (digitMap.toLatin c)) := by
  by_cases hempty : s = ""
  · subst hempty
    rfl
  · rw [normBelt, if_neg hempty, readBelt]
    dsimp only
    rw [toList_rewritten]
    generalize Option.filter _ (danSearch _) = dan
    cases dan <;> rfl

/-! ### The belts of a competition -/

structure BeltGroup where
  pk : ℕ
  /-- the names of its belts -/
  belts : List String
  deriving DecidableEq, Repr

/-- `belt_groups` and `belt_level` of a competition. -/
structure BeltRules where
  groups : List BeltGroup
  level : String
  deriving DecidableEq, Repr

/-- `{f"مشکی دان {i}" for i in range(1, 11)}` -/
def blackBeltNames : List String := (List.range' 1 10).map fun i => "مشکی دان " ++ toString i

/-- The names of a level, in `_allowed_belt_names_for_comp`. -/
def levelBeltNames (level : String) : List String :=
  if level = "yellow_blue" then ["سفید", "زرد", "سبز", "آبی"]
  else if level = "red_black" then "قرمز" :: blackBeltNames
  else ["سفید", "زرد", "سبز", "آبی", "قرمز"] ++ blackBeltNames

/-- The codes of a level, in `_allowed_belts`. -/
def levelBelts (level : String) : List BeltCode :=
  if level = "yellow_blue" then [.yellow, .green, .blue]
  else if level = "red_black" then [.red, .black]
  else [.white, .yellow, .green, .blue, .red, .black]

/-- The choices of `belt_grade` below the black belts. -/
theorem normBelt_coloured :
    normBelt "سفید" = some .white ∧ normBelt "زرد" = some .yellow ∧ normBelt "سبز" = some .green ∧
      normBelt "آبی" = some .blue ∧ normBelt "قرمز" = some .red := by
  simp only [normBelt_eq]
  decide +kernel

theorem map_normBelt_blackBeltNames :
    blackBeltNames.map normBelt = List.replicate 10 (some .black) := by
  rw [funext normBelt_eq]
  decide +kernel

/-- The names of a level have the codes of the level. White has a name in the lower level and
is none of its codes. -/
theorem exists_levelBeltName_iff {level : String} {c : BeltCode} :
    (∃ name ∈ levelBeltNames level, normBelt name = some c) ↔
      c ∈ levelBelts level ∨ level = "yellow_blue" ∧ c = .white := by
  obtain ⟨hwhite, hyellow, hgreen, hblue, hred⟩ := normBelt_coloured
  rw [← List.mem_map (f := normBelt)]
  unfold levelBeltNames levelBelts
  split_ifs with hlower hupper
  · simp only [List.map_cons, List.map_nil, hwhite, hyellow, hgreen, hblue]
    cases c <;> simp [hlower]
  · simp only [List.map_cons, hred, map_normBelt_blackBeltNames]
    cases c <;> simp [hlower]
  · simp only [List.map_append, List.map_cons, List.map_nil, hwhite, hyellow, hgreen, hblue, hred,
      map_normBelt_blackBeltNames]
    cases c <;> simp [hlower]

theorem exists_mem_levelBelts (level : String) : ∃ c, c ∈ levelBelts level := by
  unfold levelBelts
  split_ifs
  · exact ⟨.yellow, List.mem_cons_self⟩
  · exact ⟨.red, List.mem_cons_self⟩
  · exact ⟨.white, List.mem_cons_self⟩

/-- A level has names, and they are texts. -/
theorem exists_levelBeltName_ne (level : String) : ∃ name ∈ levelBeltNames level, name ≠ "" := by
  obtain ⟨c, hc⟩ := exists_mem_levelBelts level
  obtain ⟨name, hname, hcode⟩ := exists_levelBeltName_iff.mpr (Or.inl hc)
  exact ⟨name, hname, fun h => by simp [h] at hcode⟩

namespace BeltRules

variable {rules : BeltRules} {code : Option BeltCode}

/-- `_allowed_belt_names_for_comp` -/
def allowedBeltNamesForComp (rules : BeltRules) : List String :=
  if rules.groups ≠ [] then rules.groups.flatMap BeltGroup.belts else levelBeltNames rules.level

/-- `_allowed_belts`: a sorted list without repetitions. -/
def allowedBelts (rules : BeltRules) : List BeltCode :=
  let allowed :=
    if rules.groups ≠ [] then
      rules.groups.flatMap fun g => g.belts.filterMap normBelt
    else levelBelts rules.level
  [BeltCode.black, .blue, .green, .red, .white, .yellow].filter fun c => c ∈ allowed

/-- The belt test of `CoachStudentsEligibleListView.get`. -/
def listed (rules : BeltRules) (code : Option BeltCode) : Bool :=
  let allowedCodes := (rules.allowedBeltNamesForComp.filter (· ≠ "")).map normBelt
  allowedCodes.isEmpty || (code.isSome && allowedCodes.contains code)

/-- `belt_ok` of `get_user_eligible_self` and of `_poomsae_user_eligible`. -/
def allows (rules : BeltRules) (code : Option BeltCode) : Bool :=
  rules.allowedBelts.isEmpty || code.any rules.allowedBelts.contains

/-- `_find_belt_group_obj`, which `_belt_group_for_player_in_comp` repeats. -/
def findBeltGroupObj (rules : BeltRules) (code : Option BeltCode) : Option ℕ :=
  code.bind fun c =>
    (rules.groups.find? fun g => g.belts.any fun name => normBelt name = some c).map BeltGroup.pk

/-! ### The tests compared -/

theorem findBeltGroupObj_ne_none_iff :
    rules.findBeltGroupObj code ≠ none ↔
      ∃ c, code = some c ∧ ∃ g ∈ rules.groups, ∃ name ∈ g.belts, normBelt name = some c := by
  unfold findBeltGroupObj
  cases code with
  | none => simp
  | some c =>
    rw [Option.bind_some, Option.ne_none_iff_isSome, Option.isSome_map, List.find?_isSome]
    simp

theorem mem_allowedBelts_iff {c : BeltCode} :
    c ∈ rules.allowedBelts ↔
      if rules.groups ≠ [] then ∃ g ∈ rules.groups, ∃ name ∈ g.belts, normBelt name = some c
      else c ∈ levelBelts rules.level := by
  have hall : c ∈ [BeltCode.black, .blue, .green, .red, .white, .yellow] := by cases c <;> decide
  unfold allowedBelts
  rw [List.mem_filter, and_iff_right hall, decide_eq_true_eq]
  split_ifs with hgroups
  · simp only [List.mem_flatMap, List.mem_filterMap]
  · exact Iff.rfl

theorem allows_eq_true_iff :
    rules.allows code = true ↔
      rules.allowedBelts = [] ∨ ∃ c, code = some c ∧ c ∈ rules.allowedBelts := by
  cases code with
  | none => simp [allows]
  | some c => simp [allows]

theorem listed_eq_true_iff :
    rules.listed code = true ↔
      (∀ name ∈ rules.allowedBeltNamesForComp, name = "") ∨
        ∃ c, code = some c ∧ ∃ name ∈ rules.allowedBeltNamesForComp, normBelt name = some c := by
  unfold listed
  dsimp only
  rw [Bool.or_eq_true, List.isEmpty_iff, List.map_eq_nil_iff, List.filter_eq_nil_iff]
  refine or_congr (by simp) ?_
  cases code with
  | none => simp
  | some c =>
    simp only [Option.isSome_some, Bool.true_and, List.contains_iff_mem, List.mem_map,
      List.mem_filter, Option.some.injEq, exists_eq_left']
    constructor
    · rintro ⟨name, ⟨hname, -⟩, hcode⟩
      exact ⟨name, hname, hcode⟩
    · rintro ⟨name, hname, hcode⟩
      -- the empty name has no code
      have hne : name ≠ "" := fun h => by simp [h] at hcode
      exact ⟨name, ⟨hname, by simpa using hne⟩, hcode⟩

/-- The handlers are content with the belt: it has a group, if there are any. -/
def Grouped (rules : BeltRules) (code : Option BeltCode) : Prop :=
  rules.groups ≠ [] → rules.findBeltGroupObj code ≠ none

/-- **The coach's list asks for more than a handler** exactly where a competition has no belt
groups: the belt has to be one of its level. -/
theorem listed_iff (h : rules.Grouped code) :
    rules.listed code = true ↔
      (rules.groups = [] → ∃ c, code = some c ∧
        ∃ name ∈ levelBeltNames rules.level, normBelt name = some c) := by
  rw [listed_eq_true_iff]
  by_cases hgroups : rules.groups = []
  · have hnames : rules.allowedBeltNamesForComp = levelBeltNames rules.level :=
      if_neg (not_not.mpr hgroups)
    rw [hnames, forall_prop_of_true hgroups]
    refine or_iff_right fun hempty => ?_
    obtain ⟨name, hname, hne⟩ := exists_levelBeltName_ne rules.level
    exact hne (hempty name hname)
  · have hnames : rules.allowedBeltNamesForComp = rules.groups.flatMap BeltGroup.belts :=
      if_pos hgroups
    obtain ⟨c, hcode, g, hg, name, hname, hnorm⟩ := findBeltGroupObj_ne_none_iff.mp (h hgroups)
    refine iff_of_true (Or.inr ⟨c, hcode, name, ?_, hnorm⟩) fun hnil => absurd hnil hgroups
    rw [hnames]
    exact List.mem_flatMap.mpr ⟨g, hg, hname⟩

/-- **The pages ask for more than a handler** exactly where a competition has no belt
groups. -/
theorem allows_iff (h : rules.Grouped code) :
    rules.allows code = true ↔
      (rules.groups = [] → ∃ c, code = some c ∧ c ∈ levelBelts rules.level) := by
  rw [allows_eq_true_iff]
  by_cases hgroups : rules.groups = []
  · have hmem : ∀ c, c ∈ rules.allowedBelts ↔ c ∈ levelBelts rules.level := fun c => by
      rw [mem_allowedBelts_iff, if_neg (not_not.mpr hgroups)]
    rw [forall_prop_of_true hgroups]
    simp only [hmem]
    refine or_iff_right fun hempty => ?_
    obtain ⟨c, hc⟩ := exists_mem_levelBelts rules.level
    rw [← hmem, hempty] at hc
    cases hc
  · obtain ⟨c, hcode, hgroup⟩ := findBeltGroupObj_ne_none_iff.mp (h hgroups)
    refine iff_of_true (Or.inr ⟨c, hcode, ?_⟩) fun hnil => absurd hnil hgroups
    rw [mem_allowedBelts_iff, if_pos hgroups]
    exact hgroup

end BeltRules

end Tkdchb
