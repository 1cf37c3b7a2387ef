import Tkdchb.Competitions.Admission
import Tkdchb.Lib.TwoChecks

/-!
# The list of the coach and the page of the competition

Both tell whether a player may take part, and both look at gender, belt and age. The list
compares the gender as it is stored, has white among the belts from yellow to blue and wants a
birth date that it can read; the page normalises the gender, has not got white, and reads birth
dates in other ways.

## Main definitions

* `EligibilityTables.coachFilters` — the three filters of the list
* `genderRefusals`, `BeltRules.refusals`, `EligibilityTables.ageRefusals` — whom the list and the
  page refuse by one test
* `PagesAgree` — what the refusals by all tests have to be
* `PlainDate`, `Jdatetime.Lawful` — birth dates that both read alike

## Main results

* `pages_agree_iff` — when the list and the page say the same of a player
* `pagesAgree_of_plain` — in the usual case they do, the white belt apart
-/

namespace Tkdchb

open Calendar TwoChecks

/-- What the list and the page both look at. -/
inductive EligibilityTest where
  | gender
  | belt
  | age
  deriving DecidableEq, Repr

theorem EligibilityTest.forall_iff {p : EligibilityTest → Prop} :
    (∀ test, p test) ↔ p .gender ∧ p .belt ∧ p .age := by
  constructor
  · intro h
    exact ⟨h .gender, h .belt, h .age⟩
  · rintro ⟨hgender, hbelt, hage⟩ test
    cases test with
    | gender => exact hgender
    | belt => exact hbelt
    | age => exact hage

/-! ### Genders -/

/-- The text that both normalisations start from. -/
def bareGender (v : String) : String :=
  String.ofList <| (Text.lower (Text.strip v)).toList.filter fun c => c != '\u200c' && c != '-'

/-- The letters that only `_norm_gender` replaces. -/
def persianLetter (c : Char) : Char :=
  if (if c = 'ي' then 'ی' else c) = 'ك' then 'ک' else if c = 'ي' then 'ی' else c

theorem persianLetter_kept (c : Char) :
    (persianLetter c != '\u200c' && persianLetter c != '-') = (c != '\u200c' && c != '-') := by
  unfold persianLetter
  by_cases hya : c = 'ي'
  · rw [hya]
    decide
  · by_cases hkaf : c = 'ك'
    · rw [hkaf]
      decide
    · rw [if_neg hya, if_neg hkaf]

theorem normGender_eq (v : String) :
    normGender v = (genderMap.lookup (String.ofList ((bareGender v).toList.map persianLetter))).getD
      (String.ofList ((bareGender v).toList.map persianLetter)) := by
  have htext : (Text.replaceChar 'ك' 'ک' (Text.replaceChar 'ي' 'ی'
      (Text.lower (Text.strip v)))).toList.filter (fun c => c != '\u200c' && c != '-') =
      (bareGender v).toList.map persianLetter := by
    unfold bareGender Text.replaceChar
    generalize Text.lower (Text.strip v) = s
    rw [String.toList_ofList, String.toList_ofList, String.toList_ofList, List.map_map,
      List.filter_map]
    have hkept : s.toList.filter ((fun c => c != '\u200c' && c != '-') ∘ persianLetter) =
        s.toList.filter fun c => c != '\u200c' && c != '-' :=
      List.filter_congr fun c _ => persianLetter_kept c
    exact congrArg (List.map persianLetter) hkept
  unfold normGender
  dsimp only
  rw [htext]

/-- A text on which the normalisation of the page does what that of the list does. -/
theorem normGender_of_bare {v t g : String} (hbare : bareGender v = t)
    (hletters : String.ofList (t.toList.map persianLetter) = t)
    (hmap : (genderMap.lookup t).getD t = g) : normGender v = g := by
  rw [normGender_eq, hbare, hletters, hmap]

/-- The table of `_required_gender_for_comp`, where it tells one gender. -/
theorem requiredGenderForComp_table {comp : KyorugiCompetition} (h : comp.gender ≠ "") :
    ∃ table : List (String × String),
      requiredGenderForComp comp =
        some ((table.lookup (bareGender comp.gender)).getD (bareGender comp.gender)) ∧
      ∀ entry ∈ table, entry.2 = "male" ∨ entry.2 = "female" →
        String.ofList (entry.1.toList.map persianLetter) = entry.1 ∧
          (genderMap.lookup entry.1).getD entry.1 = entry.2 :=
  ⟨_, if_neg h, by decide +kernel⟩

/-- The list asks for one gender. -/
def AsksFor (comp : KyorugiCompetition) (g : String) : Prop :=
  requiredGenderForComp comp = some g ∧ (g = "male" ∨ g = "female")

theorem normGender_male_female :
    normGender "male" = "male" ∧ normGender "female" = "female" := by
  decide +kernel

/-- **A gender that the list asks for, the page asks for.** -/
theorem AsksFor.normGender_eq {comp : KyorugiCompetition} {g : String} (h : AsksFor comp g) :
    normGender comp.gender = g := by
  obtain ⟨hrequired, hg⟩ := h
  have hne : comp.gender ≠ "" := by
    intro hempty
    rw [requiredGenderForComp, if_pos hempty] at hrequired
    cases hrequired
  obtain ⟨table, heq, htable⟩ := requiredGenderForComp_table hne
  rw [heq, Option.some.injEq] at hrequired
  cases hlookup : table.lookup (bareGender comp.gender) with
  | none =>
    -- the text is the gender itself
    rw [hlookup, Option.getD_none] at hrequired
    rcases hg with rfl | rfl
    · exact normGender_of_bare hrequired (by decide +kernel) (by decide +kernel)
    · exact normGender_of_bare hrequired (by decide +kernel) (by decide +kernel)
  | some g' =>
    rw [hlookup, Option.getD_some] at hrequired
    subst hrequired
    obtain ⟨l₁, l₂, hsplit, -⟩ := List.lookup_eq_some_iff.mp hlookup
    have hentry : (bareGender comp.gender, g') ∈ table := by
      rw [hsplit]
      exact List.mem_append_right _ List.mem_cons_self
    obtain ⟨hletters, hmap⟩ := htable _ hentry hg
    exact normGender_of_bare rfl hletters hmap

/-- A stored gender that the list asks for, the page reads as it is. -/
theorem AsksFor.normGender_self {comp : KyorugiCompetition} {g : String} (h : AsksFor comp g) :
    normGender g = g := by
  rcases h.2 with rfl | rfl
  · exact normGender_male_female.1
  · exact normGender_male_female.2

/-- Whom the list, the page or both refuse by the gender: what another spelling says the page
understands, and an unknown gender of the competition the list ignores. -/
def genderRefusals (comp : KyorugiCompetition) (gender : String) : Refusals where
  both := ∃ g, AsksFor comp g ∧ normGender gender ≠ g
  first := ∃ g, AsksFor comp g ∧ gender ≠ g ∧ normGender gender = g
  second := (∀ g, ¬AsksFor comp g) ∧ normGender comp.gender ≠ "" ∧
    normGender comp.gender ≠ "both" ∧ normGender comp.gender ≠ normGender gender

theorem genderRefusals_tells (comp : KyorugiCompetition) (gender : String) :
    (genderRefusals comp gender).Tells (∀ g, AsksFor comp g → gender = g)
      (normGender comp.gender = "" ∨ normGender comp.gender = "both" ∨
        normGender comp.gender = normGender gender) := by
  by_cases hasks : ∃ g, AsksFor comp g
  · obtain ⟨g, hg⟩ := hasks
    -- the list asks for one text at most, and it is not one the page lets everyone through for
    have hunique : ∀ g', AsksFor comp g' ↔ g' = g := by
      intro g'
      constructor
      · intro hg'
        exact Option.some.inj (hg'.1.symm.trans hg.1)
      · rintro rfl
        exact hg
    have hnone : g ≠ "" ∧ g ≠ "both" := by
      rcases hg.2 with rfl | rfl <;> decide
    have hself := hg.normGender_self
    rw [hg.normGender_eq, or_iff_right hnone.1, or_iff_right hnone.2]
    simp only [hunique, forall_eq]
    constructor
    · constructor
      · rintro ⟨g', hg', hdiffers⟩
        obtain rfl := (hunique g').mp hg'
        refine ⟨?_, Ne.symm hdiffers⟩
        rintro rfl
        exact hdiffers hself
      · rintro ⟨-, hdiffers⟩
        exact ⟨g, hg, Ne.symm hdiffers⟩
    · constructor
      · rintro ⟨g', hg', hstored, hsame⟩
        obtain rfl := (hunique g').mp hg'
        exact ⟨hstored, hsame.symm⟩
      · rintro ⟨hstored, hsame⟩
        exact ⟨g, hg, hstored, hsame.symm⟩
    · constructor
      · rintro ⟨hnobody, -⟩
        exact absurd hg (hnobody g)
      · rintro ⟨rfl, hdiffers⟩
        exact absurd hself.symm hdiffers
  · -- the list asks for nothing, so only the page can refuse
    have hnobody : ∀ g, ¬AsksFor comp g := fun g hg => hasks ⟨g, hg⟩
    have hlist : ∀ g, AsksFor comp g → gender = g := fun g hg => absurd hg (hnobody g)
    constructor
    · refine iff_of_false ?_ fun h => h.1 hlist
      rintro ⟨g, hg, -⟩
      exact hnobody g hg
    · refine iff_of_false ?_ fun h => h.1 hlist
      rintro ⟨g, hg, -⟩
      exact hnobody g hg
    · constructor
      · rintro ⟨-, hempty, hboth, hdiffers⟩
        refine ⟨hlist, ?_⟩
        rintro (h | h | h)
        · exact hempty h
        · exact hboth h
        · exact hdiffers h
      · rintro ⟨-, hpage⟩
        rw [not_or, not_or] at hpage
        exact ⟨hnobody, hpage⟩

/-! ### Belts -/

namespace BeltRules

variable {rules : BeltRules} {code : Option BeltCode}

/-- A belt of the groups has the code. -/
def GroupsHave (rules : BeltRules) (c : BeltCode) : Prop :=
  ∃ g ∈ rules.groups, ∃ name ∈ g.belts, normBelt name = some c

/-- Whom the list, the page or both refuse by the belt: the list everyone where no belt of the
groups has a code, the page a white belt where the level is the lower one. -/
def refusals (rules : BeltRules) (code : Option BeltCode) : Refusals where
  both :=
    if rules.groups = [] then
      ∀ c, code = some c → c ∉ levelBelts rules.level ∧ ¬(rules.level = "yellow_blue" ∧ c = .white)
    else (∃ c, rules.GroupsHave c) ∧ ∀ c, code = some c → ¬rules.GroupsHave c
  first := (∀ c, ¬rules.GroupsHave c) ∧ ∃ g ∈ rules.groups, ∃ name ∈ g.belts, name ≠ ""
  second := rules.groups = [] ∧ rules.level = "yellow_blue" ∧ code = some .white

theorem listed_iff_of_level (h : rules.groups = []) :
    rules.listed code = true ↔ ∃ c, code = some c ∧
      (c ∈ levelBelts rules.level ∨ rules.level = "yellow_blue" ∧ c = .white) := by
  rw [listed_iff fun hne => absurd h hne, forall_prop_of_true h]
  simp only [exists_levelBeltName_iff]

theorem allows_iff_of_level (h : rules.groups = []) :
    rules.allows code = true ↔ ∃ c, code = some c ∧ c ∈ levelBelts rules.level := by
  rw [allows_iff fun hne => absurd h hne, forall_prop_of_true h]

theorem listed_iff_of_groups (h : rules.groups ≠ []) :
    rules.listed code = true ↔ (∀ g ∈ rules.groups, ∀ name ∈ g.belts, name = "") ∨
      ∃ c, code = some c ∧ rules.GroupsHave c := by
  have hnames : rules.allowedBeltNamesForComp = rules.groups.flatMap BeltGroup.belts := if_pos h
  rw [listed_eq_true_iff, hnames]
  refine or_congr ?_ (exists_congr fun c => and_congr_right fun _ => ?_)
  · constructor
    · intro hempty g hg name hname
      exact hempty name (List.mem_flatMap.mpr ⟨g, hg, hname⟩)
    · intro hempty name hname
      obtain ⟨g, hg, hname⟩ := List.mem_flatMap.mp hname
      exact hempty g hg name hname
  · constructor
    · rintro ⟨name, hname, hcode⟩
      obtain ⟨g, hg, hname⟩ := List.mem_flatMap.mp hname
      exact ⟨g, hg, name, hname, hcode⟩
    · rintro ⟨g, hg, name, hname, hcode⟩
      exact ⟨name, List.mem_flatMap.mpr ⟨g, hg, hname⟩, hcode⟩

theorem allows_iff_of_groups (h : rules.groups ≠ []) :
    rules.allows code = true ↔ (∀ c, ¬rules.GroupsHave c) ∨
      ∃ c, code = some c ∧ rules.GroupsHave c := by
  have hmem : ∀ c, c ∈ rules.allowedBelts ↔ rules.GroupsHave c := by
    intro c
    rw [mem_allowedBelts_iff, if_pos h, GroupsHave]
  rw [allows_eq_true_iff, List.eq_nil_iff_forall_not_mem]
  simp only [hmem]

theorem white_not_mem_levelBelts : BeltCode.white ∉ levelBelts "yellow_blue" := by decide

theorem refusals_tells_of_level (h : rules.groups = []) :
    (rules.refusals code).Tells (rules.listed code = true) (rules.allows code = true) := by
  rw [listed_iff_of_level h, allows_iff_of_level h]
  constructor
  · rw [refusals, if_pos h]
    constructor
    · intro hother
      constructor
      · rintro ⟨c, hcode, hlevel | hwhite⟩
        · exact (hother c hcode).1 hlevel
        · exact (hother c hcode).2 hwhite
      · rintro ⟨c, hcode, hlevel⟩
        exact (hother c hcode).1 hlevel
    · rintro ⟨hlist, -⟩ c hcode
      exact ⟨fun hlevel => hlist ⟨c, hcode, Or.inl hlevel⟩,
        fun hwhite => hlist ⟨c, hcode, Or.inr hwhite⟩⟩
  · -- the codes of a level are among those of its names
    constructor
    · rintro ⟨-, g, hg, -⟩
      rw [h] at hg
      cases hg
    · rintro ⟨hlist, c, hcode, hlevel⟩
      exact absurd ⟨c, hcode, Or.inl hlevel⟩ hlist
  · constructor
    · rintro ⟨-, hlevel, hwhite⟩
      refine ⟨⟨.white, hwhite, Or.inr ⟨hlevel, rfl⟩⟩, ?_⟩
      rintro ⟨c, hcode, hmem⟩
      obtain rfl := Option.some.inj (hwhite.symm.trans hcode)
      rw [hlevel] at hmem
      exact white_not_mem_levelBelts hmem
    · rintro ⟨⟨c, hcode, hmem | ⟨hlevel, rfl⟩⟩, hpage⟩
      · exact absurd ⟨c, hcode, hmem⟩ hpage
      · exact ⟨h, hlevel, hcode⟩

theorem refusals_tells_of_groups (h : rules.groups ≠ []) :
    (rules.refusals code).Tells (rules.listed code = true) (rules.allows code = true) := by
  -- where all names are empty, no belt has a code, and the page does not refuse either
  have hnames : (∀ g ∈ rules.groups, ∀ name ∈ g.belts, name = "") → ∀ c, ¬rules.GroupsHave c := by
    rintro hempty c ⟨g, hg, name, hname, hcode⟩
    rw [hempty g hg name hname, normBelt_empty] at hcode
    cases hcode
  rw [listed_iff_of_groups h, allows_iff_of_groups h]
  constructor
  · rw [refusals, if_neg h]
    constructor
    · rintro ⟨⟨c, hc⟩, hother⟩
      have hcode : ¬∃ c, code = some c ∧ rules.GroupsHave c :=
        fun ⟨c, hcode, hc⟩ => hother c hcode hc
      constructor
      · rintro (hempty | hhas)
        · exact hnames hempty c hc
        · exact hcode hhas
      · rintro (hnone | hhas)
        · exact hnone c hc
        · exact hcode hhas
    · rintro ⟨-, hpage⟩
      rw [not_or, not_forall_not] at hpage
      exact ⟨hpage.1, fun c hcode hc => hpage.2 ⟨c, hcode, hc⟩⟩
  · constructor
    · rintro ⟨hnone, g, hg, name, hname, hne⟩
      refine ⟨?_, Or.inl hnone⟩
      rintro (hempty | ⟨c, -, hc⟩)
      · exact hne (hempty g hg name hname)
      · exact hnone c hc
    · rintro ⟨hlist, hpage⟩
      rw [not_or] at hlist
      refine ⟨hpage.resolve_right hlist.2, ?_⟩
      by_contra! hempty
      exact hlist.1 hempty
  · constructor
    · rintro ⟨hgroups, -⟩
      exact absurd hgroups h
    · rintro ⟨hempty | hhas, hpage⟩
      · exact absurd (Or.inl (hnames hempty)) hpage
      · exact absurd (Or.inr hhas) hpage

theorem refusals_tells (rules : BeltRules) (code : Option BeltCode) :
    (rules.refusals code).Tells (rules.listed code = true) (rules.allows code = true) := by
  by_cases hgroups : rules.groups = []
  · exact refusals_tells_of_level hgroups
  · exact refusals_tells_of_groups hgroups

end BeltRules

/-! ### Ages -/

/-- The list reads the text as a day of the window. -/
def AgeCategory.CoversYmd (cat : AgeCategory) (jd : Jdatetime) (text : String) : Prop :=
  ∃ bd, parseJalaliYmd jd text = some bd ∧ cat.covers bd = true

/-- The page reads the text as a day of the window, in the Jalali calendar. -/
def AgeCategory.CoversStr (cat : AgeCategory) (jd : Jdatetime) (text : String) : Prop :=
  ∃ fromJ toJ dobJ, jd.fromgregorian cat.fromDate = some fromJ ∧
    jd.fromgregorian cat.toDate = some toJ ∧ parseJalaliStr jd text = some dobJ ∧
    fromJ.le dobJ = true ∧ dobJ.le toJ = true

/-- Whom the list, the page or both refuse by the birth date: where there is no window, the page
takes every text. -/
def EligibilityTables.ageRefusals (T : EligibilityTables) (jd : Jdatetime) (fk : Option ℕ)
    (birthDate : String) : Refusals where
  both := ∃ cat, T.ageCategory fk = some cat ∧ ¬cat.CoversYmd jd birthDate ∧
    ¬cat.CoversStr jd birthDate
  first := (T.ageCategory fk = none ∧ parseJalaliYmd jd birthDate = none) ∨
    ∃ cat, T.ageCategory fk = some cat ∧ ¬cat.CoversYmd jd birthDate ∧ cat.CoversStr jd birthDate
  second := ∃ cat, T.ageCategory fk = some cat ∧ cat.CoversYmd jd birthDate ∧
    ¬cat.CoversStr jd birthDate

section Pages

variable {T : EligibilityTables} {jd : Jdatetime} {comp : KyorugiSettings} {p : PlayerProfile}
  {pid : ℤ} {user : ℕ}

theorem ageRefusals_tells : (T.ageRefusals jd comp.ageCategory p.birthDate).Tells
    (T.ageOkForComp jd p comp = true) (T.ageOkSelf jd p comp = some true) := by
  rw [ageOkForComp_eq_true_iff, ageOkSelf_eq_some_true_iff]
  unfold playerBirthdateToGregorian EligibilityTables.ageRefusals
  cases T.ageCategory comp.ageCategory with
  | none =>
    -- the page takes every text, the list only one that it reads
    have hread : (∃ bd, parseJalaliYmd jd p.birthDate = some bd) ↔
        ¬parseJalaliYmd jd p.birthDate = none := Option.ne_none_iff_exists'.symm
    constructor <;> simp [hread]
  | some cat =>
    constructor <;> simp [AgeCategory.CoversYmd, AgeCategory.CoversStr]

/-! ### All tests -/

/-- The filters of `CoachStudentsEligibleListView.get` on gender, belt and age. -/
def EligibilityTables.coachFilters (T : EligibilityTables) (jd : Jdatetime) (s : PlayerProfile)
    (comp : KyorugiSettings) : Bool :=
  let reqGender := requiredGenderForComp comp.competition
  (if reqGender = some "male" ∨ reqGender = some "female" then some s.gender == reqGender
    else true) &&
    comp.belts.listed (playerBeltCodeFromProfile s) && T.ageOkForComp jd s comp

/-- **The list of a coach** has those of his students whom the filters let through. -/
theorem mem_coachStudentsEligible_iff_coachFilters {coach : ℤ} :
    (pid, p) ∈ T.coachStudentsEligible jd coach comp ↔
      (pid, p) ∈ T.profiles.rows ∧ p.coach = some coach ∧
        p.role ∈ ["player", "both", "coach", "referee"] ∧ T.coachFilters jd p comp = true := by
  unfold EligibilityTables.coachStudentsEligible EligibilityTables.coachFilters
  dsimp only
  rw [List.mem_filter, Bool.and_eq_true, Bool.and_eq_true, Bool.and_eq_true, Bool.and_eq_true,
    Bool.and_eq_true, Bool.and_eq_true, beq_iff_eq, List.contains_iff_mem]
  simp only [and_assoc]

/-- What the list tests. -/
def ListPasses (T : EligibilityTables) (jd : Jdatetime) (comp : KyorugiSettings)
    (p : PlayerProfile) : EligibilityTest → Prop
  | .gender => ∀ g, AsksFor comp.competition g → p.gender = g
  | .belt => comp.belts.listed (playerBeltCodeFromProfile p) = true
  | .age => T.ageOkForComp jd p comp = true

/-- What the page tests. -/
def PagePasses (T : EligibilityTables) (jd : Jdatetime) (comp : KyorugiSettings)
    (p : PlayerProfile) : EligibilityTest → Prop
  | .gender => EligibilityTables.genderOkSelf p comp = true
  | .belt => comp.belts.allows (playerBeltCodeFromProfile p) = true
  | .age => T.ageOkSelf jd p comp = some true

/-- Whom the list, the page or both refuse, by each test. -/
def refusals (T : EligibilityTables) (jd : Jdatetime) (comp : KyorugiSettings)
    (p : PlayerProfile) : EligibilityTest → Refusals
  | .gender => genderRefusals comp.competition p.gender
  | .belt => comp.belts.refusals (playerBeltCodeFromProfile p)
  | .age => T.ageRefusals jd comp.ageCategory p.birthDate

/-- A test fails on both, or the list and the page each refuse the player by some test, or
neither does. -/
def PagesAgree (T : EligibilityTables) (jd : Jdatetime) (comp : KyorugiSettings)
    (p : PlayerProfile) : Prop :=
  Agree (refusals T jd comp p)

theorem forall_asksFor_iff {g : String} {comp : KyorugiCompetition} :
    (∀ g', AsksFor comp g' → g = g') ↔
      (requiredGenderForComp comp = some "male" ∨ requiredGenderForComp comp = some "female" →
        some g = requiredGenderForComp comp) := by
  constructor
  · rintro h (hmale | hfemale)
    · rw [hmale, h "male" ⟨hmale, Or.inl rfl⟩]
    · rw [hfemale, h "female" ⟨hfemale, Or.inr rfl⟩]
  · rintro h g' ⟨hrequired, hg'⟩
    rw [hrequired, Option.some.injEq, Option.some.injEq, Option.some.injEq] at h
    exact h hg'

theorem coachFilters_iff : T.coachFilters jd p comp = true ↔ ∀ test, ListPasses T jd comp p test := by
  unfold EligibilityTables.coachFilters
  dsimp only
  rw [EligibilityTest.forall_iff, Bool.and_eq_true, Bool.and_eq_true, genderFilter_eq_true_iff,
    ← forall_asksFor_iff, and_assoc]
  exact Iff.rfl

theorem pagePasses_iff (hprofile : T.profiles.profileOf user = some (pid, p)) :
    T.getUserEligibleSelf jd user comp = some true ↔ ∀ test, PagePasses T jd comp p test := by
  rw [getUserEligibleSelf_eq_some_true_iff hprofile, EligibilityTest.forall_iff]
  constructor
  · rintro ⟨hgender, hage, hbelt⟩
    exact ⟨hgender, hbelt, hage⟩
  · rintro ⟨hgender, hbelt, hage⟩
    exact ⟨hgender, hage, hbelt⟩

/-- Each test, on the list and on the page. -/
theorem refusals_tells (test : EligibilityTest) :
    (refusals T jd comp p test).Tells (ListPasses T jd comp p test)
      (PagePasses T jd comp p test) := by
  cases test with
  | gender =>
    have htells := genderRefusals_tells comp.competition p.gender
    rw [← genderOkSelf_eq_true_iff] at htells
    exact htells
  | belt => exact BeltRules.refusals_tells comp.belts (playerBeltCodeFromProfile p)
  | age => exact ageRefusals_tells

end Pages

/-- **When the list of the coach and the page say the same** of a player: by the gender, the
belt and the age, for every competition and every profile. -/
theorem pages_agree_iff (T : EligibilityTables) (jd : Jdatetime) (comp : KyorugiSettings)
    {pid : ℤ} {p : PlayerProfile} {user : ℕ} (hrow : (pid, p) ∈ T.profiles.rows)
    (huser : p.user = some user) :
    (T.coachFilters jd p comp = true ↔ T.getUserEligibleSelf jd user comp = some true) ↔
      PagesAgree T jd comp p := by
  have hprofile : T.profiles.profileOf user = some (pid, p) :=
    ProfileRows.profileOf_eq_some_iff.mpr ⟨hrow, huser⟩
  rw [coachFilters_iff, pagePasses_iff hprofile]
  exact agree_iff refusals_tells

/-! ### A white belt -/

/-- A student of the first profile, with the white belt. -/
def whiteBelt : PlayerProfile :=
  { (default : PlayerProfile) with
    role := "player"
    gender := "male"
    user := some 20
    coach := some 1
    birthDate := "1390/01/01"
    beltGrade := "سفید" }

def whiteProfiles : ProfileRows where
  rows :=
    [(1, { (default : PlayerProfile) with role := "coach", gender := "male", user := some 10 }),
      (2, whiteBelt)]
  unique := by decide
  oneToOne := ProfileRows.oneToOne_pair (by decide)

/-- A competition for the belts from yellow to blue. -/
def lowerCup : KyorugiSettings :=
  { autumnCup "male" with belts := ⟨[], "yellow_blue"⟩ }

def whiteTables : EligibilityTables :=
  { boyTables with profiles := whiteProfiles }

theorem whiteBelt_mem : (2, whiteBelt) ∈ whiteTables.profiles.rows :=
  List.mem_cons_of_mem _ List.mem_cons_self

/-- The coach's list has the white belt, the page tells him that he may not take part. -/
theorem white_listed_ineligible :
    (2, whiteBelt) ∈ whiteTables.coachStudentsEligible newYear1390 1 lowerCup ∧
      whiteTables.coachFilters newYear1390 whiteBelt lowerCup = true ∧
      whiteTables.getUserEligibleSelf newYear1390 20 lowerCup = some false := by
  have hfilters : whiteTables.coachFilters newYear1390 whiteBelt lowerCup = true := by
    decide +kernel
  refine ⟨mem_coachStudentsEligible_iff_coachFilters.mpr ?_, hfilters, by decide +kernel⟩
  exact ⟨whiteBelt_mem, rfl, List.mem_cons_self, hfilters⟩

theorem pages_agree_iff_white :
    (whiteTables.coachFilters newYear1390 whiteBelt lowerCup = true ↔
      whiteTables.getUserEligibleSelf newYear1390 20 lowerCup = some true) ↔
      PagesAgree whiteTables newYear1390 lowerCup whiteBelt :=
  pages_agree_iff whiteTables newYear1390 lowerCup whiteBelt_mem rfl

/-! ### Plain columns -/

/-- `yyyy/mm/dd` in Latin digits, with a year that nobody takes for a Gregorian one. -/
structure PlainDate (text : String) (y m d : List Char) : Prop where
  text_eq : text.toList = y ++ '/' :: (m ++ '/' :: d)
  digits : ∀ c ∈ y ++ m ++ d, c.isDigit = true
  year : y.length = 4
  month : m.length = 1 ∨ m.length = 2
  day : d.length = 1 ∨ d.length = 2
  jalali : Text.intOfDigits y < 1700

namespace PlainDate

variable {text : String} {y m d : List Char}

theorem range (h : PlainDate text y m d) {c : Char} (hc : c ∈ text.toList) :
    47 ≤ c.toNat ∧ c.toNat < 58 := by
  have hcases : c = '/' ∨ c ∈ y ++ m ++ d := by
    rw [h.text_eq] at hc
    simp only [List.mem_append, List.mem_cons] at hc ⊢
    tauto
  rcases hcases with rfl | hdigit
  · decide
  · have hrange := Text.toNat_of_isDigit (h.digits c hdigit)
    omega

theorem not_mem (h : PlainDate text y m d) {c : Char} (hc : c.toNat < 47) : c ∉ text.toList := by
  intro hmem
  have hrange := h.range hmem
  omega

theorem splitOn (h : PlainDate text y m d) : text.toList.splitOn '/' = [y, m, d] := by
  have hslash : '/' ∉ y ++ m ++ d := by
    intro hmem
    have hdigit := h.digits '/' hmem
    revert hdigit
    decide
  simp only [List.mem_append, not_or] at hslash
  obtain ⟨⟨hy, hm⟩, hd⟩ := hslash
  rw [h.text_eq, List.splitOn_append_cons_self_of_not_mem hy,
    List.splitOn_append_cons_self_of_not_mem hm, List.splitOn_eq_singleton hd]

theorem ne_empty (h : PlainDate text y m d) : text ≠ "" := by
  rintro rfl
  have hlength := congrArg List.length h.text_eq
  simp only [String.toList_empty, List.length_nil, List.length_append, List.length_cons] at hlength
  omega

theorem toEnDigits_eq (h : PlainDate text y m d) : toEnDigits text = text := by
  apply Digits.Scripts.translate_eq_self_iff.mpr
  intro c hc z hz hin
  have hhigh := digitMap.notLatin z hz
  have hrange := h.range hc
  have := hin.1
  omega

/-- The list reads the three numbers. -/
theorem parseJalaliYmd_eq (h : PlainDate text y m d) (jd : Jdatetime) :
    parseJalaliYmd jd text = (jd.date (Text.intOfDigits y) (Text.intOfDigits m)
      (Text.intOfDigits d)).bind jd.togregorian := by
  have hmarks : text.toList.filter (fun c => !isMark c) = text.toList := by
    rw [List.filter_eq_self]
    intro c hc
    have hrange := h.range hc
    simp only [isMark, Bool.not_eq_true', Bool.or_eq_false_iff, Bool.and_eq_false_iff,
      decide_eq_false_iff_not, beq_eq_false_iff_ne]
    omega
  have hdecimal : (y ++ m ++ d).all Text.isDecimal = true :=
    List.all_eq_true.mpr fun c hc => Text.isDecimal_of_isDigit (h.digits c hc)
  have hmatch : matchYmd text.toList =
      some (Text.intOfDigits y, Text.intOfDigits m, Text.intOfDigits d) := by
    unfold matchYmd
    rw [h.splitOn]
    refine if_pos ?_
    rw [hdecimal]
    simp only [h.year, Bool.true_and, beq_self_eq_true, Bool.and_eq_true, Bool.or_eq_true,
      beq_iff_eq]
    exact ⟨h.month, h.day⟩
  unfold parseJalaliYmd
  rw [if_neg h.ne_empty]
  dsimp only
  rw [hmarks, String.ofList_toList, Text.replaceChar_eq_self (h.not_mem (by decide)),
    h.toEnDigits_eq, hmatch]
  rfl

/-- The page reads the three numbers. -/
theorem parseJalaliStr_eq (h : PlainDate text y m d) (jd : Jdatetime) :
    parseJalaliStr jd text = jd.date (Text.intOfDigits y) (Text.intOfDigits m)
      (Text.intOfDigits d) := by
  have hspace : ∀ c ∈ text.toList, Text.isSpace c = false := by
    intro c hc
    have hrange := h.range hc
    simp only [Text.isSpace, Bool.or_eq_false_iff, Bool.and_eq_false_iff, decide_eq_false_iff_not,
      beq_eq_false_iff_ne]
    omega
  have hint : ∀ cs : List Char, cs.length ≠ 0 → (∀ c ∈ cs, c ∈ y ++ m ++ d) →
      Text.int? (String.ofList cs) = some (Text.intOfDigits cs : ℤ) := by
    intro cs hlength hcs
    exact Text.int?_of_digits (by rintro rfl; exact hlength rfl) fun c hc => h.digits c (hcs c hc)
  have hsplit : splitYmd text =
      some ((Text.intOfDigits y : ℤ), (Text.intOfDigits m : ℤ), (Text.intOfDigits d : ℤ)) := by
    have hyear := h.year
    have hmonth := h.month
    have hday := h.day
    unfold splitYmd
    rw [h.splitOn]
    dsimp only [List.take]
    rw [hint y (by omega) (by simp +contextual), hint m (by omega) (by simp +contextual),
      hint d (by omega) (by simp +contextual)]
    rfl
  have hyear : ¬(1700 : ℤ) ≤ Text.intOfDigits y := by
    have hjalali := h.jalali
    omega
  unfold parseJalaliStr
  rw [if_neg h.ne_empty]
  dsimp only
  rw [h.toEnDigits_eq, Text.strip_of_forall_not hspace,
    Text.stripChar_eq_self (h.not_mem (by decide)), Text.stripChar_eq_self (h.not_mem (by decide)),
    Text.replaceChar_eq_self (h.not_mem (by decide)), hsplit, Option.bind_some, if_neg hyear]

end PlainDate

/-- The conversions of a calendar: one undoes the other, and they keep the order of days. -/
structure Jdatetime.Lawful (jd : Jdatetime) : Prop where
  fromgregorian_togregorian : ∀ j d, jd.togregorian j = some d → jd.fromgregorian d = some j
  le_iff : ∀ d d' j j', jd.fromgregorian d = some j → jd.fromgregorian d' = some j' →
    (j.le j' = true ↔ d.toOrdinal ≤ d'.toOrdinal)

section Plain

variable {T : EligibilityTables} {jd : Jdatetime} {comp : KyorugiSettings} {p : PlayerProfile}
  {text : String} {y m d : List Char}

/-- A day that the list and the page read alike is in the window for both or for neither. -/
theorem AgeCategory.coversYmd_iff_coversStr {cat : AgeCategory} {j fromJ toJ : Jalali} {bd : Date}
    (hjd : jd.Lawful) (hymd : parseJalaliYmd jd text = some bd)
    (hstr : parseJalaliStr jd text = some j) (hday : jd.togregorian j = some bd)
    (hfrom : jd.fromgregorian cat.fromDate = some fromJ)
    (hto : jd.fromgregorian cat.toDate = some toJ) :
    cat.CoversYmd jd text ↔ cat.CoversStr jd text := by
  have hj : jd.fromgregorian bd = some j := hjd.fromgregorian_togregorian j bd hday
  have hlower := hjd.le_iff _ _ _ _ hfrom hj
  have hupper := hjd.le_iff _ _ _ _ hj hto
  simp only [AgeCategory.CoversYmd, AgeCategory.CoversStr, AgeCategory.covers, hymd, hstr, hfrom,
    hto, Option.some.injEq, exists_eq_left', exists_and_left, Bool.and_eq_true, decide_eq_true_eq,
    hlower, hupper]

theorem ageRefusals_of_plain {j : Jalali} {bd : Date} (hjd : jd.Lawful)
    (htext : PlainDate p.birthDate y m d)
    (hdate : jd.date (Text.intOfDigits y) (Text.intOfDigits m) (Text.intOfDigits d) = some j)
    (hday : jd.togregorian j = some bd)
    (hwindow : ∀ cat, T.ageCategory comp.ageCategory = some cat →
      jd.fromgregorian cat.fromDate ≠ none ∧ jd.fromgregorian cat.toDate ≠ none) :
    ¬(T.ageRefusals jd comp.ageCategory p.birthDate).first ∧
      ¬(T.ageRefusals jd comp.ageCategory p.birthDate).second := by
  have hymd : parseJalaliYmd jd p.birthDate = some bd := by
    rw [htext.parseJalaliYmd_eq, hdate, Option.bind_some, hday]
  have hstr : parseJalaliStr jd p.birthDate = some j := by
    rw [htext.parseJalaliStr_eq, hdate]
  have hcovers : ∀ cat, T.ageCategory comp.ageCategory = some cat →
      (cat.CoversYmd jd p.birthDate ↔ cat.CoversStr jd p.birthDate) := by
    intro cat hcat
    obtain ⟨hfrom, hto⟩ := hwindow cat hcat
    obtain ⟨fromJ, hfrom⟩ := Option.ne_none_iff_exists'.mp hfrom
    obtain ⟨toJ, hto⟩ := Option.ne_none_iff_exists'.mp hto
    exact AgeCategory.coversYmd_iff_coversStr hjd hymd hstr hday hfrom hto
  constructor
  · rintro (⟨-, hnone⟩ | ⟨cat, hcat, hlist, hpage⟩)
    · rw [hymd] at hnone
      cases hnone
    · exact hlist ((hcovers cat hcat).mpr hpage)
  · rintro ⟨cat, hcat, hlist, hpage⟩
    exact hpage ((hcovers cat hcat).mp hlist)

/-- The choices of `gender` are texts that the list asks for. -/
theorem asksFor_self {comp : KyorugiCompetition}
    (h : comp.gender = "male" ∨ comp.gender = "female") : AsksFor comp comp.gender := by
  refine ⟨?_, h⟩
  unfold requiredGenderForComp
  rcases h with h | h
  · rw [h]
    decide +kernel
  · rw [h]
    decide +kernel

/-- **In the usual case** the list and the page say the same: genders are of the choices of the
columns, every belt group has a belt that is understood, the birth date is plain, and not a
white belt meets the lower level. -/
theorem pagesAgree_of_plain {j : Jalali} {bd : Date} (hjd : jd.Lawful)
    (hcomp : comp.competition.gender = "male" ∨ comp.competition.gender = "female")
    (hgender : p.gender = "male" ∨ p.gender = "female")
    (hgroups : ∀ g ∈ comp.belts.groups, ∃ name ∈ g.belts, normBelt name ≠ none)
    (hwhite : comp.belts.level = "yellow_blue" → playerBeltCodeFromProfile p ≠ some .white)
    (htext : PlainDate p.birthDate y m d)
    (hdate : jd.date (Text.intOfDigits y) (Text.intOfDigits m) (Text.intOfDigits d) = some j)
    (hday : jd.togregorian j = some bd)
    (hwindow : ∀ cat, T.ageCategory comp.ageCategory = some cat →
      jd.fromgregorian cat.fromDate ≠ none ∧ jd.fromgregorian cat.toDate ≠ none) :
    PagesAgree T jd comp p := by
  -- a refusal on one page alone asks for a text that one of the two readings does not know
  refine agree_of_forall fun test => ?_
  cases test with
  | gender =>
    have hself : normGender p.gender = p.gender := by
      rcases hgender with h | h
      · rw [h, normGender_male_female.1]
      · rw [h, normGender_male_female.2]
    constructor
    · rintro ⟨g, -, hstored, hsame⟩
      exact hstored (hself.symm.trans hsame)
    · rintro ⟨hnobody, -⟩
      exact hnobody _ (asksFor_self hcomp)
  | belt =>
    constructor
    · rintro ⟨hnone, g, hg, -⟩
      obtain ⟨name, hname, hcode⟩ := hgroups g hg
      obtain ⟨c, hc⟩ := Option.ne_none_iff_exists'.mp hcode
      exact hnone c ⟨g, hg, name, hname, hc⟩
    · rintro ⟨-, hlevel, hcode⟩
      exact hwhite hlevel hcode
  | age => exact ageRefusals_of_plain hjd htext hdate hday hwindow

end Plain

end Tkdchb
