import Tkdchb.Competitions.Eligibility
import Tkdchb.Draws.Numbering
import Tkdchb.Lib.Decimals
import Tkdchb.Lib.FirstFit

/-!
# The weight category of a declared weight

A coach declares the weights of his students, a player his own. The two handlers read the
number with different readers and compare it with different bands: a coach's student needs
the lower bound itself, a player alone has the tolerance there too. One takes the category
with the least lower bound, the other any that fits.

## Main definitions

* `WeightSettings` — what a competition says about weights
* `coachWeightCategory`, `selfWeightCategory` — the category each handler assigns
* `SameCategory` — they assign the same, or both none
* `FitsOnce` — no category fits, or one is the only one

## Main results

* `sameCategory_iff` — when the category does not depend on who registers
* `sameCategory_iff_of_plain` — in the usual case: no lower tolerance and no overlap
-/

namespace Tkdchb

/-! ### Readers and bands -/

structure WeightCategory where
  gender : String
  minWeight : ℚ
  maxWeight : ℚ
  tolerance : ℚ
  deriving DecidableEq, Repr

/-- `includes_weight` -/
def WeightCategory.includesWeight (wc : WeightCategory) (weight : ℚ) : Bool :=
  decide (wc.minWeight ≤ weight) && decide (weight ≤ wc.maxWeight + wc.tolerance)

/-- `_wc_includes` -/
def wcIncludes (wc : WeightCategory) (val : ℚ) : Bool :=
  decide (wc.minWeight - wc.tolerance ≤ val) && decide (val ≤ wc.maxWeight + wc.tolerance)

/-- `_gender_ok_for_wc` -/
def genderOkForWc (comp : KyorugiCompetition) (wcGender : String) : Bool :=
  let rg := normGender comp.gender
  let wg := normGender wcGender
  if rg = "" ∨ rg = "both" then true else if wg = "" then true else wg == rg

/-- `float(str(x).replace(",", "."))`, or zero if that fails. -/
def coachWeight (declared : String) : ℚ :=
  (Text.float? (Text.replaceChar ',' '.' declared)).getD 0

/-- `t[:first + 1] + t[first + 1:].replace(".", "")` -/
def dropLaterPoints (t : List Char) : List Char :=
  t.takeWhile (· ≠ '.') ++ '.' :: (t.dropWhile (· ≠ '.')).tail.filter (· ≠ '.')

/-- `_parse_weight_to_float` -/
def parseWeightToFloat (raw : String) : Option ℚ :=
  let t := ['/', '٫', ',', '،'].foldl (fun t ch => Text.replaceChar ch '.' t) (toEnDigits raw)
  let t := t.toList.filter fun ch => Text.isDigit ch || ch == '.'
  Text.float? (String.ofList (if 1 < t.count '.' then dropLaterPoints t else t))

/-! ### The handlers -/

/-- What a competition says about weights. -/
structure WeightSettings where
  competition : KyorugiCompetition
  matAssignments : List MatAssignment
  weightCategories : Table WeightCategory

/-- The categories on the mats, which are those of `allowed_weight_ids` and of
`_collect_comp_weights`. -/
def WeightSettings.categories (comp : WeightSettings) : List (ℕ × WeightCategory) :=
  (comp.weightCategories.select fun _ => true).filter fun x =>
    comp.matAssignments.any fun mat => mat.weights.contains x.1

/-- `_find_weight_category_for`, among the allowed categories in the order in which the
database has them. -/
def findWeightCategoryFor (rows : List (ℕ × WeightCategory)) (gender : Option String)
    (weight : ℚ) : Option (ℕ × WeightCategory) :=
  FirstFit.leastFit (fun x => x.2.minWeight) (fun x => some x.2.gender == gender)
    (fun x => x.2.includesWeight weight) rows

/-- `gender_for_wc` -/
def genderForWc (comp : KyorugiCompetition) (playerGender : String) : Option String :=
  ((requiredGenderForComp comp).filter (· ≠ "")).or (genderNorm playerGender)

/-- The category `CoachRegisterStudentsView.post` assigns. -/
def coachWeightCategory (comp : WeightSettings) (rows : List (ℕ × WeightCategory))
    (playerGender declared : String) : Option (ℕ × WeightCategory) :=
  let weight := coachWeight declared
  if weight ≤ 0 then none
  else findWeightCategoryFor rows (genderForWc comp.competition playerGender) weight

/-- The category `CompetitionRegistrationSerializer.validate` assigns, with the order in which
the set is gone through. -/
def selfWeightCategory (comp : WeightSettings) (order : List (ℕ × WeightCategory))
    (declared : String) : Option (ℕ × WeightCategory) :=
  (parseWeightToFloat declared).bind fun w =>
    order.find? fun x => genderOkForWc comp.competition x.2.gender && wcIncludes x.2 w

/-- Both handlers reject the weight, or assign the same category, in whatever orders the
database and the set have the categories. -/
def SameCategory (comp : WeightSettings) (playerGender declared : String) : Prop :=
  ∀ rows order : List (ℕ × WeightCategory), rows.Perm comp.categories →
    order.Perm comp.categories →
      coachWeightCategory comp rows playerGender declared = selfWeightCategory comp order declared

/-! ### When they agree -/

/-- The category fits a coach's student. -/
def FitsStudent (comp : WeightSettings) (playerGender declared : String)
    (wc : WeightCategory) : Prop :=
  0 < coachWeight declared ∧ some wc.gender = genderForWc comp.competition playerGender ∧
    wc.minWeight ≤ coachWeight declared ∧ coachWeight declared ≤ wc.maxWeight + wc.tolerance

/-- The category fits a player who registers alone. -/
def FitsAlone (comp : WeightSettings) (declared : String) (wc : WeightCategory) : Prop :=
  ∃ w, parseWeightToFloat declared = some w ∧
    genderOkForWc comp.competition wc.gender = true ∧
      wc.minWeight - wc.tolerance ≤ w ∧ w ≤ wc.maxWeight + wc.tolerance

/-- No category fits either way, or exactly one fits alone, it fits a student as well, and
all others that fit a student have a larger lower bound. -/
def FitsOnce (comp : WeightSettings) (playerGender declared : String) : Prop :=
  (∀ x ∈ comp.categories, ¬FitsStudent comp playerGender declared x.2 ∧
      ¬FitsAlone comp declared x.2) ∨
    ∃ x ∈ comp.categories, FitsStudent comp playerGender declared x.2 ∧
      FitsAlone comp declared x.2 ∧ ∀ y ∈ comp.categories, (FitsAlone comp declared y.2 → y = x) ∧
        (FitsStudent comp playerGender declared y.2 → y = x ∨ x.2.minWeight < y.2.minWeight)

section Agree

variable {comp : WeightSettings} {playerGender declared : String}

/-- The query of the coach's handler, with the test for a positive weight. -/
def studentQuery (comp : WeightSettings) (playerGender declared : String)
    (x : ℕ × WeightCategory) : Bool :=
  decide (0 < coachWeight declared) &&
    some x.2.gender == genderForWc comp.competition playerGender

/-- The test of the handler for a player alone. -/
def aloneTest (comp : WeightSettings) (declared : String) (x : ℕ × WeightCategory) : Bool :=
  (parseWeightToFloat declared).any fun w =>
    genderOkForWc comp.competition x.2.gender && wcIncludes x.2 w

theorem coachWeightCategory_eq (rows : List (ℕ × WeightCategory)) :
    coachWeightCategory comp rows playerGender declared =
      FirstFit.leastFit (fun x => x.2.minWeight) (studentQuery comp playerGender declared)
        (fun x => x.2.includesWeight (coachWeight declared)) rows := by
  unfold coachWeightCategory studentQuery
  generalize coachWeight declared = weight
  by_cases hpos : 0 < weight
  · simp only [not_le.mpr hpos, if_false, hpos, decide_true, Bool.true_and, findWeightCategoryFor]
  · simp only [not_lt.mp hpos, if_true, hpos, decide_false, Bool.false_and]
    rw [eq_comm, FirstFit.leastFit_eq_none_iff]
    exact fun x _ hquery => absurd hquery Bool.false_ne_true

theorem selfWeightCategory_eq (order : List (ℕ × WeightCategory)) :
    selfWeightCategory comp order declared = order.find? (aloneTest comp declared) := by
  unfold selfWeightCategory aloneTest
  generalize parseWeightToFloat declared = parsed
  cases parsed with
  | none => exact (List.find?_eq_none.mpr fun x _ => Bool.false_ne_true).symm
  | some w => simp only [Option.bind_some, Option.any_some]

theorem fitsStudent_iff {x : ℕ × WeightCategory} :
    (studentQuery comp playerGender declared x && x.2.includesWeight (coachWeight declared)) = true ↔
      FitsStudent comp playerGender declared x.2 := by
  simp only [studentQuery, WeightCategory.includesWeight, FitsStudent, Bool.and_eq_true,
    decide_eq_true_eq, beq_iff_eq, and_assoc]

theorem fitsAlone_iff {x : ℕ × WeightCategory} :
    aloneTest comp declared x = true ↔ FitsAlone comp declared x.2 := by
  simp only [aloneTest, wcIncludes, FitsAlone, Option.any_eq_true, Bool.and_eq_true,
    decide_eq_true_eq]

/-- **The category does not depend on who registers** exactly if no category fits, or one
fits alone and it is the first that fits a student. -/
theorem sameCategory_iff (comp : WeightSettings) (playerGender declared : String) :
    SameCategory comp playerGender declared ↔ FitsOnce comp playerGender declared := by
  unfold SameCategory
  simp only [coachWeightCategory_eq, selfWeightCategory_eq]
  refine FirstFit.agree_iff.trans ?_
  simp only [← Bool.not_eq_true, fitsStudent_iff, fitsAlone_iff]
  exact Iff.rfl

/-! In the usual case both readers read the same number, and a category has the gender of the
competition or not. -/

/-- Latin digits with at most one point. -/
def Plain (declared : String) : Prop :=
  (∀ c ∈ declared.toList, c.isDigit = true ∨ c = '.') ∧ declared.toList.count '.' ≤ 1

/-- Both readers read a plain number as `float` does. -/
theorem Plain.readers (h : Plain declared) :
    parseWeightToFloat declared = Text.float? declared ∧
      coachWeight declared = (Text.float? declared).getD 0 := by
  obtain ⟨hchars, hpoints⟩ := h
  have hlow : ∀ c ∈ declared.toList, c.toNat < 58 := by
    intro c hc
    rcases hchars c hc with hdigit | rfl
    · exact (Text.toNat_of_isDigit hdigit).2
    · decide
  have hnot : ∀ c : Char, c.isDigit = false → c ≠ '.' → c ∉ declared.toList := by
    intro c hdigit hpoint hc
    rcases hchars c hc with hdigit' | heq
    · rw [hdigit] at hdigit'
      cases hdigit'
    · exact hpoint heq
  have htranslate : toEnDigits declared = declared := by
    apply Digits.Scripts.translate_eq_self_iff.mpr
    intro c hc z hz hin
    have hhigh := digitMap.notLatin z hz
    have hlow' := hlow c hc
    have := hin.1
    omega
  have hkeep : (declared.toList.filter fun ch => Text.isDigit ch || ch == '.') =
      declared.toList := by
    rw [List.filter_eq_self]
    intro c hc
    rcases hchars c hc with hdigit | rfl
    · rw [Text.isDigit, Text.isDecimal_of_isDigit hdigit]
      rfl
    · rfl
  constructor
  · have hreplace : ['/', '٫', ',', '،'].foldl (fun t ch => Text.replaceChar ch '.' t) declared =
        declared := by
      simp only [List.foldl_cons, List.foldl_nil]
      rw [Text.replaceChar_eq_self (hnot '/' (by decide) (by decide)),
        Text.replaceChar_eq_self (hnot '٫' (by decide) (by decide)),
        Text.replaceChar_eq_self (hnot ',' (by decide) (by decide)),
        Text.replaceChar_eq_self (hnot '،' (by decide) (by decide))]
    rw [parseWeightToFloat, htranslate, hreplace]
    simp only [hkeep]
    rw [ if_neg (Nat.not_lt.mpr hpoints), String.ofList_toList]
  · rw [coachWeight, Text.replaceChar_eq_self (hnot ',' (by decide) (by decide))]

/-- **In the usual case** the category does not depend on who registers exactly if every
category that fits has its lower bound below the weight, and no two fit. -/
theorem sameCategory_iff_of_plain {w : ℚ} (hplain : Plain declared)
    (hread : Text.float? declared = some w) (hpos : 0 < w)
    (hgender : ∀ x ∈ comp.categories, genderOkForWc comp.competition x.2.gender = true ↔
      some x.2.gender = genderForWc comp.competition playerGender)
    (htolerance : ∀ x ∈ comp.categories, 0 ≤ x.2.tolerance) :
    SameCategory comp playerGender declared ↔
      ∀ x ∈ comp.categories, FitsAlone comp declared x.2 →
        x.2.minWeight ≤ w ∧ ∀ y ∈ comp.categories, FitsAlone comp declared y.2 → y = x := by
  obtain ⟨hself, hcoach⟩ := hplain.readers
  rw [hread, Option.getD_some] at hcoach
  rw [hread] at hself
  have hfits : ∀ x ∈ comp.categories, FitsStudent comp playerGender declared x.2 ↔
      FitsAlone comp declared x.2 ∧ x.2.minWeight ≤ w := by
    intro x hx
    have htol := htolerance x hx
    simp only [FitsStudent, FitsAlone, hself, hcoach, Option.some.injEq, exists_eq_left',
      hgender x hx, hpos, true_and]
    constructor
    · rintro ⟨hg, hlow, hhigh⟩
      exact ⟨⟨hg, (sub_le_self _ htol).trans hlow, hhigh⟩, hlow⟩
    · rintro ⟨⟨hg, -, hhigh⟩, hlow⟩
      exact ⟨hg, hlow, hhigh⟩
  rw [sameCategory_iff]
  constructor
  · rintro (hnone | ⟨x, hx, hstudent, -, honly⟩) y hy halone
    · exact absurd halone (hnone y hy).2
    · obtain rfl := (honly y hy).1 halone
      exact ⟨((hfits y hy).mp hstudent).2, fun z hz => (honly z hz).1⟩
  · intro h
    by_cases hsome : ∃ x ∈ comp.categories, FitsAlone comp declared x.2
    · obtain ⟨x, hx, halone⟩ := hsome
      obtain ⟨hlow, honly⟩ := h x hx halone
      refine .inr ⟨x, hx, (hfits x hx).mpr ⟨halone, hlow⟩, halone, fun y hy => ?_⟩
      exact ⟨honly y hy, fun hstudent => .inl (honly y hy ((hfits y hy).mp hstudent).1)⟩
    · left
      intro x hx
      have halone : ¬FitsAlone comp declared x.2 := fun halone => hsome ⟨x, hx, halone⟩
      exact ⟨fun hstudent => halone ((hfits x hx).mp hstudent).1, halone⟩

end Agree

/-- A competition for men with one weight category on its mat. -/
def oneWeightCategory : WeightSettings where
  competition := { (default : KyorugiCompetition) with gender := "male" }
  matAssignments := [⟨1, [1]⟩]
  weightCategories := Table.empty.insert ⟨"male", 50, 55, 1 / 5⟩

/-- A weight just below the category is refused to a coach, and not to the player. -/
theorem category_depends_on_who : ¬SameCategory oneWeightCategory "male" "49.9" := by
  intro hsame
  have heq := hsame oneWeightCategory.categories oneWeightCategory.categories (List.Perm.refl _)
    (List.Perm.refl _)
  have hcoach : coachWeightCategory oneWeightCategory oneWeightCategory.categories "male" "49.9" =
      none := by
    decide +kernel
  have hself : (selfWeightCategory oneWeightCategory oneWeightCategory.categories
      "49.9").isSome = true := by
    decide +kernel
  rw [← heq, hcoach] at hself
  cases hself

end Tkdchb
