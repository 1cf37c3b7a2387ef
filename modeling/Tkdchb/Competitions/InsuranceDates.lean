import Tkdchb.Competitions.Admission

/-!
# The date of the insurance

Every way to register reads the date of the insurance with a parser of its own. The coach
path and poomsae match the whole text after cutting off a time; the kyorugi path of a player
splits the text and reads the first three parts as numbers. So the parsers differ on a date
with a time, and on parts that are numbers in another shape.

## Main definitions

* `parseInsuranceDate`, `toGregFromStrJalali` — the parsers of the coach and of the player
* `ReadAlike` — all three parsers read the same date, or none does
* `DatedAndTimed`, `LooselyWritten` — the texts that one kind of parser takes for a date

## Main results

* `splitYmd_of_match`, `splitYmd_of_timed` — what splitting makes of a text that is matched
* `read_alike_iff` — when all parsers read the same
-/

namespace Tkdchb

open Calendar

/-! ### The parsers -/

/-- `_parse_insurance_date` of a text. -/
def parseInsuranceDate (jd : Jdatetime) (v : String) : Option Date :=
  let t := (Text.strip v).toList.takeWhile (· ≠ 'T')
  let t := toEnDigits (String.ofList (t.filter fun c => !isMark c))
  (matchYmd (Text.replaceChar '-' '/' t).toList).bind fun (y, m, d) => dateOfYmd jd y m d

/-- `_to_greg_from_str_jalali` -/
def toGregFromStrJalali (jd : Jdatetime) (s : String) : Option Date :=
  if s = "" then none
  else
    let t := String.ofList (s.toList.filter fun c => !isMark c)
    let t := Text.replaceChar '-' '/' (Text.strip (toEnDigits t))
    (splitYmd t).bind fun (y, m, d) =>
      if 1700 ≤ y then dateOfInts y m d else (jd.date y m d).bind jd.togregorian

/-- All parsers refuse the text, or all read the same date. -/
def ReadAlike (jd : Jdatetime) (s : String) : Prop :=
  toGregFromStrJalali jd s = parseInsuranceDate jd s ∧
    toIsoFromJalaliOrIso jd s = ((parseInsuranceDate jd s).map Date.isoformat).getD ""

instance (jd : Jdatetime) (s : String) : Decidable (ReadAlike jd s) :=
  inferInstanceAs (Decidable (_ ∧ _))

/-! ### The texts -/

/-- One separator, and Latin digits. -/
def plainChar (c : Char) : Char := if digitMap.toLatin c = '-' then '/' else digitMap.toLatin c

/-- The text that is matched: without a time and without direction marks. -/
def matchedText (s : String) : List Char :=
  (((Text.strip s).toList.takeWhile (· ≠ 'T')).filter fun c => !isMark c).map plainChar

/-- The text that is split, with whatever follows the date. -/
def splitText (s : String) : String :=
  Text.replaceChar '-' '/'
    (Text.strip (toEnDigits (String.ofList (s.toList.filter fun c => !isMark c))))

/-- A date with a time after it. -/
def DatedAndTimed (s : String) (y m d : ℕ) : Prop :=
  'T' ∈ (Text.strip s).toList ∧ matchYmd (matchedText s) = some (y, m, d)

/-- Three numbers that are no date of four, two and two digits. -/
def LooselyWritten (s : String) (y m d : ℤ) : Prop :=
  matchYmd (matchedText s) = none ∧ splitYmd (splitText s) = some (y, m, d)

/-! ### What splitting makes of a matched text -/

section Split

variable {t : List Char} {y m d : ℕ}

/-- A text that is matched has three runs of digits. -/
theorem exists_of_matchYmd (h : matchYmd t = some (y, m, d)) :
    ∃ ys ms ds, t = ys ++ '/' :: (ms ++ '/' :: ds) ∧
      (∀ part ∈ [ys, ms, ds], part ≠ [] ∧ ∀ c ∈ part, Text.isDecimal c = true) ∧
      (y, m, d) = (Text.intOfDigits ys, Text.intOfDigits ms, Text.intOfDigits ds) := by
  unfold matchYmd at h
  split at h
  · next ys ms ds hsplit =>
    split_ifs at h with hshape
    have ht : t = ys ++ '/' :: (ms ++ '/' :: ds) := by
      rw [← @List.intercalate_splitOn _ t _ _ '/', hsplit]
      simp [List.intercalate]
    simp only [Bool.and_eq_true, Bool.or_eq_true, beq_iff_eq, List.all_eq_true,
      List.mem_append] at hshape
    obtain ⟨⟨⟨hdecimal, hy⟩, hm⟩, hd⟩ := hshape
    refine ⟨ys, ms, ds, ht, ?_, (Option.some.inj h).symm⟩
    intro part hpart
    simp only [List.mem_cons, List.not_mem_nil, or_false] at hpart
    rcases hpart with rfl | rfl | rfl
    · refine ⟨?_, fun c hc => hdecimal c (.inl (.inl hc))⟩
      rintro rfl
      cases hy
    · refine ⟨?_, fun c hc => hdecimal c (.inl (.inr hc))⟩
      rintro rfl
      simp at hm
    · refine ⟨?_, fun c hc => hdecimal c (.inr hc)⟩
      rintro rfl
      simp at hd
  · cases h

theorem slash_not_mem_of_decimals {part : List Char} (h : ∀ c ∈ part, Text.isDecimal c = true) :
    '/' ∉ part := by
  intro hmem
  have hdecimal := h '/' hmem
  revert hdecimal
  decide

/-- The numbers of a text that is matched. -/
theorem splitYmd_of_match (h : matchYmd t = some (y, m, d)) :
    splitYmd (String.ofList t) = some ((y : ℤ), (m : ℤ), (d : ℤ)) := by
  obtain ⟨ys, ms, ds, rfl, hparts, heq⟩ := exists_of_matchYmd h
  simp only [Prod.mk.injEq] at heq
  obtain ⟨rfl, rfl, rfl⟩ := heq
  simp only [List.forall_mem_cons, List.not_mem_nil, false_imp_iff, implies_true,
    and_true] at hparts
  obtain ⟨⟨hy, hydec⟩, ⟨hm, hmdec⟩, hd, hddec⟩ := hparts
  unfold splitYmd
  rw [String.toList_ofList,
    List.splitOn_append_cons_self_of_not_mem (slash_not_mem_of_decimals hydec),
    List.splitOn_append_cons_self_of_not_mem (slash_not_mem_of_decimals hmdec),
    List.splitOn_eq_singleton (slash_not_mem_of_decimals hddec)]
  dsimp only [List.take]
  rw [Text.int?_of_decimals hy hydec, Text.int?_of_decimals hm hmdec,
    Text.int?_of_decimals hd hddec]
  rfl

/-- With a time after the day, the third part is no number. -/
theorem splitYmd_of_timed (h : matchYmd t = some (y, m, d)) (w : List Char) :
    splitYmd (String.ofList (t ++ 'T' :: w)) = none := by
  obtain ⟨ys, ms, ds, rfl, hparts, -⟩ := exists_of_matchYmd h
  simp only [List.forall_mem_cons, List.not_mem_nil, false_imp_iff, implies_true,
    and_true] at hparts
  obtain ⟨⟨hy, hydec⟩, ⟨hm, hmdec⟩, hd, hddec⟩ := hparts
  -- the third part ends at the next separator, if there is one
  obtain ⟨part, rest, hpart, htime⟩ : ∃ part rest,
      (ds ++ 'T' :: w).splitOn '/' = part :: rest ∧ 'T' ∈ part := by
    by_cases hslash : '/' ∈ w
    · obtain ⟨u, v, rfl, hu⟩ := List.eq_append_cons_of_mem hslash
      have hnot : '/' ∉ ds ++ 'T' :: u := by
        simp [slash_not_mem_of_decimals hddec, hu]
      refine ⟨ds ++ 'T' :: u, v.splitOn '/', ?_, by simp⟩
      rw [← List.splitOn_append_cons_self_of_not_mem hnot, List.append_assoc, List.cons_append]
    · have hnot : '/' ∉ ds ++ 'T' :: w := by
        simp [slash_not_mem_of_decimals hddec, hslash]
      exact ⟨_, [], List.splitOn_eq_singleton hnot, by simp⟩
  have hnone : Text.int? (String.ofList part) = none := by
    apply Text.int?_eq_none (c := 'T') _ (by decide) (by decide) (by decide)
    rwa [String.toList_ofList]
  unfold splitYmd
  rw [String.toList_ofList, List.append_assoc, List.cons_append, List.append_assoc,
    List.cons_append,
    List.splitOn_append_cons_self_of_not_mem (slash_not_mem_of_decimals hydec),
    List.splitOn_append_cons_self_of_not_mem (slash_not_mem_of_decimals hmdec), hpart]
  dsimp only [List.take]
  rw [Text.int?_of_decimals hy hydec, Text.int?_of_decimals hm hmdec, hnone]
  rfl

end Split

/-! ### The texts that are matched and split -/

section Texts

variable {s : String}

theorem isSpace_plainChar (c : Char) : Text.isSpace (plainChar c) = Text.isSpace c := by
  have hlatin := Digits.Scripts.isSpace_toLatin notBlank_digitMap c
  unfold plainChar
  split_ifs with hdash
  · rw [← hlatin, hdash]
    decide
  · exact hlatin

theorem toList_replaceChar_toEnDigits (l : List Char) :
    (Text.replaceChar '-' '/' (toEnDigits (String.ofList l))).toList = l.map plainChar := by
  rw [Text.replaceChar, toEnDigits, Digits.Scripts.translate, String.toList_ofList,
    String.toList_ofList, String.toList_ofList, List.map_map]
  rfl

/-- What is split is what is left of the stripped text, stripped once more. -/
theorem splitText_eq (s : String) :
    splitText s = String.ofList
      ((Text.strip (String.ofList ((Text.strip s).toList.filter fun c => !isMark c))).toList.map
        plainChar) := by
  unfold splitText
  rw [toEnDigits, Digits.Scripts.strip_translate notBlank_digitMap, Text.strip_filter,
    ← String.toList_inj, String.toList_ofList]
  exact toList_replaceChar_toEnDigits _ ▸ by rw [String.ofList_toList]; rfl

theorem forall_not_isSpace_of_match {l : List Char} {y m d : ℕ}
    (h : matchYmd (l.map plainChar) = some (y, m, d)) : ∀ c ∈ l, Text.isSpace c = false := by
  intro c hc
  rw [← isSpace_plainChar]
  have hmem : plainChar c ∈ l.map plainChar := List.mem_map_of_mem hc
  obtain ⟨ys, ms, ds, ht, hparts, -⟩ := exists_of_matchYmd h
  have hdecimal : ∀ part ∈ [ys, ms, ds], ∀ c ∈ part, Text.isSpace c = false :=
    fun part hpart c hc => Text.isSpace_of_isDecimal ((hparts part hpart).2 c hc)
  simp only [List.forall_mem_cons] at hdecimal
  rw [ht] at hmem
  simp only [List.mem_append, List.mem_cons] at hmem
  rcases hmem with hy | hslash | hm | hslash | hd
  · exact hdecimal.1 _ hy
  · rw [hslash]
    decide
  · exact hdecimal.2.1 _ hm
  · rw [hslash]
    decide
  · exact hdecimal.2.2.1 _ hd

/-- **Without a time** a text that is matched is split into the same numbers. -/
theorem splitYmd_of_not_timed {y m d : ℕ} (htime : 'T' ∉ (Text.strip s).toList)
    (h : matchYmd (matchedText s) = some (y, m, d)) :
    splitYmd (splitText s) = some ((y : ℤ), (m : ℤ), (d : ℤ)) := by
  have hwhole : (Text.strip s).toList.takeWhile (· ≠ 'T') = (Text.strip s).toList := by
    rw [List.takeWhile_eq_self_iff]
    intro c hc
    exact decide_eq_true fun heq => htime (heq ▸ hc)
  rw [matchedText, hwhole] at h
  have hblank := forall_not_isSpace_of_match h
  rw [splitText_eq, Text.strip_of_forall_not (by rwa [String.toList_ofList]),
    String.toList_ofList]
  exact splitYmd_of_match h

/-- **With a time** it is not. -/
theorem splitYmd_of_dated {y m d : ℕ} (h : DatedAndTimed s y m d) :
    splitYmd (splitText s) = none := by
  obtain ⟨htime, hmatch⟩ := h
  obtain ⟨u, v, hs, hu⟩ := List.eq_append_cons_of_mem htime
  have hfront : (u ++ 'T' :: v).takeWhile (· ≠ 'T') = u := by
    have hbefore : ∀ c ∈ u, decide (c ≠ 'T') = true := by
      intro c hc
      refine decide_eq_true ?_
      rintro rfl
      exact hu hc
    rw [List.takeWhile_append_of_pos hbefore, List.takeWhile_cons_of_neg (by decide),
      List.append_nil]
  have hmark : ('T' :: v).filter (fun c => !isMark c) = 'T' :: v.filter fun c => !isMark c :=
    List.filter_cons_of_pos (by decide)
  rw [matchedText, hs, hfront] at hmatch
  obtain ⟨w, hw⟩ := Text.exists_strip_append_cons (v := v.filter fun c => !isMark c) (c := 'T')
    (forall_not_isSpace_of_match hmatch) (by decide)
  rw [splitText_eq, hs, List.filter_append, hmark, hw, List.map_append,
    List.map_cons]
  exact splitYmd_of_timed hmatch _

end Texts

/-! ### When the parsers agree -/

section Parsers

variable {jd : Jdatetime} {s : String}

theorem parseInsuranceDate_eq :
    parseInsuranceDate jd s =
      (matchYmd (matchedText s)).bind fun (y, m, d) => dateOfYmd jd y m d := by
  unfold parseInsuranceDate
  dsimp only
  rw [toList_replaceChar_toEnDigits]
  rfl

/-- **The coach path and poomsae read the same.** -/
theorem toIsoFromJalaliOrIso_eq :
    toIsoFromJalaliOrIso jd s = ((parseInsuranceDate jd s).map Date.isoformat).getD "" := by
  unfold toIsoFromJalaliOrIso parseInsuranceDate
  dsimp only
  split
  · next g hg => rw [hg, Option.map_some, Option.getD_some]
  · next hg => rw [hg, Option.map_none, Option.getD_none]

theorem toGregFromStrJalali_eq :
    toGregFromStrJalali jd s =
      (splitYmd (splitText s)).bind fun (y, m, d) => dateOfYmd jd y m d := by
  unfold toGregFromStrJalali
  split_ifs with hempty
  · subst hempty
    rfl
  · apply Option.bind_congr
    rintro ⟨y, m, d⟩ -
    dsimp only [dateOfYmd]
    split_ifs with hnew hold
    · omega
    · rfl
    · rfl
    · omega

end Parsers

/-- **When all parsers read the same**: unless a date that is only matched, or only split, is a
day of the calendar. -/
theorem read_alike_iff (jd : Jdatetime) (s : String) :
    ReadAlike jd s ↔
      (∀ y m d, DatedAndTimed s y m d → dateOfYmd jd y m d = none) ∧
        ∀ y m d, LooselyWritten s y m d → dateOfYmd jd y m d = none := by
  rw [ReadAlike, and_iff_left toIsoFromJalaliOrIso_eq, toGregFromStrJalali_eq,
    parseInsuranceDate_eq]
  cases hmatch : matchYmd (matchedText s) with
  | none =>
    rw [Option.bind_none, Option.bind_eq_none_iff]
    constructor
    · intro h
      refine ⟨fun y m d hdated => ?_, fun y m d hloose => h (y, m, d) hloose.2⟩
      rw [hdated.2] at hmatch
      cases hmatch
    · rintro ⟨-, h⟩ ⟨y, m, d⟩ hsplit
      exact h y m d ⟨hmatch, hsplit⟩
  | some x =>
    obtain ⟨y, m, d⟩ := x
    have hloose : ∀ y m d, ¬LooselyWritten s y m d := by
      rintro y m d ⟨hnone, -⟩
      rw [hmatch] at hnone
      cases hnone
    have hright : (∀ y m d, LooselyWritten s y m d → dateOfYmd jd y m d = none) :=
      fun y m d h => absurd h (hloose y m d)
    rw [and_iff_left hright, Option.bind_some]
    by_cases htime : 'T' ∈ (Text.strip s).toList
    · have hdated : DatedAndTimed s y m d := ⟨htime, hmatch⟩
      rw [splitYmd_of_dated hdated, Option.bind_none, eq_comm]
      constructor
      · rintro h y' m' d' ⟨-, hmatch'⟩
        cases hmatch.symm.trans hmatch'
        exact h
      · intro h
        exact h y m d hdated
    · rw [splitYmd_of_not_timed htime hmatch, Option.bind_some]
      exact iff_of_true rfl fun y m d h => absurd h.1 htime

/-- A date of four, two and two digits without a time is read alike by all. -/
theorem readAlike_of_match {jd : Jdatetime} {s : String} {y m d : ℕ}
    (htime : 'T' ∉ (Text.strip s).toList) (h : matchYmd (matchedText s) = some (y, m, d)) :
    ReadAlike jd s := by
  rw [read_alike_iff]
  refine ⟨fun _ _ _ hdated => absurd hdated.1 htime, fun _ _ _ hloose => ?_⟩
  rw [hloose.1] at h
  cases h

/-- A date with its time, as a browser sends it. The path of a player alone refuses it. -/
theorem dated_and_timed_read_differently :
    ¬ReadAlike newYear1390 "2025-03-01T10:30:00Z" ∧
      parseInsuranceDate newYear1390 "2025-03-01T10:30:00Z" = some ⟨2025, 3, 1, by decide⟩ ∧
      toIsoFromJalaliOrIso newYear1390 "2025-03-01T10:30:00Z" = "2025-03-01" ∧
      toGregFromStrJalali newYear1390 "2025-03-01T10:30:00Z" = none := by
  decide +kernel

example : ReadAlike newYear1390 "\u200e۱۳۹۰-۱-۱ " := by decide +kernel

example : ¬ReadAlike newYear1390 "1390/1/1/5" := by decide +kernel

end Tkdchb
