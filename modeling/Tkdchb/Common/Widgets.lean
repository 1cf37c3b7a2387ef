import Tkdchb.Competitions.Eligibility
import Tkdchb.Lib.DateTimes

/-!
# The Persian date widgets

The admin forms show a date in the Jalali calendar and read it back. Both widgets show a value
with the same method, which prints a date and no time; the one for a date with a time expects
a date, a blank and a time. Both read their text as Jalali first, after turning dashes into
slashes, and only then as ISO. So a text that is shown is never read back as a date with a
time, and an ISO text is never read as ISO.

## Main definitions

* `WidgetCalendar` — what the widgets call of the calendar library
* `WidgetValue`, `toJalaliStr` — `_to_jalali_str`
* `toGregorianDate` — `_to_gregorian_date`
* `PersianDateTimeWidget.formatValue`, `PersianDateTimeWidget.valueFromDatadict`

## Main results

* `shown_time_never_read` — an unchanged form loses its date with a time
* `toGregorianDate_isoformat`, `PersianDateTimeWidget.valueFromDatadict_isoformat` — an ISO
  text is read as a Jalali date, or not at all
* `gregorian_iso_never_read` — an ISO text is never read as what it says
-/

namespace Tkdchb

open Calendar

/-! ### The calendar library -/

/-- `jdatetime.datetime`, naive and without a fraction of a second. -/
structure JalaliDateTime where
  date : Jalali
  hour : ℕ
  minute : ℕ
  second : ℕ
  deriving DecidableEq

/-- The calendar library as the widgets use it, with `none` for its exceptions. -/
structure WidgetCalendar extends Jdatetime where
  /-- `jdatetime.datetime(y, m, d, hh, mm, ss)` -/
  datetime : ℤ → ℤ → ℤ → ℤ → ℤ → ℤ → Option JalaliDateTime
  /-- `datetime.togregorian` -/
  datetimeTogregorian : JalaliDateTime → Option DateTime
  /-- `date.strftime` -/
  strftime : Jalali → String → String

namespace WidgetCalendar

/-- Each conversion undoes the other. -/
def MutuallyInverse (jd : WidgetCalendar) : Prop :=
  ∀ j d, jd.togregorian j = some d ↔ jd.fromgregorian d = some j

/-- The three numbers of a date, printed in decimal between slashes. -/
def IsDecimalYmd (j : Jalali) (text : String) : Prop :=
  ∃ y m d : List Char, text.toList = y ++ '/' :: (m ++ '/' :: d) ∧
    (∀ part ∈ [y, m, d], part ≠ [] ∧ ∀ c ∈ part, c.isDigit = true) ∧
    [y, m, d].map Text.intOfDigits = [j.year, j.month, j.day]

/-- `strftime("%Y/%m/%d")` prints year, month and day in decimal. -/
def PrintsDecimal (jd : WidgetCalendar) : Prop :=
  ∀ d j, jd.fromgregorian d = some j → IsDecimalYmd j (jd.strftime j "%Y/%m/%d")

/-- A Jalali year begins in the Gregorian year 621 later. -/
def InYear (y : ℤ) (g : Date) : Prop := (g.year : ℤ) = y + 621 ∨ (g.year : ℤ) = y + 622

instance (y : ℤ) (g : Date) : Decidable (InYear y g) := inferInstanceAs (Decidable (_ ∨ _))

/-- Both conversions to the Gregorian calendar find the year. -/
structure KeepsYears (jd : WidgetCalendar) : Prop where
  date : ∀ y m d j g, jd.date y m d = some j → jd.togregorian j = some g → InYear y g
  datetime : ∀ y m d hh mm ss j t, jd.datetime y m d hh mm ss = some j →
    jd.datetimeTogregorian j = some t → InYear y t.date

end WidgetCalendar

/-! ### Showing a value -/

/-- What a form gives a widget to show. -/
inductive WidgetValue where
  | none
  | text (s : String)
  | datetime (t : DateTime)
  | date (d : Date)

/-- `j = jdatetime.date.fromgregorian(date=value)`, printed; an exception leaves nothing. -/
def jalaliText (jd : WidgetCalendar) (value : Date) : String :=
  ((jd.fromgregorian value).map fun j => jd.strftime j "%Y/%m/%d").getD ""

/-- `_to_jalali_str` -/
def toJalaliStr (jd : WidgetCalendar) : WidgetValue → String
  | .none => ""
  | .text value =>
    if value = "" then ""
    else
      let v := Text.strip value
      if '/' ∈ v.toList ∧ '-' ∉ v.toList then v
      else
        match fromisoformat v with
        | some d => jalaliText jd d
        | none => v
  | .datetime value => jalaliText jd value.date
  | .date value => jalaliText jd value

/-! ### Reading a text -/

/-- `[int(x) for x in text.split(sep)]` of the first parts. -/
def ints (parts : List (List Char)) : Option (List ℤ) :=
  parts.mapM fun x => Text.int? (String.ofList x)

/-- `y, m, d = [int(x) for x in text.split("/")]` -/
def unpackYmd (text : List Char) : Option (ℤ × ℤ × ℤ) :=
  match ints (text.splitOn '/') with
  | some [y, m, d] => some (y, m, d)
  | _ => none

/-- `hh, mm = [int(x) for x in text.split(":")[:2]]` -/
def unpackHm (text : List Char) : Option (ℤ × ℤ) :=
  match ints ((text.splitOn ':').take 2) with
  | some [hh, mm] => some (hh, mm)
  | _ => none

/-- `_to_gregorian_date` -/
def toGregorianDate (jd : WidgetCalendar) (value : String) : Option Date :=
  if value = "" then none
  else
    let v := Text.replaceChar '-' '/' (Text.strip value)
    ((unpackYmd v.toList).bind fun (y, m, d) => (jd.date y m d).bind jd.togregorian).or
      (fromisoformat v)

namespace PersianDateTimeWidget

/-- `_BasePersianWidget.format_value`, which the widget inherits. -/
def formatValue (jd : WidgetCalendar) (value : WidgetValue) : String := toJalaliStr jd value

/-- `date_part, time_part = raw.split()`, read as Jalali. -/
def readJalali (jd : WidgetCalendar) (raw : List Char) : Option DateTime :=
  match Text.words raw with
  | [datePart, timePart] => do
    let (y, m, d) ← unpackYmd datePart
    let (hh, mm) ← unpackHm timePart
    (jd.datetime y m d hh mm 0).bind jd.datetimeTogregorian
  | _ => none

/-- `value_from_datadict` of the text that the form has under the name, if it has one. -/
def valueFromDatadict (jd : WidgetCalendar) (data : Option String) : Option DateTime :=
  let raw := Text.replaceChar '-' '/' (Text.strip (data.getD ""))
  if raw = "" then none else (readJalali jd raw.toList).or (datetimeFromisoformat raw)

end PersianDateTimeWidget

/-! ### Numbers between slashes -/

section Numbers

variable {y m d : List Char}

theorem slash_not_mem_of_digits {part : List Char} (h : ∀ c ∈ part, c.isDigit = true) :
    '/' ∉ part := by
  intro hmem
  have hdigit := h '/' hmem
  revert hdigit
  decide

/-- Three runs of digits between slashes are three numbers. -/
theorem unpackYmd_of_digits
    (h : ∀ part ∈ [y, m, d], part ≠ [] ∧ ∀ c ∈ part, c.isDigit = true) :
    unpackYmd (y ++ '/' :: (m ++ '/' :: d)) =
      some ((Text.intOfDigits y : ℤ), (Text.intOfDigits m : ℤ), (Text.intOfDigits d : ℤ)) := by
  simp only [List.forall_mem_cons, List.not_mem_nil, false_imp_iff, implies_true, and_true] at h
  obtain ⟨⟨hy, hydigits⟩, ⟨hm, hmdigits⟩, hd, hddigits⟩ := h
  have hints : ints [y, m, d] = some [(Text.intOfDigits y : ℤ), (Text.intOfDigits m : ℤ),
      (Text.intOfDigits d : ℤ)] := by
    unfold ints
    rw [List.mapM_cons, List.mapM_cons, List.mapM_cons, List.mapM_nil,
      Text.int?_of_digits hy hydigits, Text.int?_of_digits hm hmdigits,
      Text.int?_of_digits hd hddigits]
    rfl
  unfold unpackYmd
  rw [List.splitOn_append_cons_self_of_not_mem (slash_not_mem_of_digits hydigits),
    List.splitOn_append_cons_self_of_not_mem (slash_not_mem_of_digits hmdigits),
    List.splitOn_eq_singleton (slash_not_mem_of_digits hddigits), hints]

/-- There is no blank and no dash among them. -/
theorem notBlank_of_digits
    (h : ∀ part ∈ [y, m, d], part ≠ [] ∧ ∀ c ∈ part, c.isDigit = true) :
    ∀ c ∈ y ++ '/' :: (m ++ '/' :: d), Text.isSpace c = false ∧ c ≠ '-' := by
  have hdigit : ∀ c : Char, c.isDigit = true → Text.isSpace c = false ∧ c ≠ '-' := by
    intro c hc
    refine ⟨Text.isSpace_of_isDigit hc, ?_⟩
    rintro rfl
    revert hc
    decide
  simp only [List.forall_mem_cons, List.not_mem_nil, false_imp_iff, implies_true, and_true] at h
  obtain ⟨⟨-, hy⟩, ⟨-, hm⟩, -, hd⟩ := h
  simp only [List.forall_mem_append, List.forall_mem_cons]
  exact ⟨fun c hc => hdigit c (hy c hc), by decide, fun c hc => hdigit c (hm c hc), by decide,
    fun c hc => hdigit c (hd c hc)⟩

end Numbers

/-! ### What is shown is read again -/

namespace PersianDateTimeWidget

variable {jd : WidgetCalendar}

/-- Without a blank there is no time, and dashes are gone by then. -/
theorem valueFromDatadict_eq_none {data : String} (h : ∀ c ∈ data.toList, Text.isSpace c = false) :
    valueFromDatadict jd (some data) = none := by
  unfold valueFromDatadict
  dsimp only
  rw [Option.getD_some, Text.strip_of_forall_not h]
  split_ifs with hempty
  · rfl
  · have hword : Text.words (Text.replaceChar '-' '/' data).toList =
        [(Text.replaceChar '-' '/' data).toList] := by
      apply Text.words_of_forall_not
      · exact fun hnil => hempty (String.toList_eq_nil_iff.mp hnil)
      · rw [Text.toList_replaceChar]
        intro c hc
        obtain ⟨b, hb, rfl⟩ := List.mem_map.mp hc
        split_ifs
        · decide
        · exact h b hb
    have hread : readJalali jd (Text.replaceChar '-' '/' data).toList = none := by
      rw [readJalali, hword]
    rw [hread, Option.none_or,
      datetimeFromisoformat_eq_none (Text.not_mem_replaceChar (by decide) _)]

/-- The form gives back the date with a time that it has shown. -/
def SavedUnchanged (jd : WidgetCalendar) (t : DateTime) : Prop :=
  valueFromDatadict jd (some (formatValue jd (.datetime t))) = some t

instance (jd : WidgetCalendar) (t : DateTime) : Decidable (SavedUnchanged jd t) :=
  inferInstanceAs (Decidable (_ = _))

end PersianDateTimeWidget

/-- A text that is shown has no blanks. -/
theorem notBlank_jalaliText {jd : WidgetCalendar} (hjd : jd.PrintsDecimal) (d : Date) :
    ∀ c ∈ (jalaliText jd d).toList, Text.isSpace c = false := by
  unfold jalaliText
  cases hconv : jd.fromgregorian d with
  | none => exact fun c hc => absurd hc (by simp)
  | some j =>
    obtain ⟨ys, ms, ds, htext, hdigits, -⟩ := hjd d j hconv
    rw [Option.map_some, Option.getD_some, htext]
    exact fun c hc => (notBlank_of_digits hdigits c hc).1

/-- **A form that nobody touched loses every date with a time.** The text that is shown has no
time, so reading it fails. -/
theorem shown_time_never_read {jd : WidgetCalendar} (hjd : jd.PrintsDecimal) (t : DateTime) :
    PersianDateTimeWidget.valueFromDatadict jd
        (some (PersianDateTimeWidget.formatValue jd (.datetime t))) = none ∧
      ¬PersianDateTimeWidget.SavedUnchanged jd t := by
  have hnone : PersianDateTimeWidget.valueFromDatadict jd
      (some (PersianDateTimeWidget.formatValue jd (.datetime t))) = none :=
    PersianDateTimeWidget.valueFromDatadict_eq_none (notBlank_jalaliText hjd t.date)
  refine ⟨hnone, fun hsaved => ?_⟩
  rw [PersianDateTimeWidget.SavedUnchanged, hnone] at hsaved
  cases hsaved

/-! ### The fifth of March -/

/-- 5 March 2024, and the fifth day of the third month of the Jalali year 2024, each on the day
it is in the other calendar. -/
def marchFifth : WidgetCalendar where
  date y m d :=
    if (y, m, d) = (1402, 12, 15) then some ⟨1402, 12, 15⟩
    else if (y, m, d) = (2024, 3, 5) then some ⟨2024, 3, 5⟩ else none
  togregorian j :=
    if j = ⟨1402, 12, 15⟩ then some ⟨2024, 3, 5, by decide⟩
    else if j = ⟨2024, 3, 5⟩ then some ⟨2645, 5, 26, by decide⟩ else none
  fromgregorian d :=
    if d = ⟨2024, 3, 5, by decide⟩ then some ⟨1402, 12, 15⟩
    else if d = ⟨2645, 5, 26, by decide⟩ then some ⟨2024, 3, 5⟩ else none
  datetime y m d hh mm ss :=
    if (y, m, d) = (2024, 3, 5) then some ⟨⟨2024, 3, 5⟩, hh.toNat, mm.toNat, ss.toNat⟩ else none
  datetimeTogregorian j :=
    if j.date = ⟨2024, 3, 5⟩ then
      dateTime? ⟨2645, 5, 26, by decide⟩ j.hour j.minute j.second 0 none
    else none
  strftime j _ :=
    String.ofList (padded j.year 4 ++ '/' :: (padded j.month 2 ++ '/' :: padded j.day 2))

theorem mutuallyInverse_marchFifth : marchFifth.MutuallyInverse := by
  intro j d
  simp only [marchFifth]
  constructor <;> intro h <;> split_ifs at h with hfirst hsecond
  · rw [if_pos (Option.some.inj h).symm, hfirst]
  · rw [if_neg (by rw [← Option.some.inj h]; decide), if_pos (Option.some.inj h).symm, hsecond]
  · rw [if_pos (Option.some.inj h).symm, hfirst]
  · rw [if_neg (by rw [← Option.some.inj h]; decide), if_pos (Option.some.inj h).symm, hsecond]

theorem digits_padded (year month day : ℕ) :
    ∀ part ∈ [padded year 4, padded month 2, padded day 2],
      part ≠ [] ∧ ∀ c ∈ part, c.isDigit = true := by
  simp only [List.forall_mem_cons, List.not_mem_nil, false_imp_iff, implies_true, and_true]
  exact ⟨⟨padded_ne_nil, fun c hc => isDigit_of_mem_padded hc⟩,
    ⟨padded_ne_nil, fun c hc => isDigit_of_mem_padded hc⟩,
    padded_ne_nil, fun c hc => isDigit_of_mem_padded hc⟩

theorem printsDecimal_marchFifth : marchFifth.PrintsDecimal := by
  intro d j hconv
  simp only [marchFifth] at hconv
  split_ifs at hconv with hfirst hsecond
  · rw [← Option.some.inj hconv]
    exact ⟨padded 1402 4, padded 12 2, padded 15 2, by decide, digits_padded 1402 12 15, by decide⟩
  · rw [← Option.some.inj hconv]
    exact ⟨padded 2024 4, padded 3 2, padded 5 2, by decide, digits_padded 2024 3 5, by decide⟩

theorem keepsYears_marchFifth : marchFifth.KeepsYears where
  date y m d j g hj hg := by
    simp only [marchFifth] at hj hg
    split_ifs at hj with hfirst hsecond <;> cases hj <;> cases hg
    · rw [(Prod.mk.inj hfirst).1]
      decide
    · rw [(Prod.mk.inj hsecond).1]
      decide
  datetime y m d hh mm ss j t hj ht := by
    simp only [marchFifth] at hj ht
    split_ifs at hj with hymd
    cases hj
    rw [if_pos rfl, dateTime?] at ht
    split_ifs at ht with hvalid
    cases ht
    rw [(Prod.mk.inj hymd).1]
    exact .inl rfl

/-- Half past two in the afternoon of 5 March 2024. -/
def halfPastTwo : DateTime :=
  ⟨⟨2024, 3, 5, by decide⟩, 14, 30, 0, 0, none, by decide, by decide⟩

theorem shown_time_never_read_half_past_two :
    marchFifth.PrintsDecimal ∧
      PersianDateTimeWidget.formatValue marchFifth (.datetime halfPastTwo) = "1402/12/15" ∧
      PersianDateTimeWidget.valueFromDatadict marchFifth
        (some (PersianDateTimeWidget.formatValue marchFifth (.datetime halfPastTwo))) = none :=
  ⟨printsDecimal_marchFifth, by decide +kernel,
    (shown_time_never_read printsDecimal_marchFifth halfPastTwo).1⟩

/-- The conversions undo each other, and half past two is lost all the same. -/
theorem half_past_two_is_lost :
    marchFifth.MutuallyInverse ∧
      ¬PersianDateTimeWidget.SavedUnchanged marchFifth halfPastTwo :=
  ⟨mutuallyInverse_marchFifth, by decide +kernel⟩

/-! ### ISO text is read as Jalali -/

/-- The text of a date with slashes in it. -/
def slashed (d : Date) : List Char :=
  padded d.year 4 ++ '/' :: (padded d.month 2 ++ '/' :: padded d.day 2)

section Slashed

variable (d : Date)

theorem notBlank_slashed : ∀ c ∈ slashed d, Text.isSpace c = false :=
  fun c hc => (notBlank_of_digits (digits_padded _ _ _) c hc).1

theorem slashed_ne_nil : slashed d ≠ [] :=
  List.append_ne_nil_of_left_ne_nil padded_ne_nil _

/-- Digits are no dashes. -/
theorem map_slash_padded {n width : ℕ} :
    (padded n width).map (fun c => if c = '-' then '/' else c) = padded n width := by
  calc (padded n width).map (fun c => if c = '-' then '/' else c)
      = (padded n width).map id := List.map_congr_left fun c hc => if_neg fun hdash => by
        have hdigit := isDigit_of_mem_padded hc
        rw [hdash] at hdigit
        revert hdigit
        decide
    _ = padded n width := List.map_id _

theorem map_slash_isoformat :
    d.isoformat.toList.map (fun c => if c = '-' then '/' else c) = slashed d := by
  rw [Date.isoformat, String.toList_ofList, slashed]
  simp only [List.map_append, List.map_cons, map_slash_padded, List.append_assoc,
    List.cons_append, if_true]

theorem notBlank_isoformat : ∀ c ∈ d.isoformat.toList, Text.isSpace c = false := by
  rw [Date.isoformat, String.toList_ofList]
  simp only [List.append_assoc, List.cons_append, List.forall_mem_append, List.forall_mem_cons]
  exact ⟨notBlank_padded, by decide, notBlank_padded, by decide, notBlank_padded⟩

/-- The three numbers of the date. -/
theorem unpackYmd_slashed :
    unpackYmd (slashed d) = some ((d.year : ℤ), (d.month : ℤ), (d.day : ℤ)) := by
  obtain ⟨⟨-, hyear⟩, ⟨-, hmonth⟩, -, hday⟩ := d.valid
  have hlast := daysInMonth_le d.year d.month
  rw [slashed, unpackYmd_of_digits (digits_padded _ _ _), intOfDigits_padded 4 (by omega),
    intOfDigits_padded 2 (by omega), intOfDigits_padded 2 (by omega)]

end Slashed

/-- **The ISO text of a date is read as Jalali.** Where there is no such Jalali date, nothing
is read. -/
theorem toGregorianDate_isoformat (jd : WidgetCalendar) (d : Date) :
    toGregorianDate jd d.isoformat = (jd.date d.year d.month d.day).bind jd.togregorian := by
  have hne : d.isoformat ≠ "" := by
    intro hempty
    have hslashed := map_slash_isoformat d
    rw [hempty] at hslashed
    exact slashed_ne_nil d hslashed.symm
  unfold toGregorianDate
  rw [if_neg hne]
  dsimp only
  rw [Text.strip_of_forall_not (notBlank_isoformat d), Text.toList_replaceChar,
    map_slash_isoformat, unpackYmd_slashed, Option.bind_some,
    fromisoformat_eq_none (Text.not_mem_replaceChar (by decide) _), Option.or_none]

namespace PersianDateTimeWidget

variable (jd : WidgetCalendar) (t : DateTime)

/-- With a `T` the text is one word, and nothing is read. -/
theorem valueFromDatadict_isoformat_t : valueFromDatadict jd (some (t.isoformat 'T')) = none := by
  apply valueFromDatadict_eq_none
  rw [DateTime.isoformat, String.toList_ofList]
  simp only [List.forall_mem_append, List.forall_mem_cons]
  exact ⟨notBlank_isoformat _, by decide, notBlank_padded, by decide, notBlank_padded,
    t.notBlank_isoRest⟩

/-- The time of the text, with slashes in it. -/
def slashedTime (t : DateTime) : List Char :=
  padded t.hour 2 ++ ':' :: (padded t.minute 2 ++
    t.isoRest.map fun c => if c = '-' then '/' else c)

theorem notBlank_slashedTime : ∀ c ∈ slashedTime t, Text.isSpace c = false := by
  simp only [slashedTime, List.forall_mem_append, List.forall_mem_cons]
  refine ⟨notBlank_padded, by decide, notBlank_padded, fun c hc => ?_⟩
  obtain ⟨b, hb, rfl⟩ := List.mem_map.mp hc
  split_ifs
  · decide
  · exact t.notBlank_isoRest b hb

theorem slashedTime_ne_nil : slashedTime t ≠ [] :=
  List.append_ne_nil_of_left_ne_nil padded_ne_nil _

/-- The hour and the minute come first, whatever follows. -/
theorem unpackHm_slashedTime : unpackHm (slashedTime t) = some ((t.hour : ℤ), (t.minute : ℤ)) := by
  obtain ⟨hhour, hminute, -⟩ := t.valid
  have hcolon : ∀ {n width : ℕ}, ':' ∉ padded n width := by
    intro n width hmem
    have hdigit := isDigit_of_mem_padded hmem
    revert hdigit
    decide
  have hrest : ∃ rest, t.isoRest.map (fun c => if c = '-' then '/' else c) = ':' :: rest :=
    ⟨_, rfl⟩
  obtain ⟨rest, hrest⟩ := hrest
  have hints : ints [padded t.hour 2, padded t.minute 2] =
      some [(t.hour : ℤ), (t.minute : ℤ)] := by
    unfold ints
    rw [List.mapM_cons, List.mapM_cons, List.mapM_nil, int?_padded 1 (by omega),
      int?_padded 1 (by omega)]
    rfl
  unfold unpackHm
  rw [slashedTime, hrest, List.splitOn_append_cons_self_of_not_mem hcolon,
    List.splitOn_append_cons_self_of_not_mem hcolon]
  dsimp only [List.take]
  rw [hints]

theorem strip_isoformat_blank : Text.strip (t.isoformat ' ') = t.isoformat ' ' := by
  apply Text.strip_of_two_words
  · intro hnil
    have hslashed := map_slash_isoformat t.date
    rw [hnil] at hslashed
    exact slashed_ne_nil t.date hslashed.symm
  · exact List.append_ne_nil_of_left_ne_nil padded_ne_nil _
  · exact notBlank_isoformat t.date
  · simp only [List.forall_mem_append, List.forall_mem_cons]
    exact ⟨notBlank_padded, by decide, notBlank_padded, t.notBlank_isoRest⟩

/-- Two words, a date and a time. -/
theorem readJalali_slashed :
    readJalali jd (slashed t.date ++ ' ' :: slashedTime t) =
      (jd.datetime t.date.year t.date.month t.date.day t.hour t.minute 0).bind
        jd.datetimeTogregorian := by
  have hwords : Text.words (slashed t.date ++ ' ' :: slashedTime t) =
      [slashed t.date, slashedTime t] := by
    rw [Text.words_append_cons (slashed_ne_nil _) (notBlank_slashed _) (by decide),
      Text.words_of_forall_not (slashedTime_ne_nil t) (notBlank_slashedTime t)]
  rw [readJalali, hwords]
  dsimp only
  rw [unpackYmd_slashed, unpackHm_slashedTime]
  rfl

/-- With a blank the date is read as Jalali, and the time up to its minutes. -/
theorem valueFromDatadict_isoformat_blank :
    valueFromDatadict jd (some (t.isoformat ' ')) =
      (jd.datetime t.date.year t.date.month t.date.day t.hour t.minute 0).bind
        jd.datetimeTogregorian := by
  have hraw : (Text.replaceChar '-' '/' (t.isoformat ' ')).toList =
      slashed t.date ++ ' ' :: slashedTime t := by
    rw [Text.toList_replaceChar, DateTime.isoformat, String.toList_ofList, List.map_append,
      map_slash_isoformat]
    simp only [slashedTime, List.map_cons, List.map_append, map_slash_padded,
      (by decide : ¬ ' ' = '-'), (by decide : ¬ ':' = '-'), if_false]
  have hne : Text.replaceChar '-' '/' (t.isoformat ' ') ≠ "" := by
    intro hempty
    rw [hempty] at hraw
    exact List.append_ne_nil_of_left_ne_nil (slashed_ne_nil t.date) _ hraw.symm
  unfold valueFromDatadict
  dsimp only
  rw [Option.getD_some, strip_isoformat_blank, if_neg hne, hraw, readJalali_slashed,
    datetimeFromisoformat_eq_none (Text.not_mem_replaceChar (by decide) _), Option.or_none]

end PersianDateTimeWidget

/-- **No ISO text is read as what it says**: neither that of a date nor, with either separator,
that of a date with a time. The Jalali reading comes first and ends in a later year, and the
ISO reading meets slashes. -/
theorem gregorian_iso_never_read {jd : WidgetCalendar} (hjd : jd.KeepsYears) :
    (∀ d : Date, toGregorianDate jd d.isoformat ≠ some d) ∧
      ∀ (t : DateTime) (sep : Char), sep = 'T' ∨ sep = ' ' →
        PersianDateTimeWidget.valueFromDatadict jd (some (t.isoformat sep)) ≠ some t := by
  have hlater : ∀ d : Date, ¬WidgetCalendar.InYear d.year d := by
    rintro d (h | h) <;> omega
  refine ⟨fun d hread => ?_, ?_⟩
  · rw [toGregorianDate_isoformat] at hread
    obtain ⟨j, hj, hg⟩ := Option.bind_eq_some_iff.mp hread
    exact hlater d (hjd.date _ _ _ j d hj hg)
  · rintro t sep (rfl | rfl) hread
    · rw [PersianDateTimeWidget.valueFromDatadict_isoformat_t] at hread
      cases hread
    · rw [PersianDateTimeWidget.valueFromDatadict_isoformat_blank] at hread
      obtain ⟨j, hj, hg⟩ := Option.bind_eq_some_iff.mp hread
      exact hlater t.date (hjd.datetime _ _ _ _ _ _ j t hj hg)

theorem gregorian_iso_never_read_half_past_two :
    marchFifth.KeepsYears ∧
      toGregorianDate marchFifth (Date.isoformat ⟨2024, 3, 5, by decide⟩) ≠
        some ⟨2024, 3, 5, by decide⟩ ∧
      PersianDateTimeWidget.valueFromDatadict marchFifth (some (halfPastTwo.isoformat ' ')) ≠
        some halfPastTwo :=
  ⟨keepsYears_marchFifth, (gregorian_iso_never_read keepsYears_marchFifth).1 _,
    (gregorian_iso_never_read keepsYears_marchFifth).2 _ _ (.inr rfl)⟩

/-- The fifth of March becomes a day six centuries later, and half past two is lost or moves
with it. -/
theorem fifth_of_march_moves :
    toGregorianDate marchFifth "2024-03-05" = some ⟨2645, 5, 26, by decide⟩ ∧
      halfPastTwo.isoformat 'T' = "2024-03-05T14:30:00" ∧
      PersianDateTimeWidget.valueFromDatadict marchFifth (some "2024-03-05T14:30:00") = none ∧
      halfPastTwo.isoformat ' ' = "2024-03-05 14:30:00" ∧
      (PersianDateTimeWidget.valueFromDatadict marchFifth (some "2024-03-05 14:30:00")).map
        DateTime.date = some ⟨2645, 5, 26, by decide⟩ := by
  decide +kernel

end Tkdchb
