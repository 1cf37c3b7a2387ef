import Tkdchb.Common.Widgets

/-!
# The widget for a date

The widget for a date shows a date without losing anything, and reads what it shows as the
same date. So a form may be saved any number of times and the date stays.

## Main definitions

* `PersianDateWidget.formatValue`, `PersianDateWidget.valueFromDatadict` — `format_value` and
  `value_from_datadict`
* `WidgetValue.IsOf` — the ways in which a form may give a date
* `PersianDateWidget.resave` — a form that is shown and saved untouched

## Main results

* `PersianDateWidget.iterate_resave` — a date survives any number of saves
* `date_widget_round_trip` — what is shown of a date is read as that date
-/

namespace Tkdchb

open Calendar

/-- `jdatetime.date(y, m, d)` of the parts of a date is that date. -/
def WidgetCalendar.BuildsDates (jd : WidgetCalendar) : Prop :=
  ∀ d j, jd.fromgregorian d = some j → jd.date j.year j.month j.day = some j

/-! ### A text of three numbers -/

namespace WidgetCalendar.IsDecimalYmd

variable {j : Jalali} {text : String}

theorem notBlank (h : IsDecimalYmd j text) : ∀ c ∈ text.toList, Text.isSpace c = false := by
  obtain ⟨y, m, d, htext, hdigits, -⟩ := h
  rw [htext]
  exact fun c hc => (notBlank_of_digits hdigits c hc).1

theorem dash_not_mem (h : IsDecimalYmd j text) : '-' ∉ text.toList := by
  obtain ⟨y, m, d, htext, hdigits, -⟩ := h
  rw [htext]
  exact fun hmem => (notBlank_of_digits hdigits '-' hmem).2 rfl

theorem slash_mem (h : IsDecimalYmd j text) : '/' ∈ text.toList := by
  obtain ⟨y, m, d, htext, -, -⟩ := h
  rw [htext]
  exact List.mem_append_right y List.mem_cons_self

theorem ne_empty (h : IsDecimalYmd j text) : text ≠ "" := by
  rintro rfl
  exact absurd h.slash_mem List.not_mem_nil

/-- The three numbers are those of the date. -/
theorem unpackYmd_eq (h : IsDecimalYmd j text) :
    unpackYmd text.toList = some ((j.year : ℤ), (j.month : ℤ), (j.day : ℤ)) := by
  obtain ⟨y, m, d, htext, hdigits, hvalues⟩ := h
  simp only [List.map_cons, List.map_nil, List.cons.injEq, and_true] at hvalues
  obtain ⟨hyear, hmonth, hday⟩ := hvalues
  rw [htext, unpackYmd_of_digits hdigits, hyear, hmonth, hday]

/-- A text with slashes and no dash is shown as it is. -/
theorem toJalaliStr_eq (h : IsDecimalYmd j text) (jd : WidgetCalendar) :
    toJalaliStr jd (.text text) = text := by
  rw [toJalaliStr, if_neg h.ne_empty]
  dsimp only
  rw [Text.strip_of_forall_not h.notBlank, if_pos ⟨h.slash_mem, h.dash_not_mem⟩]

/-- The text is read as Jalali first. -/
theorem toGregorianDate_eq (h : IsDecimalYmd j text) {jd : WidgetCalendar} {d : Date}
    (hdate : jd.date j.year j.month j.day = some j) (hconv : jd.togregorian j = some d) :
    toGregorianDate jd text = some d := by
  rw [toGregorianDate, if_neg h.ne_empty]
  dsimp only
  rw [Text.strip_of_forall_not h.notBlank, Text.replaceChar_eq_self h.dash_not_mem,
    h.unpackYmd_eq, Option.bind_some, hdate, Option.bind_some, hconv, Option.some_or]

end WidgetCalendar.IsDecimalYmd

/-! ### The ways to give a date -/

/-- The value is the date itself, a time of that day, or its ISO text. -/
def WidgetValue.IsOf (d : Date) (value : WidgetValue) : Prop :=
  value = .date d ∨ (∃ t : DateTime, t.date = d ∧ value = .datetime t) ∨
    value = .text d.isoformat

/-- An ISO text has no slash. -/
theorem slash_not_mem_isoformat (d : Date) : '/' ∉ d.isoformat.toList := by
  have hfield : ∀ {n width : ℕ}, '/' ∉ padded n width := fun {n width} =>
    slash_not_mem_of_digits fun c hc => isDigit_of_mem_padded hc
  rw [Date.isoformat, String.toList_ofList]
  simp only [List.mem_append, List.mem_cons, hfield, or_false, false_or]
  decide

/-- An ISO text is shown as the date it is of. -/
theorem toJalaliStr_isoformat (jd : WidgetCalendar) (d : Date) :
    toJalaliStr jd (.text d.isoformat) = jalaliText jd d := by
  have hne : d.isoformat ≠ "" := by
    intro hempty
    have hread := fromisoformat_isoformat d
    rw [hempty] at hread
    cases hread
  rw [toJalaliStr, if_neg hne]
  dsimp only
  rw [Text.strip_of_forall_not (notBlank_isoformat d),
    if_neg fun h => slash_not_mem_isoformat d h.1, fromisoformat_isoformat]

theorem WidgetValue.IsOf.toJalaliStr_eq {d : Date} {value : WidgetValue} (h : value.IsOf d)
    (jd : WidgetCalendar) : toJalaliStr jd value = jalaliText jd d := by
  rcases h with rfl | ⟨t, rfl, rfl⟩ | rfl
  · rfl
  · rfl
  · exact toJalaliStr_isoformat jd d

/-! ### The widget -/

namespace PersianDateWidget

/-- `_BasePersianWidget.format_value`, which the widget inherits. -/
def formatValue (jd : WidgetCalendar) (value : WidgetValue) : String := toJalaliStr jd value

/-- `value_from_datadict` of the text that the form has under the name, if it has one. -/
def valueFromDatadict (jd : WidgetCalendar) (data : Option String) : Option Date :=
  toGregorianDate jd (data.getD "")

/-- A form that is shown with a date and saved as it is. -/
def resave (jd : WidgetCalendar) (d : Date) : Option Date :=
  valueFromDatadict jd (some (formatValue jd (.date d)))

variable {jd : WidgetCalendar} {d : Date} {j : Jalali}

/-- What is shown of a date is its Jalali date in decimal. -/
theorem isDecimalYmd_jalaliText (hprint : jd.PrintsDecimal) (hconv : jd.fromgregorian d = some j) :
    WidgetCalendar.IsDecimalYmd j (jalaliText jd d) := by
  rw [jalaliText, hconv, Option.map_some, Option.getD_some]
  exact hprint d j hconv

/-- It is read as the date that was shown. -/
theorem toGregorianDate_jalaliText (hinv : jd.MutuallyInverse) (hprint : jd.PrintsDecimal)
    (hbuild : jd.BuildsDates) (hconv : jd.fromgregorian d = some j) :
    toGregorianDate jd (jalaliText jd d) = some d :=
  (isDecimalYmd_jalaliText hprint hconv).toGregorianDate_eq (hbuild d j hconv)
    ((hinv j d).mpr hconv)

/-- **A date survives any number of saves.** -/
theorem iterate_resave (hinv : jd.MutuallyInverse) (hprint : jd.PrintsDecimal)
    (hbuild : jd.BuildsDates) (hconv : jd.fromgregorian d = some j) (n : ℕ) :
    (fun saved : Option Date => saved.bind (resave jd))^[n] (some d) = some d := by
  have hsave : resave jd d = some d := toGregorianDate_jalaliText hinv hprint hbuild hconv
  induction n with
  | zero => rfl
  | succ n ih => rw [Function.iterate_succ_apply', ih, Option.bind_some, hsave]

end PersianDateWidget

/-- **The widget for a date round-trips**: however the date is given, the same text is shown,
that text is read as the date, and showing it again does not change it. -/
theorem date_widget_round_trip {jd : WidgetCalendar} (hinv : jd.MutuallyInverse)
    (hprint : jd.PrintsDecimal) (hbuild : jd.BuildsDates) {d : Date} {j : Jalali}
    (hconv : jd.fromgregorian d = some j) {value : WidgetValue} (hvalue : value.IsOf d) :
    PersianDateWidget.valueFromDatadict jd
        (some (PersianDateWidget.formatValue jd value)) = some d ∧
      PersianDateWidget.formatValue jd value = PersianDateWidget.formatValue jd (.date d) ∧
      PersianDateWidget.formatValue jd (.text (PersianDateWidget.formatValue jd value)) =
        PersianDateWidget.formatValue jd value := by
  have hshown : PersianDateWidget.formatValue jd value = jalaliText jd d :=
    hvalue.toJalaliStr_eq jd
  rw [hshown]
  exact ⟨PersianDateWidget.toGregorianDate_jalaliText hinv hprint hbuild hconv, rfl,
    (PersianDateWidget.isDecimalYmd_jalaliText hprint hconv).toJalaliStr_eq jd⟩

theorem buildsDates_marchFifth : marchFifth.BuildsDates := by
  intro d j hconv
  simp only [marchFifth] at hconv ⊢
  split_ifs at hconv with hfirst hsecond
  · rw [← Option.some.inj hconv]
    decide
  · rw [← Option.some.inj hconv]
    decide

/-- The fifth of March at half past two, and as its ISO text. -/
theorem date_widget_round_trip_march_fifth :
    PersianDateWidget.valueFromDatadict marchFifth
        (some (PersianDateWidget.formatValue marchFifth (.datetime halfPastTwo))) =
          some ⟨2024, 3, 5, by decide⟩ ∧
      PersianDateWidget.valueFromDatadict marchFifth
        (some (PersianDateWidget.formatValue marchFifth (.text "2024-03-05"))) =
          some ⟨2024, 3, 5, by decide⟩ ∧
      PersianDateWidget.formatValue marchFifth (.text "2024-03-05") = "1402/12/15" := by
  have hconv : marchFifth.fromgregorian ⟨2024, 3, 5, by decide⟩ = some ⟨1402, 12, 15⟩ := by decide
  have hiso : "2024-03-05" = Date.isoformat ⟨2024, 3, 5, by decide⟩ := by decide +kernel
  exact ⟨(date_widget_round_trip mutuallyInverse_marchFifth printsDecimal_marchFifth
      buildsDates_marchFifth hconv (.inr (.inl ⟨halfPastTwo, rfl, rfl⟩))).1,
    (date_widget_round_trip mutuallyInverse_marchFifth printsDecimal_marchFifth
      buildsDates_marchFifth hconv (.inr (.inr (congrArg WidgetValue.text hiso)))).1,
    by decide +kernel⟩

end Tkdchb
