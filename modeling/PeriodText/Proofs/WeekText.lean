import PeriodText.Format.Standard
import PeriodText.Proofs.Format.RoundTrip
import PeriodText.Proofs.Session.Requests
import PeriodText.Proofs.Value.Day

/-!
# The text of a week

A day in the standard format of weeks is written as its own year and the number of its week. The
year is not the one that the week belongs to, as every field is answered on its own; so the text
tells the weeks of a year apart but for the days around the turn of the year:
`Request.formatValue_week_eq_iff`.
-/

set_option autoImplicit false

namespace PeriodText

open Calendar (isDay isoWeek dayNumber mondayOf thursdayOf weekYear InYear)
open Numeral (isWritable paddedText)

variable {v : Value} {year month day : Int}

/-- What a year and a week are written as. -/
def weekText (year week : Int) : List Char := paddedText 4 year ++ '-' :: 'W' :: paddedText 2 week

/-- **The text of a week tells the year and the number.** -/
theorem weekText_inj {week year' week' : Int} (years : 0 ≤ year ∧ year ≤ 9999)
    (years' : 0 ≤ year' ∧ year' ≤ 9999) :
    weekText year week = weekText year' week' ↔ year = year' ∧ week = week' := by
  have length {n : Int} (range : 0 ≤ n ∧ n ≤ 9999) : (paddedText 4 n).length = 4 := by
    rw [Numeral.paddedText_of_nonneg range.1, Numeral.length_magnitude_eq_iff (by decide)]
    omega
  constructor
  · intro same
    obtain ⟨front, back⟩ := List.append_inj same ((length years).trans (length years').symm)
    have one := congrArg Numeral.ofPiece front
    have other := congrArg Numeral.ofPiece (List.cons.inj (List.cons.inj back).2).2
    rw [Numeral.ofPiece_paddedText, Numeral.ofPiece_paddedText] at one other
    exact ⟨one, other⟩
  · rintro ⟨rfl, rfl⟩
    rfl

/-- A value is written in the standard format of weeks as its year and its week. -/
theorem Format.render_week {f : Format} (standard : Kind.week.standardFormat? = some f)
    {week : Int} (ofYear : v.field .year = .ok year) (ofWeek : v.field .week = .ok week)
    (years : isWritable year = true) (weeks : isWritable week = true)
    (locale : Except Error Locale) :
    f.render locale v = .ok (String.ofList (weekText year week)) := by
  cases (show Kind.week.standardFormat? = some ⟨"yyyy-Www", [.field ⟨.year, 4, true⟩,
    .literal ['-', 'W'], .field ⟨.week, 2, false⟩]⟩ from rfl).symm.trans standard
  refine Format.render_eq_ok.mpr ⟨[paddedText 4 year, ['-', 'W'], paddedText 2 week], ?_, ?_⟩
  · refine .cons ?_ (.cons rfl (.cons ?_ .nil))
    · change Field.render ⟨.year, 4, true⟩ locale v = _
      exact (Field.render_number rfl).mpr ⟨year, ofYear, years, rfl⟩
    · change Field.render ⟨.week, 2, false⟩ locale v = _
      exact (Field.render_number rfl).mpr ⟨week, ofWeek, weeks, rfl⟩
  · simp [weekText]

/-- A day is written in the standard format of weeks as its year and the number of its week. -/
theorem Request.answer_formatValue_week (s : Session) (argument : LocaleArgument) {f : Format}
    (standard : Kind.week.standardFormat? = some f) (names : v.NamesDay year month day)
    (valid : isDay year month day = true) : (formatValue v (.compiled f) argument).answer s =
      .ok (String.ofList (weekText year (isoWeek year month day))) := by
  obtain ⟨years, -⟩ := Calendar.isDay_iff.mp valid
  have weeks := Calendar.isoWeek_bounds valid
  have short {n : Int} (range : 1 ≤ n ∧ n ≤ 9999) : isWritable n = true :=
    Numeral.isWritable_of_lt_pow (by decide : 1 ≤ 4) (by decide) (by omega)
  have answers := names.answersDay valid
  rw [answer_formatValue]
  exact Format.render_week standard (answers .year _ rfl) (answers .week _ rfl) (short years)
    (short (by omega)) _

/-- **What the text of a week tells.** Two days are written as the same text in the standard format
of weeks exactly if they are of one year and the numbers of their weeks are the same. Where both
weeks belong to the years of the days, this is to say that the days are in the same week; and two
days in the same week have the same text exactly if they are of one year. -/
theorem Request.formatValue_week_eq_iff (s : Session) (argument : LocaleArgument) {f : Format}
    (standard : Kind.week.standardFormat? = some f) {v v' : Value}
    {year month day year' month' day' : Int} (names : v.NamesDay year month day)
    (names' : v'.NamesDay year' month' day') (valid : isDay year month day = true)
    (valid' : isDay year' month' day' = true) :
    let n := dayNumber year month day
    let n' := dayNumber year' month' day'
    ∃ text text', (formatValue v (.compiled f) argument).answer s = .ok text ∧
      (formatValue v' (.compiled f) argument).answer s = .ok text' ∧
      (text = text' ↔ year = year' ∧ isoWeek year month day = isoWeek year' month' day') ∧
      (InYear (thursdayOf n) year → InYear (thursdayOf n') year' →
        (text = text' ↔ mondayOf n = mondayOf n')) ∧
      (mondayOf n = mondayOf n' → (text = text' ↔ year = year')) := by
  intro n n'
  obtain ⟨years, -⟩ := Calendar.isDay_iff.mp valid
  obtain ⟨years', -⟩ := Calendar.isDay_iff.mp valid'
  have same : String.ofList (weekText year (isoWeek year month day)) =
      String.ofList (weekText year' (isoWeek year' month' day')) ↔
        year = year' ∧ isoWeek year month day = isoWeek year' month' day' := by
    rw [String.ofList_inj, weekText_inj (by omega) (by omega)]
  have week := Calendar.mondayOf_eq_iff valid valid'
  refine ⟨_, _, answer_formatValue_week s argument standard names valid,
    answer_formatValue_week s argument standard names' valid', same, ?_, ?_⟩
  · intro inside inside'
    rw [same, week, (Calendar.inYear_thursdayOf valid).unique inside,
      (Calendar.inYear_thursdayOf valid').unique inside']
  · intro together
    rw [same, and_iff_left (week.mp together).2]

/-- The Monday and the Sunday of a week in March have the same text, however they are given. -/
theorem Request.formatValue_week_eq_iff_march : ∃ f d text, Kind.week.standardFormat? = some f ∧
    (formatValue (.moment ⟨.day, 2018, 3, 5, 0, 0, 0⟩) (.compiled f) .default).answer {} =
      .ok text ∧
    Value.NamesDay (.date d) 2018 3 11 ∧
    (formatValue (.date d) (.compiled f) .default).answer {} = .ok text := by
  let f : Format := ⟨"yyyy-Www", [.field ⟨.year, 4, true⟩, .literal ['-', 'W'],
    .field ⟨.week, 2, false⟩]⟩
  let y : Count := ⟨2018, by decide⟩
  let m : Count := ⟨3, by decide⟩
  let n : Count := ⟨11, by decide⟩
  let d : PeriodDate := ⟨.day, { year := some y, month := some m, day := some n }, rfl⟩
  have sunday : Value.NamesDay (.date d) 2018 3 11 := .date d y m n rfl rfl
  obtain ⟨text, text', first, second, -, -, together⟩ := formatValue_week_eq_iff {} .default
    (f := f) rfl (.moment ⟨.day, 2018, 3, 5, 0, 0, 0⟩) sunday rfl rfl
  cases (together rfl).mpr rfl
  exact ⟨f, d, text, rfl, first, sunday, second⟩

/-- **The first and the last day of 2018** are written alike, though the one is in the first week of
that year and the other in the first week of the next. -/
theorem Request.formatValue_week_newYear : ∃ f, Kind.week.standardFormat? = some f ∧
    (formatValue (.moment ⟨.day, 2018, 1, 1, 0, 0, 0⟩) (.compiled f) .default).answer {} =
      .ok "2018-W01" ∧
    (formatValue (.moment ⟨.day, 2018, 12, 31, 0, 0, 0⟩) (.compiled f) .default).answer {} =
      .ok "2018-W01" ∧
    mondayOf (dayNumber 2018 1 1) ≠ mondayOf (dayNumber 2018 12 31) := by
  refine ⟨_, rfl, ?_, ?_, by decide⟩ <;> decide +kernel

end PeriodText
