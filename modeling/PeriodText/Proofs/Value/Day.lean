import PeriodText.Proofs.FirstUnwritable
import PeriodText.Proofs.Value.Materialisation

/-!
# Days of the calendar

A day is given on its own or with a time of the day, as a date of its year, month and day, or as a
span that begins and ends on it. A moment and a date store three numbers and derive the others,
while a span has a quarter and a week of its own but no semester. What they answer is the same, the
numbers that the day has (`Kind.ofDay?`), since what is stored besides year, month and day is what
would be derived (`Kind.answer?_ofDay`). So they are written alike: `Format.render_day`.
-/

set_option autoImplicit false

namespace PeriodText

open Calendar (isDay isoWeek)

variable {v w : Value} {year month day : Int}

/-! ## The numbers of a day -/

/-- The number that a day has for a kind. -/
def Kind.ofDay? (year month day : Int) : Kind → Option Int
  | .year => some year
  | .semester => some ((month - 1) / 6 + 1)
  | .quarter => some ((month - 1) / 3 + 1)
  | .month => some month
  | .week => some (isoWeek year month day)
  | .day => some day
  | .undated => none

/-- **The numbers of a day follow from its year, month and day.** It makes no difference which of
the others are stored. -/
theorem Kind.answer?_ofDay {numbers : Kind → Option Int} (valid : isDay year month day = true)
    (ofYear : numbers .year = some year) (ofMonth : numbers .month = some month)
    (ofDay : numbers .day = some day)
    (agree : ∀ kind n, numbers kind = some n → kind.ofDay? year month day = some n)
    (kind : Kind) : kind.answer? numbers = kind.ofDay? year month day := by
  rw [answer?]
  cases stored : numbers kind with
  | some n => rw [agree kind n stored, Option.some_or]
  | none =>
    rw [Option.none_or]
    cases kind with
    | year => cases stored.symm.trans ofYear
    | month => cases stored.symm.trans ofMonth
    | day => cases stored.symm.trans ofDay
    | undated => rfl
    | quarter => rw [derived?, ofMonth, Option.map_some, ofDay?]
    | week =>
      simp only [derived?, ofYear, ofMonth, ofDay, Option.bind_eq_bind, Option.bind_some]
      exact Calendar.isoWeek?_eq_some.mpr ⟨valid, rfl⟩
    | semester =>
      -- A stored quarter is looked at first, and it is the quarter of the month.
      cases quarter : numbers .quarter with
      | some q =>
        cases agree .quarter q quarter
        simp only [derived?, quarter, half_third_eq_sixth, ofDay?]
      | none => simp only [derived?, quarter, ofMonth, Option.map_some, ofDay?]

/-- A day has a number for every dated kind. -/
theorem Kind.exists_ofDay {kind : Kind} (dated : kind ≠ .undated) (year month day : Int) :
    ∃ n, kind.ofDay? year month day = some n := by
  cases kind with
  | undated => exact absurd rfl dated
  | year | semester | quarter | month | week | day => exact ⟨_, rfl⟩

/-- A field that is written as a name is a month. -/
theorem Field.kind_of_isWord {f : Field} (named : f.isWord = true) : f.kind = .month := by
  obtain ⟨specifier, width, fixed⟩ := f
  cases specifier <;> first | rfl | cases named

/-! ## Values that are days -/

namespace Value

/-- The value answers every field by the number that a day has for it. -/
def AnswersDay (v : Value) (year month day : Int) : Prop :=
  ∀ kind n, kind.ofDay? year month day = some n → v.field kind = .ok n

/-- A value that stores a year, a month and a day, and nothing that they deny, answers the fields of
that day. -/
theorem answersDay_of_stored (numbers : Kind → Option Int) (valid : isDay year month day = true)
    (field : ∀ kind, kind ≠ .undated → v.field kind = v.readField kind)
    (stored : ∀ kind, v.stored kind = .ofNumber? (numbers kind))
    (ofYear : numbers .year = some year) (ofMonth : numbers .month = some month)
    (ofDay : numbers .day = some day)
    (agree : ∀ kind n, numbers kind = some n → kind.ofDay? year month day = some n) :
    v.AnswersDay year month day := by
  intro kind n given
  have dated : kind ≠ .undated := by
    rintro rfl
    cases given
  rw [field kind dated, readField_eq stored,
    Kind.answer?_ofDay valid ofYear ofMonth ofDay agree, given]
  rfl

/-- The value is a day of the calendar, or a date of a day with no other fields. -/
inductive NamesDay : Value → (year month day : Int) → Prop
  | moment (m : Moment) : NamesDay (.moment m) m.year m.month m.day
  | date (d : PeriodDate) (year month day : Count) (kind : d.kind = .day)
      (fields : d.fields = { year := some year, month := some month, day := some day }) :
      NamesDay (.date d) year.toInt month.toInt day.toInt

/-- A moment, and a date of a day, answer the fields of the day. -/
theorem NamesDay.answersDay (names : v.NamesDay year month day)
    (valid : isDay year month day = true) : v.AnswersDay year month day := by
  cases names with
  | moment m =>
    have proper : (Value.moment m).IsProper := valid
    refine answersDay_of_stored (number? (.moment m)) valid (fun _ _ => rfl) proper.stored_eq
      rfl rfl rfl ?_
    intro kind n stored
    cases kind <;> cases stored <;> rfl
  | date d year month day kind fields =>
    have numbers (k : Kind) : number? (.date d) k = (d.fields.get k).map Count.toInt := rfl
    rw [fields] at numbers
    have proper : (Value.date d).IsProper := trivial
    refine answersDay_of_stored (number? (.date d)) valid (fun _ dated => if_neg dated)
      proper.stored_eq (numbers .year) (numbers .month) (numbers .day) ?_
    intro k n stored
    rw [numbers] at stored
    cases k <;> cases stored <;> rfl

/-- A span of one day answers the fields of the day. -/
theorem answersDay_span (valid : isDay year month day = true) :
    (Value.span (.ofDay year month day)).AnswersDay year month day := by
  refine answersDay_of_stored
    (fun kind => if kind = .semester then none else kind.ofDay? year month day)
    valid (fun _ _ => rfl) ?_ rfl rfl rfl ?_
  · intro kind
    cases kind <;> rfl
  · intro kind n stored
    split at stored
    · cases stored
    · exact stored

namespace AnswersDay

/-- Values that answer the fields of one day answer every field alike. -/
theorem field_congr (one : v.AnswersDay year month day) (other : w.AnswersDay year month day)
    {kind : Kind} (dated : kind ≠ .undated) : v.field kind = w.field kind := by
  obtain ⟨n, given⟩ := Kind.exists_ofDay dated year month day
  rw [one kind n given, other kind n given]

/-- Whatever field is written, a day has it. -/
theorem writableFor (answers : v.AnswersDay year month day)
    (valid : isDay year month day = true) (f : Field) : (Token.field f).WritableFor v := by
  obtain ⟨-, months, -⟩ := Calendar.isDay_iff.mp valid
  obtain ⟨n, given⟩ := Kind.exists_ofDay f.kind_ne_undated year month day
  refine ⟨n, answers _ n given, fun named => ?_⟩
  rw [f.kind_of_isWord named] at given
  cases given
  exact months

end AnswersDay

end Value

/-! ## Days as text -/

namespace PeriodDate

/-- Year, month and day of a day are the fields of a date. -/
theorem exists_ofDay (valid : isDay year month day = true) : ∃ d,
    ofNamed .day [("year", .integer year), ("month", .integer month), ("day", .integer day)] =
      .ok d ∧ Value.NamesDay (.date d) year month day := by
  obtain ⟨years, months, days⟩ := Calendar.isDay_iff.mp valid
  have short := Calendar.daysInMonth_le year month
  let y : Count := ⟨year, Count.fits_of_le years.1 years.2⟩
  let m : Count := ⟨month, Count.fits_of_le months.1 (by omega)⟩
  let n : Count := ⟨day, Count.fits_of_le days.1 (by omega)⟩
  let d : PeriodDate := ⟨.day, { year := some y, month := some m, day := some n }, rfl⟩
  refine ⟨d, ?_, .date d y m n rfl rfl⟩
  refine ofData_fields d fun kind => ?_
  cases kind <;> rfl

end PeriodDate

namespace Format

/-- **A day is written alike however it is given**: on its own or with a time, as a date, or as a
span of one day, in every format and every locale. The locale may be wanting, and the refusal is the
same; otherwise there is a text. -/
theorem render_day (f : Format) (locale : Except Error Locale)
    (valid : isDay year month day = true) : ∃ d,
      PeriodDate.ofNamed .day
        [("year", .integer year), ("month", .integer month), ("day", .integer day)] = .ok d ∧
      (∀ sort hour minute second,
        f.render locale (.moment ⟨sort, year, month, day, hour, minute, second⟩) =
          f.render locale (.date d)) ∧
      f.render locale (.span (.ofDay year month day)) = f.render locale (.date d) ∧
      ∀ l, locale = .ok l → ∃ text, f.render locale (.date d) = .ok text := by
  obtain ⟨d, made, names⟩ := PeriodDate.exists_ofDay valid
  have own := names.answersDay valid
  have same {v : Value} (answers : v.AnswersDay year month day) :
      f.render locale v = f.render locale (.date d) :=
    render_congr (fun g _ => answers.field_congr own g.kind_ne_undated) locale
  refine ⟨d, made, ?_, same (Value.answersDay_span valid), ?_⟩
  · intro sort hour minute second
    exact same (Value.NamesDay.answersDay (.moment ⟨sort, year, month, day, hour, minute, second⟩)
      valid)
  · rintro l rfl
    have proper : (Value.date d).IsProper := trivial
    refine exists_render.mpr fun t _ => ?_
    cases t with
    | literal text => exact ⟨text, rfl⟩
    | field g => exact (Field.exists_render proper).mpr (own.writableFor valid g)

/-- The last day of 2018 is in the second semester and the fourth quarter, and in the first week of
the next year. -/
theorem render_day_newYearsEve : ∃ f d, compile "s.q.w" = .ok f ∧ isDay 2018 12 31 = true ∧
    PeriodDate.ofNamed .day
      [("year", .integer 2018), ("month", .integer 12), ("day", .integer 31)] = .ok d ∧
    f.render (.ok Locale.english) (.date d) = .ok "2.4.1" ∧
    f.render (.ok Locale.english) (.moment ⟨.stamp, 2018, 12, 31, 23, 59, 59⟩) = .ok "2.4.1" ∧
    f.render (.ok Locale.english) (.span (.ofDay 2018 12 31)) = .ok "2.4.1" := by
  let f : Format := ⟨"s.q.w", [.field ⟨.semester, 1, true⟩, .literal ['.'],
    .field ⟨.quarter, 1, true⟩, .literal ['.'], .field ⟨.week, 1, false⟩]⟩
  have valid : isDay 2018 12 31 = true := rfl
  obtain ⟨d, made, moments, span, -⟩ := render_day f (.ok Locale.english) valid
  have stamp := moments .stamp 23 59 59
  have text : f.render (.ok Locale.english) (.span (.ofDay 2018 12 31)) = .ok "2.4.1" := by
    decide +kernel
  rw [text] at span
  rw [← span] at stamp
  exact ⟨f, d, rfl, valid, made, span.symm, stamp, text⟩

end Format

end PeriodText
