import PeriodText.Proofs.Calendar.Ordinal
import PeriodText.Proofs.Value.Fields

/-!
# The week of a date

A date that stores no week answers it where its year, month and day name a day of the calendar, and
nowhere else, however far out of range they are: `PeriodDate.field_week_thursday`. The number is that of the
week within the year that the Thursday of the week lies in, which need not be the year of the date.
-/

set_option autoImplicit false

namespace PeriodText

open Calendar (isDay isoWeek isoWeek? ordinal dayOfYear IsThursdayOf)

/-- A date that stores no week is asked for the one of its year, month and day. -/
theorem PeriodDate.field_week_eq {d : PeriodDate} {year month day : Count}
    (hasYear : d.fields.year = some year) (hasMonth : d.fields.month = some month)
    (hasDay : d.fields.day = some day) (noWeek : d.fields.week = none) :
    Value.field (.date d) .week = (isoWeek? year.toInt month.toInt day.toInt).elim
      (.error (Value.unanswered (.date d) .week)) .ok := by
  rw [Value.field_date d (by decide)]
  simp only [Kind.answer?, Kind.derived?, Value.number?, DateFields.get, hasYear, hasMonth, hasDay,
    noWeek]
  rfl

/-- **The week that a date derives.** There is one exactly if the year, the month and the day name a
day of the calendar; otherwise the field is missing. Its number is from 1 to 53: it is one more than
the number of whole weeks that its year has before the Thursday of the week. -/
theorem PeriodDate.field_week_thursday {d : PeriodDate} {year month day : Count}
    (hasYear : d.fields.year = some year) (hasMonth : d.fields.month = some month)
    (hasDay : d.fields.day = some day) (noWeek : d.fields.week = none) :
    ((∃ week, Value.field (.date d) .week = .ok week) ↔
      isDay year.toInt month.toInt day.toInt = true) ∧
    (∀ week, Value.field (.date d) .week = .ok week → 1 ≤ week ∧ week ≤ 53 ∧
      ∃ year' month' day', isDay year' month' day' = true ∧
        IsThursdayOf (ordinal year' month' day')
          (ordinal year.toInt month.toInt day.toInt) ∧
        week = 1 + (dayOfYear year' month' day' - 1) / 7) ∧
    (¬isDay year.toInt month.toInt day.toInt = true →
      ∃ e, Value.field (.date d) .week = .error e ∧ e.family = .noField) := by
  have asked := field_week_eq hasYear hasMonth hasDay noWeek
  cases valid : isDay year.toInt month.toInt day.toInt with
  | true =>
    have known := Calendar.isoWeek?_eq_some.mpr ⟨valid, rfl⟩
    rw [known] at asked
    refine ⟨⟨fun _ => rfl, fun _ => ⟨_, asked⟩⟩, ?_, fun invalid => absurd rfl invalid⟩
    intro week given
    obtain rfl := Except.ok.inj (asked.symm.trans given)
    obtain ⟨least, most⟩ := Calendar.isoWeek_bounds valid
    obtain ⟨year', month', day', named, thursday⟩ := Calendar.exists_isThursdayOf valid
    exact ⟨least, most, year', month', day', named, thursday,
      Calendar.isoWeek_eq_of_isThursdayOf valid named thursday⟩
  | false =>
    have unknown : isoWeek? year.toInt month.toInt day.toInt = none := if_neg (by simp [valid])
    rw [unknown] at asked
    refine ⟨⟨?_, nofun⟩, ?_, fun _ => ⟨_, asked, rfl⟩⟩
    · rintro ⟨week, given⟩
      cases asked.symm.trans given
    · intro week given
      cases asked.symm.trans given

/-- The last day of 2018 is in the first week of 2019, and the 29th of February 1900 in none. -/
theorem PeriodDate.field_week_thursday_newYear : ∃ (d e : PeriodDate) (refusal : Error),
    d.fields = { year := some ⟨2018, by decide⟩, month := some ⟨12, by decide⟩,
                 day := some ⟨31, by decide⟩ } ∧
    e.fields = { year := some ⟨1900, by decide⟩, month := some ⟨2, by decide⟩,
                 day := some ⟨29, by decide⟩ } ∧
    Value.field (.date d) .week = .ok 1 ∧
    (∃ year month day, isDay year month day = true ∧
      IsThursdayOf (ordinal year month day) (ordinal 2018 12 31) ∧
      1 = 1 + (dayOfYear year month day - 1) / 7) ∧
    Value.field (.date e) .week = .error refusal ∧ refusal.family = .noField := by
  let d : PeriodDate := ⟨.day, { year := some ⟨2018, by decide⟩, month := some ⟨12, by decide⟩,
                                 day := some ⟨31, by decide⟩ }, rfl⟩
  let e : PeriodDate := ⟨.day, { year := some ⟨1900, by decide⟩, month := some ⟨2, by decide⟩,
                                 day := some ⟨29, by decide⟩ }, rfl⟩
  have answered : Value.field (.date d) .week = .ok 1 := rfl
  obtain ⟨-, -, thursday⟩ := (PeriodDate.field_week_thursday (d := d) rfl rfl rfl rfl).2.1 1 answered
  obtain ⟨refusal, refused, family⟩ :=
    (PeriodDate.field_week_thursday (d := e) rfl rfl rfl rfl).2.2 (by decide)
  exact ⟨d, e, refusal, rfl, rfl, answered, thursday, refused, family⟩

end PeriodText
