import PeriodText.Calendar.IsoWeek
import Mathlib.Tactic.IntervalCases

/-!
# The week of a day

A week belongs to the year that its Thursday lies in (`weekYear`), and is numbered within that year
from the week of the first Thursday. So the year of the week and its number identify the week
(`mondayOf_eq_iff`). The year of the week is the year of the day but for a few days around the turn
of the year, and in no case is it more than one year off.
-/

set_option autoImplicit false

namespace PeriodText.Calendar

variable {year month day year' month' day' : Int}

/-! ## Years -/

/-- The number of days of a year. -/
def yearLength (year : Int) : Int := if isLeap year then 366 else 365

/-- A leap year is one that four divides, but of those that a hundred divides only one that four
hundred divides. -/
theorem isLeap_iff (year : Int) :
    isLeap year = true ↔ year % 4 = 0 ∧ (year % 100 ≠ 0 ∨ year % 400 = 0) := by
  simp [isLeap]

/-- The next year begins when the year is over. -/
theorem daysBeforeYear_succ (year : Int) :
    daysBeforeYear (year + 1) = daysBeforeYear year + yearLength year := by
  have leap := isLeap_iff year
  unfold daysBeforeYear yearLength
  split
  · next yes =>
    have := leap.mp yes
    dsimp only
    omega
  · next no =>
    have := mt leap.mpr no
    dsimp only
    omega

/-- Later years begin later. -/
theorem daysBeforeYear_mono (later : year ≤ year') :
    daysBeforeYear year ≤ daysBeforeYear year' := by
  unfold daysBeforeYear
  dsimp only
  omega

/-- A numbered day lies in a year. -/
def InYear (n year : Int) : Prop := daysBeforeYear year < n ∧ n ≤ daysBeforeYear (year + 1)

/-- It lies in no other year. -/
theorem InYear.unique {n : Int} (one : InYear n year) (other : InYear n year') : year = year' := by
  obtain ⟨after, before⟩ := one
  obtain ⟨after', before'⟩ := other
  rcases Int.lt_trichotomy year year' with less | same | more
  · have := daysBeforeYear_mono (Int.add_one_le_of_lt less)
    omega
  · exact same
  · have := daysBeforeYear_mono (Int.add_one_le_of_lt more)
    omega

/-- What it takes to name a day. -/
theorem isDay_iff : isDay year month day = true ↔ (1 ≤ year ∧ year ≤ 9999) ∧
    (1 ≤ month ∧ month ≤ 12) ∧ 1 ≤ day ∧ day ≤ daysInMonth year month := by
  simp [isDay, and_assoc]

/-- A month has at most 31 days. -/
theorem daysInMonth_le (year month : Int) : daysInMonth year month ≤ 31 := by
  unfold daysInMonth
  split
  · split <;> decide
  · split <;> decide

/-- The days of a month lie between the first and the last day of its year. -/
theorem daysBeforeMonth_bounds (year : Int) (first : 1 ≤ month) (last : month ≤ 12) :
    0 ≤ daysBeforeMonth year month ∧
      daysBeforeMonth year month + daysInMonth year month ≤ yearLength year := by
  unfold yearLength daysBeforeMonth daysInMonth
  interval_cases month <;> cases isLeap year <;> decide

/-- A day lies in the year that it names. -/
theorem inYear_dayNumber (valid : isDay year month day = true) :
    InYear (dayNumber year month day) year := by
  obtain ⟨-, ⟨first, last⟩, positive, most⟩ := isDay_iff.mp valid
  obtain ⟨least, greatest⟩ := daysBeforeMonth_bounds year first last
  rw [InYear, dayNumber, daysBeforeYear_succ]
  omega

/-- A year has at least 365 days. -/
theorem yearLength_ge (year : Int) : 365 ≤ yearLength year := by
  unfold yearLength
  split <;> decide

/-! ## Weeks -/

/-- The Thursday of the week that a numbered day lies in. -/
def thursdayOf (n : Int) : Int := mondayOf n + 3

/-- The year that the week of a day belongs to. -/
def weekYear (year month day : Int) : Int :=
  if dayNumber year month day < firstMonday year then year - 1
  else if firstMonday (year + 1) ≤ dayNumber year month day then year + 1
  else year

/-- The first week of a year is the one of the fourth of January. -/
theorem firstMonday_eq (year : Int) : firstMonday year = mondayOf (daysBeforeYear year + 4) := by
  simp [firstMonday, dayNumber, daysBeforeMonth]

/-- A day is in the first week of a year or later exactly if the Thursday of its week is in that
year or later. -/
theorem firstMonday_le_iff {n : Int} :
    firstMonday year ≤ n ↔ daysBeforeYear year < thursdayOf n := by
  rw [firstMonday_eq, thursdayOf, mondayOf, mondayOf]
  omega

/-- **The week of a day belongs to the year of its Thursday.** -/
theorem inYear_thursdayOf (valid : isDay year month day = true) :
    InYear (thursdayOf (dayNumber year month day)) (weekYear year month day) := by
  obtain ⟨after, before⟩ := inYear_dayNumber valid
  have past := daysBeforeYear_succ (year - 1)
  have next := daysBeforeYear_succ (year + 1)
  have least := yearLength_ge (year - 1)
  have greatest := yearLength_ge (year + 1)
  rw [Int.sub_add_cancel] at past
  have near : dayNumber year month day - 3 ≤ thursdayOf (dayNumber year month day) ∧
      thursdayOf (dayNumber year month day) ≤ dayNumber year month day + 3 := by
    rw [thursdayOf, mondayOf]
    omega
  unfold weekYear InYear
  split
  · next early =>
    rw [Int.sub_add_cancel]
    have := mt firstMonday_le_iff.mpr (Int.not_le.mpr early)
    omega
  · next notEarly =>
    have := firstMonday_le_iff.mp (Int.not_lt.mp notEarly)
    split
    · next late =>
      have := firstMonday_le_iff.mp late
      omega
    · next notLate =>
      have := mt firstMonday_le_iff.mpr notLate
      omega

/-- The weeks are numbered within the year that they belong to. -/
theorem isoWeek_eq (year month day : Int) : isoWeek year month day =
    (dayNumber year month day - firstMonday (weekYear year month day)) / 7 + 1 := by
  rw [weekYear, apply_ite firstMonday, apply_ite firstMonday]
  rfl

/-- The numbers of the weeks run from 1 to 52 or 53. -/
theorem isoWeek_bounds (valid : isDay year month day = true) :
    1 ≤ isoWeek year month day ∧ isoWeek year month day ≤ 53 := by
  obtain ⟨after, before⟩ := inYear_thursdayOf valid
  rw [isoWeek_eq]
  generalize weekYear year month day = own at *
  have first := firstMonday_le_iff.mpr after
  have length : yearLength own ≤ 366 := by
    unfold yearLength
    split <;> decide
  rw [daysBeforeYear_succ] at before
  rw [firstMonday_eq, mondayOf] at first ⊢
  rw [thursdayOf, mondayOf] at before
  omega

/-- What names a day has the number of its week, and nothing else has one. -/
theorem isoWeek?_eq_some {week : Int} : isoWeek? year month day = some week ↔
    isDay year month day = true ∧ isoWeek year month day = week := by
  unfold isoWeek?
  split
  · next valid => simp [valid]
  · next invalid => simp [invalid]

/-- **The year of the week and its number identify the week.** -/
theorem mondayOf_eq_iff (valid : isDay year month day = true)
    (valid' : isDay year' month' day' = true) :
    mondayOf (dayNumber year month day) = mondayOf (dayNumber year' month' day') ↔
      weekYear year month day = weekYear year' month' day' ∧
        isoWeek year month day = isoWeek year' month' day' := by
  have own := inYear_thursdayOf valid
  have own' := inYear_thursdayOf valid'
  rw [isoWeek_eq, isoWeek_eq]
  constructor
  · intro same
    rw [thursdayOf, same] at own
    have years := own.unique own'
    refine ⟨years, ?_⟩
    rw [years, firstMonday_eq]
    unfold mondayOf at same ⊢
    omega
  · rintro ⟨years, numbers⟩
    rw [years, firstMonday_eq] at numbers
    unfold mondayOf at numbers ⊢
    omega

end PeriodText.Calendar
