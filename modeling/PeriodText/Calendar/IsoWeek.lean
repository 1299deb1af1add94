import PeriodText.Calendar.Day

/-!
# Weeks of the ISO calendar

A week runs from Monday to Sunday. The first week of a year is the one that holds its first
Thursday, which is the week of the fourth of January; the days before it belong to the last week
of the year before, and the days from the next year's first week on to that week.
-/

set_option autoImplicit false

namespace PeriodText.Calendar

/-- The number of the Monday of the week that a numbered day lies in. -/
def mondayOf (day : Int) : Int := day - (day - 1) % 7

/-- The number of the Monday of a year's first week. -/
def firstMonday (year : Int) : Int := mondayOf (dayNumber year 1 4)

/-- The number of the week that a day lies in, within the year that week belongs to. -/
def isoWeek (year month day : Int) : Int :=
  let today := dayNumber year month day
  let first :=
    if today < firstMonday year then firstMonday (year - 1)
    else if firstMonday (year + 1) ≤ today then firstMonday (year + 1)
    else firstMonday year
  (today - first) / 7 + 1

/-- The number of the week of year, month and day, if they name a day. -/
def isoWeek? (year month day : Int) : Option Int :=
  if isDay year month day then some (isoWeek year month day) else none

end PeriodText.Calendar
