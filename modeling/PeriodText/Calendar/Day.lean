/-!
# Calendar days

Days of the proleptic Gregorian calendar, for the years 1 to 9999, numbered from 1 on the first
of January of the year 1, which is a Monday.
-/

set_option autoImplicit false

namespace PeriodText.Calendar

/-- The year has 366 days. -/
def isLeap (year : Int) : Bool := year % 4 = 0 && (year % 100 ≠ 0 || year % 400 = 0)

/-- The number of days of a month from 1 to 12. -/
def daysInMonth (year month : Int) : Int :=
  if month = 2 then (if isLeap year then 29 else 28)
  else if month = 4 || month = 6 || month = 9 || month = 11 then 30
  else 31

/-- Year, month and day name a day of the calendar. -/
def isDay (year month day : Int) : Bool :=
  1 ≤ year && year ≤ 9999 && 1 ≤ month && month ≤ 12 && 1 ≤ day && day ≤ daysInMonth year month

/-- The number of days before the first of January of a year. -/
def daysBeforeYear (year : Int) : Int :=
  let past := year - 1
  365 * past + past / 4 - past / 100 + past / 400

/-- The number of days of a year before the first of a month. -/
def daysBeforeMonth (year month : Int) : Int :=
  let leapDay := if 2 < month && isLeap year then 1 else 0
  let ordinary : Int := match month with
    | 1 => 0 | 2 => 31 | 3 => 59 | 4 => 90 | 5 => 120 | 6 => 151
    | 7 => 181 | 8 => 212 | 9 => 243 | 10 => 273 | 11 => 304 | _ => 334
  ordinary + leapDay

/-- The number of a day. -/
def dayNumber (year month day : Int) : Int :=
  daysBeforeYear year + daysBeforeMonth year month + day

end PeriodText.Calendar
