import PeriodText.Proofs.Calendar.IsoWeek

/-!
# Days counted one by one

The days before a year and before a month are given by closed forms. Here they are counted: a day is
so many days into its year as the months before it have (`dayOfYear`), and the years before it are
added up as well (`ordinal`). The closed forms count the same (`dayNumber_eq_ordinal`), in the order
of year, month and day (`dayNumber_lt_iff`), and no count of the years up to 9999 is left out
(`exists_day_of_inYear`).

So the week of a day can be told without them: its number is how often seven goes into the days of
the year before the Thursday of that week, and one (`isoWeek_eq_of_isThursdayOf`).
-/

set_option autoImplicit false

namespace PeriodText.Calendar

variable {year month day year' month' day' n : Int}

/-! ## Counting -/

/-- The lengths of as many units as are given, from the first one on, added up. -/
def total (length : Int → Int) : (units : Nat) → Int
  | 0 => 0
  | units + 1 => total length units + length (units + 1)

/-- The number of a day within its year, the days of each month counted. -/
def dayOfYear (year month day : Int) : Int := total (daysInMonth year) (month - 1).toNat + day

/-- The number of a day from the first of January of the year 1 on, the days of each year
counted. -/
def ordinal (year month day : Int) : Int :=
  total yearLength (year - 1).toNat + dayOfYear year month day

/-- One more unit is added up. -/
theorem total_next (length : Int → Int) (first : 1 ≤ n) :
    total length (n + 1 - 1).toNat = total length (n - 1).toNat + length n := by
  have count : (n + 1 - 1).toNat = (n - 1).toNat + 1 := by omega
  have last : ((n - 1).toNat : Int) + 1 = n := by omega
  rw [count, total, last]

/-- The days before a year are those of the years before it. -/
theorem daysBeforeYear_eq_total (first : 1 ≤ year) :
    daysBeforeYear year = total yearLength (year - 1).toNat := by
  induction year, first using Int.leInduction with
  | base => rfl
  | succ year first ih => rw [daysBeforeYear_succ, ih, total_next yearLength first]

/-- The next month begins when the month is over. -/
theorem daysBeforeMonth_succ (year : Int) (first : 1 ≤ month) (more : month < 12) :
    daysBeforeMonth year (month + 1) = daysBeforeMonth year month + daysInMonth year month := by
  unfold daysBeforeMonth daysInMonth
  interval_cases month <;> cases isLeap year <;> decide

/-- The days of a year before a month are those of the months before it. -/
theorem daysBeforeMonth_eq_total (year : Int) (first : 1 ≤ month) (last : month ≤ 12) :
    daysBeforeMonth year month = total (daysInMonth year) (month - 1).toNat := by
  induction month, first using Int.leInduction with
  | base => simp [daysBeforeMonth, total]
  | succ month first ih =>
    rw [daysBeforeMonth_succ year first (by omega), ih (by omega),
      total_next (daysInMonth year) first]

/-- **The closed forms count the days.** -/
theorem dayNumber_eq_ordinal (valid : isDay year month day = true) :
    dayNumber year month day = ordinal year month day := by
  obtain ⟨years, months, -⟩ := isDay_iff.mp valid
  rw [dayNumber, ordinal, dayOfYear, daysBeforeYear_eq_total years.1,
    daysBeforeMonth_eq_total year months.1 months.2, Int.add_assoc]

/-- The days of the years before a day are not counted within its year. -/
theorem dayOfYear_eq (valid : isDay year month day = true) :
    dayOfYear year month day = dayNumber year month day - daysBeforeYear year := by
  obtain ⟨years, -, -⟩ := isDay_iff.mp valid
  rw [dayNumber_eq_ordinal valid, ordinal, daysBeforeYear_eq_total years.1]
  omega

/-! ## The order of days -/

/-- A later month of a year begins when the month is over, or later. -/
theorem daysBeforeMonth_of_lt (year : Int) (first : 1 ≤ month) (later : month + 1 ≤ month')
    (last : month' ≤ 12) :
    daysBeforeMonth year month + daysInMonth year month ≤ daysBeforeMonth year month' := by
  induction month', later using Int.leInduction with
  | base => rw [daysBeforeMonth_succ year first (by omega)]
  | succ month' later ih =>
    have inside : 1 ≤ month' ∧ month' < 12 := by omega
    have next := daysBeforeMonth_succ year inside.1 inside.2
    have some : 0 ≤ daysInMonth year month' := by
      unfold daysInMonth
      split
      · split <;> decide
      · split <;> decide
    have earlier := ih (by omega)
    omega

/-- A day that is later by year, month and day has a larger number. -/
theorem dayNumber_lt_of_lt (valid : isDay year month day = true)
    (validToo : isDay year' month' day' = true)
    (later : [year, month, day] < [year', month', day']) :
    dayNumber year month day < dayNumber year' month' day' := by
  simp only [List.cons_lt_cons_iff, List.not_lt_nil, and_false, or_false] at later
  rcases later with years | ⟨rfl, months | ⟨rfl, days⟩⟩
  · obtain ⟨-, before⟩ := inYear_dayNumber valid
    obtain ⟨after, -⟩ := inYear_dayNumber validToo
    have mono := daysBeforeYear_mono (Int.add_one_le_of_lt years)
    omega
  · obtain ⟨-, own, -, most⟩ := isDay_iff.mp valid
    obtain ⟨-, other, positive, -⟩ := isDay_iff.mp validToo
    have between := daysBeforeMonth_of_lt year own.1 (Int.add_one_le_of_lt months) other.2
    rw [dayNumber, dayNumber]
    omega
  · exact Int.add_lt_add_left days _

/-- **Days are numbered in the order of year, month and day.** -/
theorem dayNumber_lt_iff (valid : isDay year month day = true)
    (validToo : isDay year' month' day' = true) :
    dayNumber year month day < dayNumber year' month' day' ↔
      [year, month, day] < [year', month', day'] := by
  refine ⟨fun fewer => ?_, dayNumber_lt_of_lt valid validToo⟩
  by_contra other
  have notLater : [year', month', day'] < [year, month, day] ∨
      year = year' ∧ month = month' ∧ day = day' := by
    simp only [List.cons_lt_cons_iff, List.not_lt_nil, and_false, or_false] at other ⊢
    omega
  rcases notLater with earlier | ⟨rfl, rfl, rfl⟩
  · exact absurd fewer (Int.lt_asymm (dayNumber_lt_of_lt validToo valid earlier))
  · exact absurd fewer (Int.lt_irrefl _)

/-! ## No count is left out -/

/-- A day of the year that some month is not over before is a day of a month. -/
theorem exists_month_of_le (year : Int) (present : 1 ≤ n) (first : 1 ≤ month) (last : month ≤ 12)
    (inside : n ≤ daysBeforeMonth year month + daysInMonth year month) :
    ∃ own, (1 ≤ own ∧ own ≤ 12) ∧ daysBeforeMonth year own < n ∧
      n ≤ daysBeforeMonth year own + daysInMonth year own := by
  induction month, first using Int.leInduction with
  | base =>
    have none : daysBeforeMonth year 1 = 0 := by simp [daysBeforeMonth]
    exact ⟨1, by decide, by omega, inside⟩
  | succ month first ih =>
    by_cases earlier : n ≤ daysBeforeMonth year month + daysInMonth year month
    · exact ih (by omega) earlier
    · have next := daysBeforeMonth_succ year first (by omega)
      exact ⟨month + 1, by omega, by omega, inside⟩

/-- A year is over with its last month. -/
theorem yearLength_eq (year : Int) :
    yearLength year = daysBeforeMonth year 12 + daysInMonth year 12 := by
  unfold daysBeforeMonth daysInMonth yearLength
  cases isLeap year <;> decide

/-- A numbered day of the years up to 9999 is named by a year, a month and a day. -/
theorem exists_day_of_inYear (inside : InYear n year) (years : 1 ≤ year ∧ year ≤ 9999) :
    ∃ month day, isDay year month day = true ∧ dayNumber year month day = n := by
  obtain ⟨after, before⟩ := inside
  rw [daysBeforeYear_succ] at before
  rw [yearLength_eq] at before
  have december : n - daysBeforeYear year ≤ daysBeforeMonth year 12 + daysInMonth year 12 := by
    omega
  obtain ⟨month, months, least, most⟩ :=
    exists_month_of_le year (by omega) (by decide) (by decide) december
  refine ⟨month, n - daysBeforeYear year - daysBeforeMonth year month, ?_, ?_⟩
  · exact isDay_iff.mpr ⟨years, months, by omega, by omega⟩
  · unfold dayNumber
    omega

/-! ## Weeks -/

/-- One numbered day is the Thursday of the week, from Monday to Sunday, that another lies in. The
first of January of the year 1 is a Monday. -/
def IsThursdayOf (thursday today : Int) : Prop :=
  thursday % 7 = 4 ∧ thursday - 3 ≤ today ∧ today ≤ thursday + 3

/-- There is one such day. -/
theorem isThursdayOf_iff {thursday today : Int} :
    IsThursdayOf thursday today ↔ thursday = thursdayOf today := by
  unfold IsThursdayOf thursdayOf mondayOf
  omega

/-- The Thursday of the week of a day lies in a year that has days. -/
theorem weekYear_bounds (valid : isDay year month day = true) :
    1 ≤ weekYear year month day ∧ weekYear year month day ≤ 9999 := by
  obtain ⟨years, -, -⟩ := isDay_iff.mp valid
  obtain ⟨after, before⟩ := inYear_dayNumber valid
  obtain ⟨since, upTo⟩ := inYear_thursdayOf valid
  -- The first of January of the year 1 is a Monday, and the last day of 9999 is a Friday.
  have start : daysBeforeYear 1 = 0 := rfl
  have finish : daysBeforeYear 10000 = 3652059 := rfl
  have least := daysBeforeYear_mono years.1
  have most := daysBeforeYear_mono (show year + 1 ≤ 10000 by omega)
  unfold thursdayOf mondayOf at since upTo
  constructor
  · by_contra early
    have := daysBeforeYear_mono (show weekYear year month day + 1 ≤ 1 by omega)
    omega
  · by_contra late
    have := daysBeforeYear_mono (show 10000 ≤ weekYear year month day by omega)
    omega

/-- **The week of a day has a Thursday**, which is a day as well. -/
theorem exists_isThursdayOf (valid : isDay year month day = true) :
    ∃ year' month' day', isDay year' month' day' = true ∧
      IsThursdayOf (ordinal year' month' day') (ordinal year month day) := by
  obtain ⟨month', day', named, same⟩ :=
    exists_day_of_inYear (inYear_thursdayOf valid) (weekYear_bounds valid)
  refine ⟨_, month', day', named, ?_⟩
  rw [← dayNumber_eq_ordinal named, ← dayNumber_eq_ordinal valid, same]
  exact isThursdayOf_iff.mpr rfl

/-- **The number of a week is told by its Thursday**: it is how often seven goes into the days of
the year that are before it, and one. -/
theorem isoWeek_eq_of_isThursdayOf (valid : isDay year month day = true)
    (named : isDay year' month' day' = true)
    (thursday : IsThursdayOf (ordinal year' month' day') (ordinal year month day)) :
    isoWeek year month day = 1 + (dayOfYear year' month' day' - 1) / 7 := by
  rw [← dayNumber_eq_ordinal named, ← dayNumber_eq_ordinal valid, isThursdayOf_iff] at thursday
  have inside := inYear_dayNumber named
  rw [thursday] at inside
  have own : weekYear year month day = year' := (inYear_thursdayOf valid).unique inside
  rw [isoWeek_eq, own, firstMonday_eq, dayOfYear_eq named, thursday]
  unfold thursdayOf mondayOf
  omega

end PeriodText.Calendar
