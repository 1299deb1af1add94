import PeriodText.Value

/-!
# Lengths of periods in other units

A bare period is measured in weeks, months, quarters, semesters or years. Months, quarters,
semesters and years convert among each other by whole numbers, truncating toward zero. Days and
weeks convert to them by the averages of the Gregorian calendar, in which 400 years have 146097
days or 20871 weeks: the average is rounded to a floating point number, the count is divided by
it, and the quotient is truncated. A length in weeks is whole for days and weeks only.
-/

set_option autoImplicit false

namespace PeriodText

open Numeral (Binary64)

/-- A unit that lengths are measured in. -/
inductive LengthUnit where
  | weeks
  | months
  | quarters
  | semesters
  | years
  deriving DecidableEq, Repr

/-- The length of a period in some unit. -/
inductive Length where
  | whole (n : Int)
  | average (x : Binary64)
  deriving DecidableEq, Repr

namespace LengthUnit

/-- All units, fine to coarse. -/
def all : List LengthUnit := [weeks, months, quarters, semesters, years]

/-- The name of a unit. -/
def name : LengthUnit → String
  | weeks => "weeks"
  | months => "months"
  | quarters => "quarters"
  | semesters => "semesters"
  | years => "years"

/-- The unit of a name. -/
def ofName? (s : String) : Option LengthUnit := all.find? (·.name = s)

/-- The months in a unit of whole months. -/
def monthCount? : LengthUnit → Option Nat
  | weeks => none
  | months => some 1
  | quarters => some 3
  | semesters => some 6
  | years => some 12

end LengthUnit

/-- The months in a period of whole months. -/
def Kind.monthCount? : Kind → Option Nat
  | .month => some 1
  | .quarter => some 3
  | .semester => some 6
  | .year => some 12
  | _ => none

/-- The average number of days in some months, as a fraction. -/
def averageDays (months : Nat) : Rat := mkRat (months * 3652425) 120000

/-- The average number of weeks in some months, as a fraction. -/
def averageWeeks (months : Nat) : Rat := mkRat (months * 521775) 120000

/-- A count divided by a floating point number, truncated toward zero. -/
def truncatedQuotient (n : Int) (divisor : Binary64) : Int :=
  match ((Binary64.ofInt n).dividedBy divisor).toRat? with
  | some quotient => Binary64.truncate quotient
  | none => 0

/-- A count of units of so many months each, in units of `target` months, where one number of
months divides the other: multiplied, or divided and truncated toward zero. -/
def rescale (n : Int) (own target : Nat) : Int :=
  if target ≤ own then n * (own / target : Nat) else n.tdiv (target / own : Nat)

/-- The length of a period in weeks. -/
def Period.weeks? (p : Period) : Option Length :=
  match p.kind with
  | .day => some (.whole (p.value.tdiv 7))
  | .week => some (.whole p.value)
  | kind => kind.monthCount?.map fun months =>
    .average ((Binary64.ofRat (averageWeeks months)).times (Binary64.ofInt p.value))

/-- The length of a period in units of so many months. -/
def Period.monthGroups? (p : Period) (months : Nat) : Option Int :=
  match p.kind with
  | .day => some (truncatedQuotient p.value (Binary64.ofRat (averageDays months)))
  | .week => some (truncatedQuotient p.value (Binary64.ofRat (averageWeeks months)))
  | kind => kind.monthCount?.map fun own => rescale p.value own months

/-- The length of a period in a unit, if the period has a length. -/
def Period.length? (p : Period) (unit : LengthUnit) : Option Length :=
  match unit.monthCount? with
  | none => p.weeks?
  | some months => (p.monthGroups? months).map .whole

/-- The length of a value in a unit. Only bare dated periods have one. -/
def Value.length (v : Value) (unit : LengthUnit) : Except Error Length :=
  match v with
  | .period p =>
    match p.length? unit with
    | some length => .ok length
    | none => .error (.type (.unconvertible unit.name v.typeName))
  | _ => .error (.type (.unconvertible unit.name v.typeName))

/-- One unit of a kind. -/
def Period.one (kind : Kind) : Period := ⟨kind, ⟨1, by decide⟩⟩

/-- The quotient of two integers, refused unless it is exact. -/
def divideExactly (x y : Int) : Except Error Int :=
  if y = 0 then .error .zeroDivisor
  else if x % y = 0 then .ok (x / y)
  else .error (Error.showing x (Error.showing y (.indivisible x y)))

end PeriodText
