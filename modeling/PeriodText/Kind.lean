/-!
# Period kinds

The units that periods are counted in, from coarse to fine, and `undated`, which stands outside
that chain: it has no place in a calendar date. Each dated kind has a chain of fields that place
one such period in a calendar, and all but the year have a value to presume when a text leaves
their field out.
-/

set_option autoImplicit false

namespace PeriodText

/-- A unit of periods. -/
inductive Kind where
  | year
  | semester
  | quarter
  | month
  | week
  | day
  | undated
  deriving DecidableEq, Repr

namespace Kind

/-- All kinds, coarse to fine. -/
def all : List Kind := [year, semester, quarter, month, week, day, undated]

/-- The kinds that are fields of a calendar date, coarse to fine. -/
def dated : List Kind := [year, semester, quarter, month, week, day]

/-- The place of a kind in the order from coarse to fine. -/
def rank : Kind → Nat
  | year => 0
  | semester => 1
  | quarter => 2
  | month => 3
  | week => 4
  | day => 5
  | undated => 6

/-- The name of a kind. -/
def name : Kind → String
  | year => "year"
  | semester => "semester"
  | quarter => "quarter"
  | month => "month"
  | week => "week"
  | day => "day"
  | undated => "undated"

/-- The name of a kind in capitals, which messages about dates use. -/
def label : Kind → String
  | year => "YEAR"
  | semester => "SEMESTER"
  | quarter => "QUARTER"
  | month => "MONTH"
  | week => "WEEK"
  | day => "DAY"
  | undated => "UNDATED"

/-- The name of the periods of a kind. -/
def title : Kind → String
  | year => "Year"
  | semester => "Semester"
  | quarter => "Quarter"
  | month => "Month"
  | week => "Week"
  | day => "Day"
  | undated => "Undated"

/-- The kind of a name. -/
def ofName? (s : String) : Option Kind := all.find? (·.name = s)

/-- The fields that place a period of the kind in a calendar, coarse to fine. -/
def chain? : Kind → Option (List Kind)
  | year => some [year]
  | semester => some [year, semester]
  | quarter => some [year, quarter]
  | month => some [year, month]
  | week => some [year, week]
  | day => some [year, month, day]
  | undated => none

/-- The value of a field that a text leaves out. No year is presumed. -/
def presumed? : Kind → Option Int
  | year => none
  | semester => some 1
  | quarter => some 1
  | month => some 1
  | week => some 0
  | day => some 1
  | undated => none

/-- The finer of two kinds. -/
def finer (a b : Kind) : Kind := if a.rank < b.rank then b else a

/-- The finest dated kind among some. -/
def finest? (kinds : List Kind) : Option Kind :=
  match kinds.filter (· ≠ undated) with
  | [] => none
  | k :: rest => some (rest.foldl finer k)

end Kind

end PeriodText
