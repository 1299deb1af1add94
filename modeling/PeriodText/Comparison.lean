import PeriodText.Value

/-!
# Comparison of values

Two bare periods are equal, and ordered, only if they are of one kind; two dates are equal if kind
and fields agree, and are never ordered. Numbers of different types compare by value, moments with
a time of day among themselves, and spans of one frequency by their days. Everything else is equal
to nothing and ordered with nothing.
-/

set_option autoImplicit false

namespace PeriodText

open Numeral (Binary64)

/-- A question about the order of two values. -/
inductive OrderQuestion where
  | less
  | lessOrEqual
  | greater
  | greaterOrEqual
  deriving DecidableEq, Repr

namespace OrderQuestion

/-- The sign of the question. -/
def sign : OrderQuestion → String
  | less => "<"
  | lessOrEqual => "<="
  | greater => ">"
  | greaterOrEqual => ">="

/-- The answer, given how the two values compare. -/
def holds : OrderQuestion → Ordering → Bool
  | less, o => o = .lt
  | lessOrEqual, o => o ≠ .gt
  | greater, o => o = .gt
  | greaterOrEqual, o => o ≠ .lt

end OrderQuestion

/-- A number on the line of fractions with its two ends. -/
inductive Extended where
  | lowest
  | fraction (x : Rat)
  | highest
  deriving DecidableEq, Repr

/-- How two numbers of the line compare. -/
def Extended.compare : Extended → Extended → Ordering
  | lowest, lowest => .eq
  | lowest, _ => .lt
  | highest, highest => .eq
  | highest, _ => .gt
  | fraction _, lowest => .gt
  | fraction _, highest => .lt
  | fraction x, fraction y => if x < y then .lt else if x = y then .eq else .gt

namespace Datum

/-- The datum counts as a number. -/
def isNumber : Datum → Bool
  | flag _ | integer _ | real _ => true
  | _ => false

/-- The number that a datum is, unless it is none. -/
def extended? : Datum → Option Extended
  | flag value => some (.fraction (if value then 1 else 0))
  | integer value => some (.fraction value)
  | real .notNumber => none
  | real (.infinite negative) => some (if negative then .lowest else .highest)
  | real (.finite negative mantissa exponent) =>
    some (.fraction (Binary64.value negative mantissa exponent))
  | _ => none

/-- How two data compare, if they are comparable and one of them is not the number that is none;
the latter case is answered with nothing inside. -/
def compare? (a b : Datum) : Option (Option Ordering) :=
  if a.isNumber && b.isNumber then
    some (match a.extended?, b.extended? with
      | some x, some y => some (x.compare y)
      | _, _ => none)
  else match a, b with
  | text s, text t => some (some (if s < t then .lt else if s = t then .eq else .gt))
  | _, _ => none

/-- The two data are equal. -/
def equal (a b : Datum) : Bool :=
  match a, b with
  | absent, absent => true
  | _, _ => a.compare? b = some (some .eq)

end Datum

namespace Moment

/-- The moment as numbers from year to second. -/
def key (m : Moment) : List Int := [m.year, m.month, m.day, m.hour, m.minute, m.second]

/-- How two moments compare. -/
def compare (a b : Moment) : Ordering :=
  if a.key < b.key then .lt else if a.key = b.key then .eq else .gt

/-- The moment has no time of day. -/
def isDay (m : Moment) : Bool := m.sort = .day

end Moment

/-- The last day of the span. -/
def Span.lastDay (s : Span) : Moment :=
  { sort := .day, year := s.year, month := s.month, day := s.day }

namespace Value

/-- The name of a value's type in errors about order. -/
def orderTypeName : Value → String
  | moment m => match m.sort with
    | .day => "datetime.date"
    | .time => "datetime.datetime"
    | .stamp => "Timestamp"
  | v => v.typeName

/-- The two values are equal. -/
def equal : Value → Value → Bool
  | datum a, datum b => a.equal b
  | period a, period b => a = b
  | date a, date b => a = b
  | moment a, moment b => a.isDay = b.isDay && a.compare b = .eq
  | span a, span b => a = b
  | _, _ => false

/-- The number of different values among two. The missing time is one value, although it is not
equal to itself. -/
def countDistinct (a b : Value) : Except Error Nat :=
  match a, b with
  | datum (.list _), _ => .error (.type (.unhashable "list"))
  | _, datum (.list _) => .error (.type (.unhashable "list"))
  | noTime, noTime => .ok 1
  | _, _ => .ok (if a.equal b then 1 else 2)

/-- The error of a question about two values that are not ordered. -/
def unordered (q : OrderQuestion) (a b : Value) : Error :=
  .type (.unordered q.sign a.orderTypeName b.orderTypeName)

/-- The error of a question about a day and a moment with a time of day. -/
def dayAgainst : MomentSort → Error
  | .stamp => .type .dayAgainstStamp
  | _ => .type .dayAgainstTime

/-- The answer to a question about the order of two values. -/
def asks (q : OrderQuestion) (a b : Value) : Except Error Bool :=
  match a, b with
  | datum x, datum y => match x.compare? y with
    | some (some o) => .ok (q.holds o)
    | some none => .ok false
    | none => .error (unordered q a b)
  | period x, period y =>
    if x.kind = y.kind then .ok (q.holds (compare x.value y.value)) else .error (unordered q a b)
  | moment x, moment y =>
    if x.isDay = y.isDay then .ok (q.holds (x.compare y))
    else .error (dayAgainst (if x.isDay then y.sort else x.sort))
  | span x, span y =>
    if x.frequency = y.frequency then .ok (q.holds (x.lastDay.compare y.lastDay))
    else .error (unordered q a b)
  | noTime, noTime => .ok false
  | noTime, span _ => .ok false
  | span _, noTime => .ok false
  | noTime, moment m => if m.isDay then .error (.type .dayAgainstNoTime) else .ok false
  | moment m, noTime => if m.isDay then .error (.type .dayAgainstNoTime) else .ok false
  | _, _ => .error (unordered q a b)

end Value

end PeriodText
