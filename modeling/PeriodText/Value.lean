import PeriodText.Calendar.IsoWeek
import PeriodText.PeriodDate

/-!
# Values that have fields

What can be formatted is any value that answers calendar fields: bare periods, period dates,
calendar days with or without a time of day, spans of days, and foreign records. A field is
answered as it is stored; a semester, a quarter or a week that is not stored is derived from finer
fields, the week only if they name a day of the calendar.
-/

set_option autoImplicit false

namespace PeriodText

/-- What a calendar day is given as. -/
inductive MomentSort where
  /-- A day. -/
  | day
  /-- A day and a time of day. -/
  | time
  /-- A time stamp. -/
  | stamp
  deriving DecidableEq, Repr

/-- A calendar day, perhaps with a time of day. -/
structure Moment where
  sort : MomentSort
  year : Int
  month : Int
  day : Int
  hour : Nat := 0
  minute : Nat := 0
  second : Nat := 0
  deriving DecidableEq, Repr

/-- A year, quarter, month or day as a span of days, known by its last day. -/
structure Span where
  frequency : Kind
  year : Int
  month : Int
  day : Int
  deriving DecidableEq, Repr

/-- A foreign record. -/
structure Record where
  attributes : List (String × Datum)
  /-- The period kind it claims to be of, if any. -/
  kind : Option Kind := none
  deriving Repr

/-- A value whose fields can be asked for. -/
inductive Value where
  | datum (d : Datum)
  | period (p : Period)
  | date (d : PeriodDate)
  | moment (m : Moment)
  /-- The missing time: a day whose year, month and day are not numbers. -/
  | noTime
  | span (s : Span)
  | record (r : Record)
  deriving Repr

namespace Span

/-- The year. -/
def ofYear (year : Int) : Span := ⟨.year, year, 12, 31⟩

/-- A month. -/
def ofMonth (year month : Int) : Span :=
  ⟨.month, year, month, Calendar.daysInMonth year month⟩

/-- A quarter. -/
def ofQuarter (year quarter : Int) : Span :=
  { ofMonth year (3 * quarter) with frequency := .quarter }

/-- A day. -/
def ofDay (year month day : Int) : Span := ⟨.day, year, month, day⟩

/-- The quarter that the last day is in. -/
def quarter (s : Span) : Int := (s.month - 1) / 3 + 1

/-- What the span answers for a field: the fields of its last day. -/
def stored (s : Span) : Kind → Datum
  | .year => .integer s.year
  | .quarter => .integer s.quarter
  | .month => .integer s.month
  | .week => .integer (Calendar.isoWeek s.year s.month s.day)
  | .day => .integer s.day
  | .semester => .absent
  | .undated => .absent

end Span

namespace Value

/-- The name of a value's type. -/
def typeName : Value → String
  | datum d => d.typeName
  | period p => p.kind.title
  | date _ => "PeriodDate"
  | moment m => match m.sort with
    | .day => "date"
    | .time => "datetime"
    | .stamp => "Timestamp"
  | noTime => "NaTType"
  | span _ => "Period"
  | record _ => "Record"

/-- The kind that a value says it is of. -/
def kind? : Value → Option Kind
  | period p => some p.kind
  | date d => some d.kind
  | record r => r.kind
  | _ => none

/-! ## Fields -/

/-- What the value stores for a field. -/
def stored : Value → Kind → Datum
  | datum _, _ => .absent
  | period p, kind => if p.kind = kind then .integer p.value else .absent
  | date d, kind => match d.fields.get kind with
    | some count => .integer count.toInt
    | none => .absent
  | moment m, kind => match kind with
    | .year => .integer m.year
    | .month => .integer m.month
    | .day => .integer m.day
    | _ => .absent
  | noTime, kind => match kind with
    | .year | .month | .day => .real .notNumber
    | _ => .absent
  | span s, kind => s.stored kind
  | record r, kind => (r.attributes.lookup kind.name).getD .absent

/-- The ISO week of the day that three stored fields name, if they name one. -/
def weekOf (year month day : Datum) : Except Error Datum :=
  match year, month, day with
  | .absent, _, _ => .ok .absent
  | _, .absent, _ => .ok .absent
  | _, _, .absent => .ok .absent
  | _, _, _ => do
    let some y ← year.calendarPart | return .absent
    let some m ← month.calendarPart | return .absent
    let some d ← day.calendarPart | return .absent
    match Calendar.isoWeek? y m d with
    | some week => return .integer week
    | none => return .absent

/-- A field that is not stored, derived from the stored ones. -/
def derived (get : Kind → Datum) : Kind → Except Error Datum
  | .semester =>
    match get .quarter with
    | .absent =>
      match get .month with
      | .absent => .ok .absent
      | month => month.group 6
    | quarter => quarter.pair
  | .quarter =>
    match get .month with
    | .absent => .ok .absent
    | month => month.group 3
  | .week => weekOf (get .year) (get .month) (get .day)
  | _ => .ok .absent

/-- A field as it is stored, or else derived. -/
def answer (get : Kind → Datum) (kind : Kind) : Except Error Datum :=
  match get kind with
  | .absent => derived get kind
  | d => .ok d

/-- The field that the value does not have. -/
def unanswered (v : Value) (kind : Kind) : Error := .field (.unanswered v.typeName kind)

/-- A field of a value whose stored fields may answer others. -/
def readField (v : Value) (kind : Kind) : Except Error Int := do
  match ← answer v.stored kind with
  | .absent => throw (v.unanswered kind)
  | d => d.toInteger

/-- A field of a value. A bare period answers its own kind only, and a period date has no undated
field to be asked for. -/
def field (v : Value) (kind : Kind) : Except Error Int :=
  match v with
  | period p => if p.kind = kind then .ok p.value else .error (v.unanswered kind)
  | date _ => if kind = .undated then .error (.noMember .undated) else v.readField kind
  | _ => v.readField kind

end Value

end PeriodText
