import PeriodText.Period
import PeriodText.Text.Quoted

/-!
# Period dates

A period date is a position in a calendar truncated to the granularity of its kind: the second
quarter of 2018. All fields of the kind's chain are set, and other fields may be carried along;
no field is checked against the calendar. Fields given as data are read as counts in the order
from year to day, and only then is a missing field looked for.
-/

set_option autoImplicit false

namespace PeriodText

/-- The fields of a calendar date, each perhaps unset. -/
structure DateFields where
  year : Option Count := none
  semester : Option Count := none
  quarter : Option Count := none
  month : Option Count := none
  week : Option Count := none
  day : Option Count := none
  deriving DecidableEq, Repr

namespace DateFields

/-- The field of a kind. -/
def get (fields : DateFields) : Kind → Option Count
  | .year => fields.year
  | .semester => fields.semester
  | .quarter => fields.quarter
  | .month => fields.month
  | .week => fields.week
  | .day => fields.day
  | .undated => none

/-- The set fields, coarse to fine. -/
def toList (fields : DateFields) : List (Kind × Count) :=
  Kind.dated.filterMap fun kind => (fields.get kind).map (kind, ·)

/-- The fields of a chain that are unset. -/
def missing (fields : DateFields) (chain : List Kind) : List Kind :=
  chain.filter fun kind => (fields.get kind).isNone

/-- All fields of the kind's chain are set. No fields complete a kind without a chain. -/
def completes (fields : DateFields) (kind : Kind) : Bool :=
  match kind.chain? with
  | some chain => (fields.missing chain).isEmpty
  | none => false

/-- One field read from a datum. -/
def fieldOf (data : Kind → Datum) (kind : Kind) : Except Error (Option Count) :=
  match data kind with
  | .absent => .ok none
  | d => (Count.ofDatum kind d).map some

/-- The fields that data give. -/
def ofData (data : Kind → Datum) : Except Error DateFields := do
  let year ← fieldOf data .year
  let semester ← fieldOf data .semester
  let quarter ← fieldOf data .quarter
  let month ← fieldOf data .month
  let week ← fieldOf data .week
  let day ← fieldOf data .day
  return { year, semester, quarter, month, week, day }

end DateFields

/-- A position in a calendar truncated to the granularity of a kind. -/
structure PeriodDate where
  kind : Kind
  fields : DateFields
  /-- The fields place one period of the kind. -/
  complete : fields.completes kind = true
  deriving DecidableEq, Repr

/-- The fields of a kind's chain; a kind that has none is refused. -/
def Kind.required (kind : Kind) : Except Error (List Kind) :=
  match kind.chain? with
  | some chain => .ok chain
  | none => .error (.noComposite kind)

namespace PeriodDate

/-- The date of a kind with some fields, if they place one. -/
def ofFields (kind : Kind) (fields : DateFields) : Except Error PeriodDate :=
  match found : kind.chain? with
  | none => .error (.noComposite kind)
  | some chain =>
    match unset : fields.missing chain with
    | [] => .ok ⟨kind, fields, by simp [DateFields.completes, found, unset]⟩
    | first :: others => .error (.field (.incomplete kind first others))

/-- The date of a kind with fields given as data. -/
def ofData (kind : Kind) (data : Kind → Datum) : Except Error PeriodDate := do
  let fields ← DateFields.ofData data
  ofFields kind fields

/-- The datum that a list of named data gives for a kind; the last one given counts. -/
def named (data : List (String × Datum)) (kind : Kind) : Datum :=
  match data.reverse.lookup kind.name with
  | some d => d
  | none => .absent

/-- The first name that names no field of a date. -/
def strayName? (data : List (String × Datum)) : Option String :=
  (data.map (·.1)).find? fun name => !(Kind.dated.any (·.name = name))

/-- The date of a kind with fields given by name. -/
def ofNamed (kind : Kind) (data : List (String × Datum)) : Except Error PeriodDate :=
  match strayName? data with
  | some name => .error (.type (.unexpectedField name))
  | none => ofData kind (named data)

/-- The date of a kind whose chain is given by values in order. Extra fields are given by name and
stand before the values. -/
def ofChain (kind : Kind) (values : List Datum) (extra : List (String × Datum)) :
    Except Error PeriodDate := do
  let chain ← kind.required
  if values.length ≠ chain.length then
    throw (.type (.dateValues kind chain values.length))
  ofNamed kind ((chain.map Kind.name).zip values ++ extra)

/-- The date as messages show it. -/
def shown (d : PeriodDate) : String :=
  let parts := d.fields.toList.map fun (kind, count) => kind.name ++ "=" ++ decimal count.toInt
  "PeriodDate(" ++ d.kind.label ++ ", " ++ Text.listed parts ++ ")"

end PeriodDate

end PeriodText
