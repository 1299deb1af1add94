import PeriodText.Error.Message
import PeriodText.Session

/-!
# Series

A series is a column of values with an index and a name. It is written and read cell by cell; a
missing cell stays missing. The format is looked up once for the whole series, before any cell.
When a cell cannot be read, either the series fails with that cell's error, or, if asked for, the
cell becomes missing; only errors of reading can be skipped so.
-/

set_option autoImplicit false

namespace PeriodText

/-- A column of values. -/
structure Series (α : Type) where
  values : List α
  index : List Datum
  name : Datum
  deriving Repr

namespace Series

/-- The series with other values. -/
def withValues {α β : Type} (s : Series α) (values : List β) : Series β := { s with values }

/-- The index of a series that is given none: the places of the values, from zero. -/
def places (count : Nat) : List Datum := (List.range count).map fun (i : Nat) => .integer i

end Series

/-- The value is missing. A list is asked item by item, so it has to have exactly one. -/
def Value.isMissing : Value → Except Error Bool
  | .datum .absent => .ok true
  | .noTime => .ok true
  | .datum (.real .notNumber) => .ok true
  | .datum (.list items) =>
    let d := Datum.list items
    if d.extent = 1 then
      match d.core with
      | .absent | .real .notNumber => .ok true
      | _ => .ok false
    else .error (.ambiguousCell d.extent)
  | _ => .ok false

/-- What to do with a cell that cannot be read. -/
inductive CellErrors where
  /-- The series fails. -/
  | fail
  /-- The cell becomes missing. -/
  | skip
  deriving DecidableEq, Repr

/-- The mode that a datum names. -/
def CellErrors.ofDatum (d : Datum) : Except Error CellErrors := do
  match d with
  | .text "raise" => return fail
  | .text "coerce" => return skip
  | d =>
    let mode ← d.plain
    throw (.unknownMode mode)

namespace Request

/-- Write a cell, in a format or in the standard one. -/
def formatCell (format : Option Format) (argument : LocaleArgument) (v : Value) :
    Request (Option String) := do
  if ← ofExcept v.isMissing then return none
  else
    let f := match format with
      | some f => FormatArgument.compiled f
      | none => .datum .absent
    let text ← formatValue v f argument
    return some text

/-- Write a series. -/
def formatSeries (s : Series Value) (format : FormatArgument) (argument : LocaleArgument) :
    Request (Series (Option String)) := do
  let f ← match format with
    | .datum .absent => pure none
    | _ => some <$> formatOf format
  let texts ← s.values.mapM (formatCell f argument)
  return s.withValues texts

/-- Read a cell. -/
def parseCell (f : Format) (kind : Option Kind) (argument : LocaleArgument) (v : Value) :
    Request (Option Resolved) := do
  if ← ofExcept v.isMissing then return none
  else
    let text ← ofExcept v.plain
    let resolved ← parse f kind text argument
    return some resolved

/-- Read a cell, with an error of reading told by a notice. -/
def skimCell (f : Format) (kind : Option Kind) (argument : LocaleArgument) (v : Value) :
    Request (Except ReadError (Option Resolved)) := do
  match ← attempt (parseCell f kind argument v) with
  | .ok answer => return .ok answer
  | .error (.read cause) =>
    let shown ← ofExcept v.shown
    note [.cellSkipped shown f.pattern cause.message]
    return .error cause
  | .error e => throw e

/-- Read a series. -/
def parseSeries (s : Series Value) (format : FormatArgument) (kind : KindArgument)
    (argument : LocaleArgument) (errors : Datum) : Request (Series (Option Resolved)) := do
  let mode ← ofExcept (CellErrors.ofDatum errors)
  let f ← formatOf format
  let target ← ofExcept kind.resolve
  match mode with
  | .fail =>
    let periods ← s.values.mapM (parseCell f target argument)
    return s.withValues periods
  | .skip =>
    let answers ← s.values.mapM (skimCell f target argument)
    let skipped := (answers.filter fun answer => answer.toOption.isNone).length
    if 0 < skipped then note [.cellsSkipped skipped s.values.length]
    return s.withValues (answers.map fun answer => answer.toOption.join)

end Request

end PeriodText
