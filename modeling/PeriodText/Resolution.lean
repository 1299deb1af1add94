import PeriodText.Format.Reading

/-!
# From field values to a period

The values that were read become a bare period when they are of a single kind and no kind is asked
for. Otherwise they become a date of the kind asked for, or of the finest kind read. The date
keeps every value, and fields of its kind's chain that were not read have their presumed values; a
year is not presumed.
-/

set_option autoImplicit false

namespace PeriodText

/-- What a text resolves to. -/
inductive Resolved where
  | period (p : Period)
  | date (d : PeriodDate)
  deriving DecidableEq, Repr

/-- The value that a resolved text is. -/
def Resolved.toValue : Resolved → Value
  | period p => .period p
  | date d => .date d

namespace FieldValues

/-- The values together with the presumed ones of a chain. -/
def withPresumed (values : FieldValues) (target : Kind) :
    (chain : List Kind) → Except Error FieldValues
  | [] => .ok values
  | kind :: rest =>
    if (values.get? kind).isSome then withPresumed values target rest
    else match kind.presumed? with
    | some n => withPresumed (values ++ [(kind, n)]) target rest
    | none => .error (.read (.noYear target))

/-- The datum of a kind. -/
def datum (values : FieldValues) (kind : Kind) : Datum :=
  match values.get? kind with
  | some n => .integer n
  | none => .absent

/-- The date of a kind that the values give. An undated value has no place in it. -/
def toDate (values : FieldValues) (kind : Kind) : Except Error PeriodDate := do
  let chain ← kind.required
  let full ← values.withPresumed kind chain
  if (full.get? .undated).isSome then throw (.type (.unexpectedField Kind.undated.name))
  PeriodDate.ofData kind full.datum

/-- The period that the values give, of the kind asked for or of their own. -/
def resolve (values : FieldValues) (kind : Option Kind) : Except Error Resolved :=
  match kind, values with
  | none, [(only, n)] => (Period.ofInt only n).map .period
  | some kind, _ => (values.toDate kind).map .date
  | none, _ => match Kind.finest? values.kinds with
    | some kind => (values.toDate kind).map .date
    | none => .error (.read .noFields)

end FieldValues

/-- The period that a text is in a format. -/
def Format.parse (f : Format) (locale : Except Error Locale) (kind : Option Kind) (text : String) :
    Except Error Resolved := do
  let values ← f.read locale text
  values.resolve kind

end PeriodText
