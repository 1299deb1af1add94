import PeriodText.Format
import PeriodText.Locale.Registry
import PeriodText.Text.LowerCase

/-!
# Arguments of requests

A request may name its format, its kind and its locale in several ways, and may get them wrong.
Formats are given compiled or by a datum, which ought to be a pattern; kinds as such, by the class
of their periods, or by a datum, which ought to be a name; locales by name or as such, and none
means the default.
-/

set_option autoImplicit false

namespace PeriodText

/-- What a request gives for a format. -/
inductive FormatArgument where
  | compiled (f : Format)
  | datum (d : Datum)
  deriving Repr

/-- What a request gives for a kind. -/
inductive KindArgument where
  | kind (k : Kind)
  /-- The class of the periods of a kind. -/
  | periods (k : Kind)
  /-- The class of all periods. -/
  | allPeriods
  | datum (d : Datum)
  deriving Repr

/-- What a request gives for a locale. -/
inductive LocaleArgument where
  | default
  | named (name : String)
  | given (l : Locale)
  deriving Repr

namespace KindArgument

/-- How messages show the class of all periods. -/
def allPeriodsShown : String := "<class 'periodformat.periods.periodtypes.Period'>"

/-- The kind asked for, if any. A name counts in any case of its letters. -/
def resolve : KindArgument → Except Error (Option Kind)
  | kind k => .ok (some k)
  | periods k => .ok (some k)
  | allPeriods => .error (.type (.kindArgument allPeriodsShown))
  | datum .absent => .ok none
  | datum (.text s) =>
    let name := String.ofList (Text.lower s.toList)
    match Kind.ofName? name with
    | some k => .ok (some k)
    | none => .error (.unknownKind name)
  | datum d => do
    let shown ← d.shown
    throw (.type (.kindArgument shown))

/-- The kind whose unit is asked for. A name does not do. -/
def unitKind : KindArgument → Except Error Kind
  | kind k => .ok k
  | periods k => .ok k
  | allPeriods => .error (.type (.kindOrPeriod Datum.absent.typeName))
  | datum d => .error (.type (.kindOrPeriod d.typeName))

end KindArgument

/-- The kind of a period whose unit is asked for. -/
def Value.unitKind : Value → Except Error Kind
  | .period p => .ok p.kind
  | v => .error (.type (.kindOrPeriod v.typeName))

namespace Registry

/-- The locale that a request asks for. -/
def resolve (r : Registry) (environment : Option String) :
    LocaleArgument → Except Error Locale
  | .default => r.get (r.defaultName environment)
  | .named name => r.get name
  | .given l => .ok l

end Registry

end PeriodText
