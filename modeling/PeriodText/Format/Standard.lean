import PeriodText.Format.Rendering
import PeriodText.Locale.Builtin

/-!
# Standard formats

Every dated kind has a standard format for its dates. A date as text is the date in the standard
format of its kind.
-/

set_option autoImplicit false

namespace PeriodText

namespace Kind

/-- The pattern of a kind's standard format. -/
def standardPattern? : Kind → Option String
  | .year => some "yyyy"
  | .semester => some "yyyy-Ss"
  | .quarter => some "yyyy-Qq"
  | .month => some "yyyy-mm"
  | .week => some "yyyy-Www"
  | .day => some "yyyy-mm-dd"
  | .undated => none

/-- The standard format of a kind. -/
def standardFormat? (kind : Kind) : Option Format :=
  kind.standardPattern?.bind fun pattern => (Format.compile pattern).toOption

/-- The name of a kind's standard format. -/
def standardName? (kind : Kind) : Option String :=
  kind.standardPattern?.map fun _ => kind.title ++ "Format"

end Kind

/-- The standard format of a name. -/
def Format.standard? (name : String) : Option Format :=
  (Kind.all.find? (·.standardName? = some name)).bind Kind.standardFormat?

/-- The standard format of the kind that a value says it is of. -/
def Value.standardFormat (v : Value) : Except Error Format :=
  match v.kind?.bind Kind.standardFormat? with
  | some f => .ok f
  | none => .error (.type (.noStandardFormat v.typeName))

/-- A date as text. No standard format names a month, so any locale would do. -/
def PeriodDate.text (d : PeriodDate) : Except Error String := do
  let f ← Value.standardFormat (.date d)
  f.render (.ok Locale.english) (.date d)

end PeriodText
