import PeriodText.Locale.Builtin

/-!
# Registered locales

A registry maps names to locales. It starts with four languages; a locale registered under a name
replaces the one that had it, and no name is ever removed. The default locale is the one that the
environment names, if it is registered, and English otherwise.
-/

set_option autoImplicit false

namespace PeriodText

/-- Names and the locales registered under them, each name once. -/
abbrev Registry := List (String × Locale)

namespace Registry

/-- The registry to start with. -/
def builtin : Registry :=
  [Locale.english, Locale.french, Locale.german, Locale.spanish].map fun l => (l.name, l)

/-- The locale registered under a name. -/
def find? (r : Registry) (name : String) : Option Locale := r.lookup name

/-- The name is registered. -/
def has (r : Registry) (name : String) : Bool := (r.find? name).isSome

/-- The registry with a locale under its name, in the place of the one that had it. -/
def put (l : Locale) : Registry → Registry
  | [] => [(l.name, l)]
  | entry :: rest => if entry.1 = l.name then (l.name, l) :: rest else entry :: put l rest

/-- The registered names in sorted order. -/
def names (r : Registry) : List String :=
  (r.map (·.1)).mergeSort fun a b => !decide (b < a)

/-- The locale of a name, or the reason that there is none. -/
def get (r : Registry) (name : String) : Except Error Locale :=
  match r.find? name with
  | some l => .ok l
  | none => .error (.unknownLocale name r.names)

/-- The name of the locale to fall back on. -/
def fallback : String := Locale.english.name

/-- The name of the default locale that the environment asks for; an empty name asks for none. -/
def wanted (environment : Option String) : String :=
  match environment with
  | some name => if name = "" then fallback else name
  | none => fallback

/-- The name of the default locale. -/
def defaultName (r : Registry) (environment : Option String) : String :=
  if r.has (wanted environment) then wanted environment else fallback

/-- The name of the default locale that the environment asks for in vain. -/
def unmetDefault? (r : Registry) (environment : Option String) : Option String :=
  if r.has (wanted environment) then none else some (wanted environment)

end Registry

end PeriodText
