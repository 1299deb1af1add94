import PeriodText.Format

/-!
# Reading a text in a format

The tokens are read strictly in order, each as much as it may take, without going back. The values
of the fields are collected; a later field of one kind replaces the value of an earlier one. Text
that is left after the last token is an error.

The locale is given as the answer to asking for it, which may be an error. It is asked for once by
every month name for which letters are found, and not at all by other tokens.
-/

set_option autoImplicit false

namespace PeriodText

/-- Values of fields by kind, in the order in which the kinds were first read. -/
abbrev FieldValues := List (Kind × Int)

namespace FieldValues

/-- The value of a kind. -/
def get? (values : FieldValues) (kind : Kind) : Option Int := values.lookup kind

/-- The values with that of a kind replaced or added. -/
def put (kind : Kind) (n : Int) : FieldValues → FieldValues
  | [] => [(kind, n)]
  | entry :: rest => if entry.1 = kind then (kind, n) :: rest else entry :: put kind n rest

/-- Values put one after another. -/
def ofList (entries : List (Kind × Int)) : FieldValues :=
  entries.foldl (fun values (kind, n) => put kind n values) []

/-- The values with what a token says. -/
def putEntry (values : FieldValues) : Option (Kind × Int) → FieldValues
  | some (kind, n) => put kind n values
  | none => values

/-- The kinds that have a value. -/
def kinds (values : FieldValues) : List Kind := values.map (·.1)

end FieldValues

namespace Format

/-- What reading tokens leaves: the values, and the text left with its position. -/
structure Reading where
  values : FieldValues
  position : Nat
  rest : List Char
  deriving DecidableEq, Repr

/-- Read tokens from a text at a position, with the values read before. -/
def readFrom (locale : Except Error Locale) :
    (position : Nat) → FieldValues → List Token → List Char → Except Error Reading
  | position, values, [], text => .ok ⟨values, position, text⟩
  | position, values, t :: rest, text => do
    let (entry, taken) ← t.read locale position text
    readFrom locale (position + taken) (values.putEntry entry) rest (text.drop taken)

/-- The values of the fields that a text gives in a format. -/
def read (f : Format) (locale : Except Error Locale) (text : String) :
    Except Error FieldValues := do
  let reading ← readFrom locale 0 [] f.tokens text.toList
  if reading.rest.isEmpty then return reading.values
  else throw (.read (.trailingText (String.ofList reading.rest) reading.position f.pattern))

/-- How often reading tokens asks for the locale. -/
def readQueries (locale : Except Error Locale) : List Token → List Char → Nat
  | [], _ => 0
  | t :: rest, text =>
    (if t.readAsksLocale text then 1 else 0) +
      match t.read locale 0 text with
      | .ok (_, taken) => readQueries locale rest (text.drop taken)
      | .error _ => 0

/-- How often reading a text in a format asks for the locale. -/
def queriesToRead (f : Format) (locale : Except Error Locale) (text : String) : Nat :=
  readQueries locale f.tokens text.toList

end Format

end PeriodText
