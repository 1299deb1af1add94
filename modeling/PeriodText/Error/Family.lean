import PeriodText.Error

/-!
# Families of errors

Errors are told apart by families, each within wider ones. The documented families are those of
errors about patterns, texts, fields and field letters; all of them are within the family of
period errors, which is within that of value errors.
-/

set_option autoImplicit false

namespace PeriodText

/-- A family of errors. -/
inductive ErrorFamily where
  | period
  | pattern
  | invalidSpecifier
  | emptyPattern
  | reading
  | literalMismatch
  | widthMismatch
  | noDigits
  | unknownMonth
  | trailingText
  | noYear
  | noField
  | unknownSpecifier
  | value
  | type
  | lookup
  | overflow
  | arithmetic
  | zeroDivision
  | member
  deriving DecidableEq, Repr

namespace ErrorFamily

/-- The name of a family. -/
def name : ErrorFamily → String
  | period => "PeriodFormatError"
  | pattern => "FormatCompileError"
  | invalidSpecifier => "InvalidSpecifier"
  | emptyPattern => "EmptyFormat"
  | reading => "PeriodParseError"
  | literalMismatch => "DelimiterMismatch"
  | widthMismatch => "WidthMismatch"
  | noDigits => "NoDigits"
  | unknownMonth => "UnknownMonthName"
  | trailingText => "TrailingInput"
  | noYear => "MissingYear"
  | noField => "MissingField"
  | unknownSpecifier => "UnknownSpecifier"
  | value => "ValueError"
  | type => "TypeError"
  | lookup => "LookupError"
  | overflow => "OverflowError"
  | arithmetic => "ArithmeticError"
  | zeroDivision => "ZeroDivisionError"
  | member => "AttributeError"

/-- The family next around a family, if there is one. -/
def parent? : ErrorFamily → Option ErrorFamily
  | period => some value
  | pattern | reading | noField | unknownSpecifier => some period
  | invalidSpecifier | emptyPattern => some pattern
  | literalMismatch | widthMismatch | noDigits | unknownMonth | trailingText | noYear =>
    some reading
  | overflow | zeroDivision => some arithmetic
  | value | type | lookup | arithmetic | member => none

/-- The families around a family, nearest first, up to a number of them. -/
def ancestors : (bound : Nat) → ErrorFamily → List ErrorFamily
  | 0, _ => []
  | bound + 1, family => match family.parent? with
    | some wider => wider :: ancestors bound wider
    | none => []

/-- The greatest number of families around one. -/
def depth : Nat := 3

/-- A family and those around it, nearest first. An unknown field letter is also a failed
look-up. -/
def lineage (family : ErrorFamily) : List ErrorFamily :=
  family :: family.ancestors depth ++ if family = unknownSpecifier then [lookup] else []

/-- The names of what is around every family. -/
def roots : List String := ["Exception", "BaseException", "object"]

/-- The names of a family and all that is around it, nearest first. -/
def lineageNames (family : ErrorFamily) : List String := family.lineage.map name ++ roots

/-- The documented families. -/
def documented : List ErrorFamily :=
  [period, pattern, invalidSpecifier, emptyPattern, reading, literalMismatch, widthMismatch,
    noDigits, unknownMonth, trailingText, noYear, noField, unknownSpecifier]

/-- The second name of the family of reading errors. -/
def readingAlias : String := "ParseError"

/-- The documented family of a name. -/
def ofName? (s : String) : Option ErrorFamily :=
  if s = readingAlias then some reading else documented.find? (·.name = s)

end ErrorFamily

/-- The family of an error. -/
def Error.family : Error → ErrorFamily
  | .pattern .empty => .emptyPattern
  | .pattern (.unknownLetter ..) => .invalidSpecifier
  | .read (.literalMismatch ..) => .literalMismatch
  | .read (.widthMismatch ..) => .widthMismatch
  | .read (.noDigits ..) => .noDigits
  | .read (.noMonthWord ..) => .unknownMonth
  | .read (.unknownMonth ..) => .unknownMonth
  | .read (.monthOutOfRange ..) => .unknownMonth
  | .read (.trailingText ..) => .trailingText
  | .read .noFields => .noYear
  | .read (.noYear _) => .noYear
  | .field _ => .noField
  | .unknownSpecifier _ => .unknownSpecifier
  | .type _ => .type
  | .overflow .. => .overflow
  | .infiniteNumber => .overflow
  | .unknownLocale .. => .lookup
  | .indivisible .. => .arithmetic
  | .zeroDivisor => .zeroDivision
  | .noMember _ => .member
  | .numeral _ | .notANumber | .unknownKind _ | .noComposite _ | .fieldWidth _ | .emptyLiteral
  | .localeSize _ | .unknownMode _ | .ambiguousCell _ => .value

/-- The error is about a pattern, a text, a field or a field letter. -/
def Error.isDocumented (e : Error) : Bool := e.family.lineage.contains .period

end PeriodText
