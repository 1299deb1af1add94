import PeriodText.Numeral.Decimal
import PeriodText.Specifier

/-!
# Errors

Every way in which a pattern, a text, a value or an argument can be refused, as a cause with the
data that its message shows. A bad pattern and a text that does not match a good one are told
apart by type.
-/

set_option autoImplicit false

namespace PeriodText

/-- A pattern that cannot be compiled. -/
inductive PatternError where
  /-- The pattern has no characters. -/
  | empty
  /-- A letter is taken for a field letter but stands for no field. -/
  | unknownLetter (letter : Char) (position : Nat) (pattern : String)
  deriving DecidableEq, Repr

/-- The field that a month name was read for, and where. -/
structure Site where
  /-- The field as the pattern shows it. -/
  field : String
  /-- Where the name begins. -/
  position : Nat
  deriving DecidableEq, Repr

/-- A text that does not match its format, or matches but gives no period, and a month that has
no name or a name that has no month. -/
inductive ReadError where
  /-- A literal of the format is not there. -/
  | literalMismatch (literal : String) (position : Nat) (found : String)
  /-- A field of fixed width has too few digits. -/
  | widthMismatch (field : String) (width position found : Nat)
  /-- A field has no digits. -/
  | noDigits (field : String) (position : Nat)
  /-- A field of month names has no letters. -/
  | noMonthWord (field : String) (position : Nat)
  /-- No month has the name. -/
  | unknownMonth (style : NameStyle) (word locale : String) (suggestion : Option String)
      (site : Option Site)
  /-- No month has the number. -/
  | monthOutOfRange (style : NameStyle) (month : Int) (locale : String)
  /-- Text is left when the format is used up. -/
  | trailingText (rest : String) (position : Nat) (pattern : String)
  /-- The format has no fields. -/
  | noFields
  /-- No year was read for a date that needs one. -/
  | noYear (kind : Kind)
  deriving DecidableEq, Repr

/-- A field that a value does not have. -/
inductive FieldError where
  /-- The value cannot answer the field. -/
  | unanswered (owner : String) (kind : Kind)
  /-- A date lacks fields of its kind's chain. -/
  | incomplete (kind first : Kind) (others : List Kind)
  /-- The value cannot answer a field of the format. -/
  | neededBy (pattern field : String) (token : Nat) (owner : String) (kind : Kind)
  deriving DecidableEq, Repr

/-- An argument of the wrong type. Most causes tell the type that was `got`. -/
inductive TypeMismatch where
  | pattern (got : String)
  | format (got : String)
  | source (got : String)
  /-- What was given for a kind, as it is shown. -/
  | kindArgument (shown : String)
  | kindOrPeriod (got : String)
  /-- No format was given for a value of a type that has no standard one. -/
  | noStandardFormat (got : String)
  | count (kind : Kind) (got : String)
  /-- A bare period has to be of some kind. -/
  | abstractPeriod
  /-- The argument cannot be looked up. -/
  | unhashable (got : String)
  /-- The values given for a chain of fields are too few or too many. -/
  | dateValues (kind : Kind) (chain : List Kind) (got : Nat)
  | unexpectedField (name : String)
  /-- The names of the months are not given as a sequence. -/
  | notIterable (got : String)
  /-- The name of a month is no text. -/
  | notName (got : String)
  | unconvertible (unit got : String)
  | unordered (sign left right : String)
  /-- The order of a day and a moment with a time of day. -/
  | dayAgainstTime
  /-- The order of a day and a time stamp. -/
  | dayAgainstStamp
  /-- The order of a day and the missing time. -/
  | dayAgainstNoTime
  | addend (got : String)
  | minuend (got : String)
  /-- A part of a calendar date is no integer. -/
  | notIndex (got : String)
  /-- A field is nothing that an integer can be made of. -/
  | notNumeric (got : String)
  deriving DecidableEq, Repr

/-- Why an operation has no result. -/
inductive Error where
  | pattern (cause : PatternError)
  | read (cause : ReadError)
  | field (cause : FieldError)
  /-- No field has the letter; `shown` is what was given for it. -/
  | unknownSpecifier (shown : String)
  | type (cause : TypeMismatch)
  | numeral (cause : Numeral.Refusal)
  /-- The count does not fit in 64 bits. -/
  | overflow (kind : Kind) (count : Int)
  /-- The floating point number is not a number. -/
  | notANumber
  /-- The floating point number is infinite. -/
  | infiniteNumber
  | unknownKind (name : String)
  /-- The kind has no dates. -/
  | noComposite (kind : Kind)
  | fieldWidth (width : Int)
  | emptyLiteral
  /-- The locale has not twelve names of either style. -/
  | localeSize (name : String)
  | unknownLocale (name : String) (available : List String)
  /-- No way to treat cells that cannot be read has the name. -/
  | unknownMode (mode : String)
  /-- A cell is a list, which cannot be told to be missing or not. -/
  | ambiguousCell (size : Nat)
  | indivisible (x y : Int)
  | zeroDivisor
  /-- Dates are not asked for the kind. -/
  | noMember (kind : Kind)
  deriving DecidableEq, Repr

/-- An error whose message shows an integer. An integer too long to write cannot be shown, and
that is the error then. -/
def Error.showing (n : Int) (e : Error) : Error :=
  if Numeral.isWritable n then e else .numeral .tooLongToWrite

end PeriodText
