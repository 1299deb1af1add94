import PeriodText.Error
import PeriodText.Text.Quoted

/-!
# Messages of errors

Every error has a message, and those about patterns, texts and fields may also have the position
of the fault and what was expected there. Names and texts stand in messages between quotes.
-/

set_option autoImplicit false

namespace PeriodText

/-- The message of an unknown field letter, given as it is shown. -/
def unknownSpecifierMessage (shown : String) : String :=
  "Unknown specifier " ++ shown ++ "; expected one of " ++ Text.quote Specifier.letters

/-- The message of a field that a value cannot answer. -/
def unansweredMessage (owner : String) (kind : Kind) : String :=
  owner ++ " value has no " ++ kind.name ++ " field"

/-- The message of a pattern error. -/
def PatternError.message : PatternError → String
  | empty => "Format pattern is empty"
  | unknownLetter letter position pattern =>
    unknownSpecifierMessage (Text.quote (String.singleton letter)) ++ " at position " ++
      decimal position ++ " of " ++ Text.quote pattern

/-- The message of a reading error. -/
def ReadError.message : ReadError → String
  | literalMismatch literal position found =>
    "Expected " ++ Text.quote literal ++ " at position " ++ decimal position ++ ", found " ++
      Text.quote found
  | widthMismatch field width position found =>
    "Expected " ++ decimal width ++ " digits for " ++ Text.quote field ++ " at position " ++
      decimal position ++ ", found " ++ decimal found
  | noDigits field position =>
    "Expected digits for " ++ Text.quote field ++ " at position " ++ decimal position
  | noMonthWord field position =>
    "Expected a month name for " ++ Text.quote field ++ " at position " ++ decimal position
  | unknownMonth style word locale suggestion site =>
    "Unknown " ++ style.phrase ++ " " ++ Text.quote word ++ " in locale " ++ Text.quote locale ++
      (match suggestion with
        | some name => " (did you mean " ++ Text.quote name ++ "?)"
        | none => "") ++
      match site with
        | some site => " at position " ++ decimal site.position
        | none => ""
  | monthOutOfRange style month locale =>
    "No " ++ style.phrase ++ " for month " ++ decimal month ++ " in locale " ++ Text.quote locale
  | trailingText rest position pattern =>
    "Unexpected trailing input " ++ Text.quote rest ++ " at position " ++ decimal position ++
      " for format " ++ Text.quote pattern
  | noFields => "Format has no fields to resolve a period from"
  | noYear kind => "Cannot resolve a " ++ kind.label ++ " period without a year"

/-- The message of a field error. -/
def FieldError.message : FieldError → String
  | unanswered owner kind => unansweredMessage owner kind
  | incomplete kind first others =>
    kind.label ++ " period date requires " ++ Text.listed ((first :: others).map Kind.name)
  | neededBy pattern field token owner kind =>
    "Format " ++ Text.quote pattern ++ " needs " ++ Text.quote field ++ " (token " ++
      decimal token ++ "): " ++ unansweredMessage owner kind

/-- The message of an argument of the wrong type. -/
def TypeMismatch.message : TypeMismatch → String
  | pattern got => "Pattern must be a string, got " ++ got
  | format got => "Expected a PeriodFormat or pattern string, got " ++ got
  | source got => "Expected a string to parse, got " ++ got
  | kindArgument shown => "Expected a PeriodKind, kind name or Period class, got " ++ shown
  | kindOrPeriod got => "Expected a PeriodKind or Period, got " ++ got
  | noStandardFormat got => "No default format for " ++ got ++ "; pass fmt explicitly"
  | count kind got => kind.title ++ " value must be an integer, got " ++ got
  | abstractPeriod => "Period is abstract; use Year, Quarter, Month, ..."
  | unhashable got => "unhashable type: " ++ Text.quote got
  | dateValues kind chain got =>
    kind.label ++ " period date takes " ++ decimal chain.length ++ " values (" ++
      Text.listed (chain.map Kind.name) ++ "), got " ++ decimal got
  | unexpectedField name =>
    "PeriodDate.__init__() got an unexpected keyword argument " ++ Text.quote name
  | notIterable got => Text.quote got ++ " object is not iterable"
  | notName got => "normalize() argument 2 must be str, not " ++ got
  | unconvertible unit got => unit ++ "() does not support " ++ got
  | unordered sign left right =>
    Text.quote sign ++ " not supported between instances of " ++ Text.quote left ++ " and " ++
      Text.quote right
  | dayAgainstTime => "can't compare datetime.datetime to datetime.date"
  | dayAgainstStamp =>
    "Cannot compare Timestamp with datetime.date. " ++
      "Use ts == pd.Timestamp(date) or ts.date() == date instead."
  | dayAgainstNoTime => "Cannot compare NaT with datetime.date object"
  | addend got =>
    "can only concatenate " ++ got ++ " (not \"int\") to " ++ got
  | minuend got => "unsupported operand type(s) for -: " ++ Text.quote got ++ " and 'int'"
  | notIndex got => Text.quote got ++ " object cannot be interpreted as an integer"
  | notNumeric got =>
    "int() argument must be a string, a bytes-like object or a real number, not " ++
      Text.quote got

/-- The most characters of a text that is not an integer which a message shows, quotes included. -/
def shownNumeralLength : Nat := 200

/-- The message of a numeral error. -/
def numeralMessage : Numeral.Refusal → String
  | .notInteger source =>
    "invalid literal for int() with base 10: " ++
      String.ofList ((Text.quoteChars source.toList).take shownNumeralLength)
  | .tooLongToRead digits =>
    "Exceeds the limit (4300 digits) for integer string conversion: value has " ++
      decimal digits ++ " digits; use sys.set_int_max_str_digits() to increase the limit"
  | .tooLongToWrite =>
    "Exceeds the limit (4300 digits) for integer string conversion; " ++
      "use sys.set_int_max_str_digits() to increase the limit"

namespace Error

/-- The message of an error. -/
def message : Error → String
  | .pattern cause => cause.message
  | .read cause => cause.message
  | .field cause => cause.message
  | .unknownSpecifier shown => unknownSpecifierMessage shown
  | .type cause => cause.message
  | .numeral cause => numeralMessage cause
  | .overflow kind count => kind.title ++ "(" ++ decimal count ++ ") does not fit in 64 bits"
  | .notANumber => "cannot convert float NaN to integer"
  | .infiniteNumber => "cannot convert float infinity to integer"
  | .unknownKind name => Text.quote name ++ " is not a valid PeriodKind"
  | .noComposite kind => kind.label ++ " has no composite representation"
  | .fieldWidth width => "Field width must be >= 1, got " ++ decimal width
  | .emptyLiteral => "Delimiter text must be non-empty"
  | .localeSize name =>
    "Locale " ++ Text.quote name ++ " needs 12 month names and 12 abbreviations"
  | .unknownLocale name available =>
    "Unknown locale " ++ Text.quote name ++ ". Available: " ++ Text.listed available
  | .unknownMode mode => "Unknown errors mode: " ++ mode ++ ". Use 'raise' or 'coerce'"
  | .ambiguousCell size =>
    if size = 0 then
      "The truth value of an empty array is ambiguous. " ++
        "Use \x60array.size > 0\x60 to check that an array is not empty."
    else
      "The truth value of an array with more than one element is ambiguous. " ++
        "Use a.any() or a.all()"
  | .indivisible x y => decimal x ++ " is not exactly divisible by " ++ decimal y
  | .zeroDivisor => "integer division or modulo by zero"
  | .noMember kind => "'PeriodDate' object has no attribute " ++ Text.quote kind.name

/-- Where the fault is: a character of the pattern or the text, or a token of the format. -/
def position? : Error → Option Nat
  | .pattern .empty => some 0
  | .pattern (.unknownLetter _ position _) => some position
  | .read (.literalMismatch _ position _) => some position
  | .read (.widthMismatch _ _ position _) => some position
  | .read (.noDigits _ position) => some position
  | .read (.noMonthWord _ position) => some position
  | .read (.unknownMonth _ _ _ _ site) => site.map Site.position
  | .read (.trailingText _ position _) => some position
  | .field (.neededBy _ _ token _ _) => some token
  | _ => none

/-- What was expected at the fault. -/
def expected? : Error → Option String
  | .pattern (.unknownLetter ..) => some Specifier.letters
  | .read (.literalMismatch literal _ _) => some literal
  | .read (.widthMismatch shown _ _ _) => some shown
  | .read (.noDigits shown _) => some shown
  | .read (.noMonthWord shown _) => some shown
  | .read (.unknownMonth _ _ _ _ site) => site.map Site.field
  | .read (.monthOutOfRange ..) => some "1-12"
  | .read (.trailingText ..) => some "end of input"
  | .read .noFields => some "y"
  | .read (.noYear _) => some "y"
  | .field (.unanswered _ kind) => some kind.name
  | .field (.incomplete _ first _) => some first.name
  | .field (.neededBy _ shown _ _ _) => some shown
  | .unknownSpecifier _ => some Specifier.letters
  | _ => none

/-- The name that an unknown month name may have been meant for. -/
def suggestion? : Error → Option String
  | .read (.unknownMonth _ _ _ suggestion _) => suggestion
  | _ => none

end Error

end PeriodText
