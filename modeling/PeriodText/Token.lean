import PeriodText.Locale
import PeriodText.Text.Letter
import PeriodText.Value

/-!
# Tokens

A compiled pattern is a list of tokens. A literal is written and read as it stands. A field is
written from a value and read back as an integer: as a number, or, for the letters that name a
month, as a word.

A field of fixed width is read from exactly as many digits as its width, or as many letters at
most. Any other field is read from as many digits or letters as there are, and its number may have
a minus sign, if a digit follows. Numbers are written with zeros filled up to the width, the sign
outside, and are never cut.

Reading is told the position of the text that is left, for its errors, and answers with the
number of characters that it took.
-/

set_option autoImplicit false

namespace PeriodText

/-- A field of a pattern. -/
structure Field where
  specifier : Specifier
  /-- The number of letters in the pattern. -/
  width : Nat
  /-- Reading takes no more than the width, and no fewer digits. -/
  fixed : Bool
  deriving DecidableEq, Repr

/-- A step of a compiled pattern. -/
inductive Token where
  | field (f : Field)
  | literal (text : List Char)
  deriving DecidableEq, Repr

namespace Specifier

/-- The specifier that a datum is the letter of. -/
def given? : Datum → Option Specifier
  | .text s => match s.toList with
    | [c] => ofLetter? c
    | _ => none
  | _ => none

/-- The specifier that a datum is the letter of, or the reason that there is none. A list is no
key to look up. -/
def ofDatum (letter : Datum) : Except Error Specifier :=
  match given? letter, letter with
  | some s, _ => .ok s
  | none, .list _ => .error (.type (.unhashable letter.typeName))
  | none, _ => do
    let shown ← letter.shown
    throw (.unknownSpecifier shown)

/-- The datum is the letter of a specifier. -/
def isGiven (letter : Datum) : Except Error Bool :=
  match letter with
  | .list _ => .error (.type (.unhashable letter.typeName))
  | _ => .ok (given? letter).isSome

end Specifier

namespace Field

/-- The field of a letter and a width. -/
def ofData (letter : Datum) (width : Int) (fixed : Bool) : Except Error Field := do
  let specifier ← Specifier.ofDatum letter
  if width < 1 then throw (Error.showing width (.fieldWidth width))
  return ⟨specifier, width.toNat, fixed⟩

/-- The kind of the field. -/
def kind (f : Field) : Kind := f.specifier.kind

/-- The field names a month in words. -/
def isWord (f : Field) : Bool := f.specifier.style?.isSome

/-- The fewest characters that are read. -/
def leastWidth (f : Field) : Nat := if f.fixed then f.width else 1

/-- The most characters that are read, sign aside; zero if there is no bound. -/
def greatestWidth (f : Field) : Nat := if f.fixed then f.width else 0

/-- The field in a pattern. -/
def content (f : Field) : List Char := List.replicate f.width f.specifier.letter

/-- The field in a message. -/
def label (f : Field) : String := String.ofList f.content

/-- The part of a text that the field may take. -/
def within (f : Field) (text : List Char) : List Char :=
  if f.fixed then text.take f.width else text

/-! ## Reading -/

/-- The text begins with a minus sign and a digit. -/
def startsSigned : List Char → Bool
  | '-' :: c :: _ => Numeral.isDigit c
  | _ => false

/-- The field takes a minus sign from the front of the text. -/
def takesSign (f : Field) (text : List Char) : Bool := !f.fixed && startsSigned text

/-- The digits that the field takes, after its sign. -/
def digits (f : Field) (text : List Char) : List Char :=
  (f.within (if f.takesSign text then text.drop 1 else text)).takeWhile Numeral.isDigit

/-- Read a number: its value and the number of characters. -/
def readNumber (f : Field) (position : Nat) (text : List Char) : Except Error (Int × Nat) :=
  let ds := f.digits text
  if f.fixed && ds.length < f.width then
    .error (.read (.widthMismatch f.label f.width position ds.length))
  else if ds.isEmpty then .error (.read (.noDigits f.label position))
  else if Numeral.digitLimit < ds.length then .error (.numeral (.tooLongToRead ds.length))
  else if f.takesSign text then .ok (-(Numeral.ofDigits ds : Int), ds.length + 1)
  else .ok (Numeral.ofDigits ds, ds.length)

/-- The letters that the field takes. -/
def word (f : Field) (text : List Char) : List Char := (f.within text).takeWhile Text.isLetter

/-- Read a month's name: the month and the number of characters. -/
def readMonth (f : Field) (style : NameStyle) (locale : Except Error Locale) (position : Nat)
    (text : List Char) : Except Error (Int × Nat) :=
  let word := f.word text
  if word.isEmpty then .error (.read (.noMonthWord f.label position))
  else do
    let l ← locale
    let month ← l.readMonth style word (some ⟨f.label, position⟩)
    return ((month : Int), word.length)

/-- Read the field: its value and the number of characters. -/
def read (f : Field) (locale : Except Error Locale) (position : Nat) (text : List Char) :
    Except Error (Int × Nat) :=
  match f.specifier.style? with
  | some style => f.readMonth style locale position text
  | none => f.readNumber position text

/-- Reading the field asks for the locale. -/
def readAsksLocale (f : Field) (text : List Char) : Bool := f.isWord && !(f.word text).isEmpty

/-! ## Writing -/

/-- Write the value's field. -/
def render (f : Field) (locale : Except Error Locale) (v : Value) :
    Except Error (List Char) := do
  let n ← v.field f.kind
  match f.specifier.style? with
  | some style =>
    let l ← locale
    let name ← l.monthName style n
    return name.toList
  | none =>
    if Numeral.isWritable n then return Numeral.paddedText f.width n
    else throw (.numeral .tooLongToWrite)

/-- Writing the value's field asks for the locale. -/
def renderAsksLocale (f : Field) (v : Value) : Bool :=
  f.isWord && (v.field f.kind).toOption.isSome

end Field

namespace Token

/-- The literal of a text, which may not be empty. -/
def ofText (text : String) : Except Error Token :=
  if text = "" then .error .emptyLiteral else .ok (.literal text.toList)

/-- The escape before a character that stands for itself. -/
def escape : Char := Text.backslash

/-- A character of a literal in a pattern: escaped if it would mean something else. -/
def escaped (c : Char) : List Char :=
  if c = escape || Specifier.isLetter c then [escape, c] else [c]

/-- The token in a pattern. -/
def content : Token → List Char
  | field f => f.content
  | literal text => text.flatMap escaped

/-- The token in a message. -/
def label (t : Token) : String := String.ofList t.content

/-- The token as it is listed. -/
def shown : Token → String
  | field f => "PeriodPart(" ++ f.label ++ (if f.fixed then "" else ", min") ++ ")"
  | literal text => "Delim(" ++ (literal text).label ++ ")"

/-- Read the token: what it says of a field, if it is one, and the number of characters. -/
def read (t : Token) (locale : Except Error Locale) (position : Nat) (text : List Char) :
    Except Error (Option (Kind × Int) × Nat) :=
  match t with
  | field f => do
    let (n, taken) ← f.read locale position text
    return (some (f.kind, n), taken)
  | literal expected =>
    if expected.isPrefixOf text then .ok (none, expected.length)
    else .error (.read (.literalMismatch (String.ofList expected) position
      (String.ofList (text.take expected.length))))

/-- Reading the token asks for the locale. -/
def readAsksLocale : Token → List Char → Bool
  | field f, text => f.readAsksLocale text
  | literal _, _ => false

/-- Write the token for a value. -/
def render (t : Token) (locale : Except Error Locale) (v : Value) : Except Error (List Char) :=
  match t with
  | field f => f.render locale v
  | literal text => .ok text

/-- Writing the token for a value asks for the locale. -/
def renderAsksLocale : Token → Value → Bool
  | field f, v => f.renderAsksLocale v
  | literal _, _ => false

end Token

end PeriodText
