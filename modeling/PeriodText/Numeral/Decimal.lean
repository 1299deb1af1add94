import PeriodText.Text.Blank

/-!
# Decimal integers

Integers as decimal text. Writing uses ASCII digits. Reading comes in two forms: fields of a
pattern hold ASCII digits only, whereas loose text may have white space around it, a sign, decimal
digits of any script, and single underscores between digits. Neither direction converts more than
4300 digits.
-/

set_option autoImplicit false

namespace PeriodText.Numeral

/-- The most digits that are converted between an integer and its text. -/
def digitLimit : Nat := 4300

/-- Why a text gives no integer, or an integer no text. -/
inductive Refusal where
  /-- The text is not an integer. -/
  | notInteger (text : String)
  /-- The text has more digits than are read. -/
  | tooLongToRead (digits : Nat)
  /-- The integer has more digits than are written. -/
  | tooLongToWrite
  deriving DecidableEq, Repr

/-! ## ASCII digits -/

/-- The character is an ASCII digit. -/
def isDigit (c : Char) : Bool := '0' ≤ c && c ≤ '9'

/-- The number that an ASCII digit stands for. -/
def digitValue (c : Char) : Nat := c.toNat - 48

/-- The number that a run of ASCII digits stands for. -/
def ofDigits (digits : List Char) : Nat :=
  digits.foldl (fun n c => 10 * n + digitValue c) 0

/-- The decimal digits of a number. -/
def digitsOf (n : Nat) : List Char := Nat.toDigits 10 n

/-- The decimal text of an integer, whatever its length. -/
def text (n : Int) : List Char :=
  if n < 0 then '-' :: digitsOf n.natAbs else digitsOf n.natAbs

/-- The integer has no more digits than are written. -/
def isWritable (n : Int) : Bool := (digitsOf n.natAbs).length ≤ digitLimit

/-- The decimal text of an integer. -/
def write (n : Int) : Except Refusal (List Char) :=
  if isWritable n then .ok (text n) else .error .tooLongToWrite

/-- Digits filled up with zeros on the left to a width. -/
def padded (width : Nat) (digits : List Char) : List Char :=
  List.replicate (width - digits.length) '0' ++ digits

/-- The decimal text of an integer with its digits filled up to a width, the sign outside. -/
def paddedText (width : Nat) (n : Int) : List Char :=
  if n < 0 then '-' :: padded width (digitsOf n.natAbs) else padded width (digitsOf n.natAbs)

/-! ## Digits of every script -/

/-- The zeros of the decimal digits of Unicode 14; the other nine digits follow each zero. -/
def zeros : List Nat :=
  [0x30, 0x660, 0x6F0, 0x7C0, 0x966, 0x9E6, 0xA66, 0xAE6, 0xB66, 0xBE6, 0xC66, 0xCE6, 0xD66,
    0xDE6, 0xE50, 0xED0, 0xF20, 0x1040, 0x1090, 0x17E0, 0x1810, 0x1946, 0x19D0, 0x1A80, 0x1A90,
    0x1B50, 0x1BB0, 0x1C40, 0x1C50, 0xA620, 0xA8D0, 0xA900, 0xA9D0, 0xA9F0, 0xAA50, 0xABF0,
    0xFF10, 0x104A0, 0x10D30, 0x11066, 0x110F0, 0x11136, 0x111D0, 0x112F0, 0x11450, 0x114D0,
    0x11650, 0x116C0, 0x11730, 0x118E0, 0x11950, 0x11C50, 0x11D50, 0x11DA0, 0x16A60, 0x16AC0,
    0x16B50, 0x1D7CE, 0x1D7D8, 0x1D7E2, 0x1D7EC, 0x1D7F6, 0x1E140, 0x1E2F0, 0x1E950, 0x1FBF0]

/-- The number that a decimal digit of any script stands for. -/
def scriptDigit? (c : Char) : Option Nat :=
  (zeros.find? fun start => start ≤ c.toNat && c.toNat < start + 10).map (c.toNat - ·)

/-- White space around a loose integer. The four ASCII separators do not count here. -/
def isMargin (c : Char) : Bool := Text.isBlank c && !(0x1C ≤ c.toNat && c.toNat ≤ 0x1F)

/-- The digits at the front of a text, with single underscores between them, and what follows.
The flag says that a digit came just before. Fails at an underscore that stands between no two
digits. -/
def digitRun : Bool → List Char → Option (List Nat × List Char)
  | _, [] => some ([], [])
  | afterDigit, '_' :: rest =>
    match rest with
    | c :: _ => if afterDigit && (scriptDigit? c).isSome then digitRun false rest else none
    | [] => none
  | _, c :: rest =>
    match scriptDigit? c with
    | some d => (digitRun true rest).map fun (ds, after) => (d :: ds, after)
    | none => some ([], c :: rest)

/-- Read a loose integer. Too many digits are refused before what follows them is looked at. -/
def read (source : String) : Except Refusal Int :=
  let body := source.toList.dropWhile isMargin
  let (negative, unsigned) := match body with
    | '-' :: rest => (true, rest)
    | '+' :: rest => (false, rest)
    | rest => (false, rest)
  match digitRun false unsigned with
  | none => .error (.notInteger source)
  | some (digits, after) =>
    if digitLimit < digits.length then .error (.tooLongToRead digits.length)
    else if digits.isEmpty || !(after.all isMargin) then .error (.notInteger source)
    else
      let magnitude : Nat := digits.foldl (fun n d => 10 * n + d) 0
      .ok (if negative then -(magnitude : Int) else magnitude)

end PeriodText.Numeral

namespace PeriodText

/-- The decimal text of an integer, whatever its length. -/
def decimal (n : Int) : String := String.ofList (Numeral.text n)

end PeriodText
