import PeriodText.Text.Printable

/-!
# Quoted text

Messages show text between quotes. The quotes are single ones, unless the text holds a single
quote and no double one. The quote in use and the backslash are escaped by a backslash, line
feed, carriage return and tab by their letters, and every other character that is not printable
by its code point: two, four or eight hexadecimal digits after `x`, `u` or `U`, whichever is the
first that is wide enough.
-/

set_option autoImplicit false

namespace PeriodText.Text

/-- The double quote. -/
def doubleQuote : Char := '\x22'
/-- The single quote. -/
def singleQuote : Char := '\x27'
/-- The backslash. -/
def backslash : Char := '\x5c'

/-- The hexadecimal digits of a number, lower case, filled up to a width. -/
def hexDigits (width n : Nat) : List Char :=
  let digits := Nat.toDigits 16 n
  List.replicate (width - digits.length) '0' ++ digits

/-- A code point written as an escape. -/
def escapeCode (n : Nat) : List Char :=
  if n < 0x100 then backslash :: 'x' :: hexDigits 2 n
  else if n < 0x10000 then backslash :: 'u' :: hexDigits 4 n
  else backslash :: 'U' :: hexDigits 8 n

/-- One character inside quotes. -/
def quoteChar (quote c : Char) : List Char :=
  if c = quote || c = backslash then [backslash, c]
  else if c = '\n' then [backslash, 'n']
  else if c = '\r' then [backslash, 'r']
  else if c = '\t' then [backslash, 't']
  else if isPrintable c then [c]
  else escapeCode c.toNat

/-- The quote that a text is put between. -/
def quoteFor (text : List Char) : Char :=
  if text.contains singleQuote && !text.contains doubleQuote then doubleQuote else singleQuote

/-- The text between quotes. -/
def quoteChars (text : List Char) : List Char :=
  let quote := quoteFor text
  quote :: text.flatMap (quoteChar quote) ++ [quote]

/-- The text between quotes. -/
def quote (text : String) : String := String.ofList (quoteChars text.toList)

/-- Names joined by a comma and a space. -/
def listed (names : List String) : String := String.intercalate ", " names

end PeriodText.Text
