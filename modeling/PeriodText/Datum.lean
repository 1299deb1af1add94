import PeriodText.Error
import PeriodText.Numeral.Shortest
import PeriodText.Text.Blank
import PeriodText.Text.Quoted

/-!
# Loosely typed data

Cells of a table, attributes of foreign records and unchecked arguments come as data of any basic
type. A datum can be shown, turned into text, and read as an integer; the little arithmetic that
derives one calendar field from another works on whole numbers and floating point numbers alike
and refuses the rest.
-/

set_option autoImplicit false

namespace PeriodText

open Numeral (Binary64)

/-- A datum of a basic type. -/
inductive Datum where
  /-- No value. -/
  | absent
  | flag (value : Bool)
  | integer (value : Int)
  | real (value : Binary64)
  | text (value : String)
  | list (items : List Datum)
  deriving Inhabited, Repr

namespace Datum

/-- The name of a datum's type. -/
def typeName : Datum → String
  | absent => "NoneType"
  | flag _ => "bool"
  | integer _ => "int"
  | real _ => "float"
  | text _ => "str"
  | list _ => "list"

/-- An integer whose digits are counted on the way to text. -/
def integerText (n : Int) : Except Error String :=
  match Numeral.write n with
  | .ok digits => .ok (String.ofList digits)
  | .error refusal => .error (.numeral refusal)

mutual

/-- A datum as messages show it: text between quotes, lists between brackets. -/
def shown : Datum → Except Error String
  | absent => .ok "None"
  | flag value => .ok (if value then "True" else "False")
  | integer value => integerText value
  | real value => .ok value.text
  | text value => .ok (Text.quote value)
  | list items => do
    let parts ← shownAll items
    return "[" ++ Text.listed parts ++ "]"

/-- The items of a list as messages show them. -/
def shownAll : List Datum → Except Error (List String)
  | [] => .ok []
  | item :: rest => do
    let first ← shown item
    let others ← shownAll rest
    return first :: others

end

/-- A datum as plain text: text as it stands, all else as it is shown. -/
def plain : Datum → Except Error String
  | text value => .ok value
  | other => other.shown

/-- A datum as an integer. Floating point numbers lose what follows the point, and text is read. -/
def toInteger : Datum → Except Error Int
  | integer value => .ok value
  | flag value => .ok (if value then 1 else 0)
  | real .notNumber => .error .notANumber
  | real (.infinite _) => .error .infiniteNumber
  | real (.finite negative mantissa exponent) =>
    .ok (Binary64.truncate (Binary64.value negative mantissa exponent))
  | text value =>
    match Numeral.read value with
    | .ok n => .ok n
    | .error refusal => .error (.numeral refusal)
  | other => .error (.type (.notNumeric other.typeName))

/-! ## Arithmetic -/

/-- A number and an integer added; what is no number is refused as a left addend. -/
def plus (n : Int) : Datum → Except Error Datum
  | integer value => .ok (integer (value + n))
  | flag value => .ok (integer ((if value then 1 else 0) + n))
  | real value => .ok (real (value.plus n))
  | other => .error (.type (.addend other.typeName))

/-- One less than a number; what is no number is refused as a minuend. -/
def lessOne : Datum → Except Error Datum
  | integer value => .ok (integer (value - 1))
  | flag value => .ok (integer ((if value then 1 else 0) - 1))
  | real value => .ok (real (value.plus (-1)))
  | other => .error (.type (.minuend other.typeName))

/-- A number divided by a positive integer and rounded down. -/
def floorDiv (n : Nat) : Datum → Except Error Datum
  | integer value => .ok (integer (value / n))
  | flag value => .ok (integer ((if value then 1 else 0) / n))
  | real value => .ok (real (value.floorDiv n))
  | other => .error (.type (.addend other.typeName))

/-- Which group of `size` units a unit counted from one is in, counted from one. -/
def group (size : Nat) (unit : Datum) : Except Error Datum := do
  let before ← unit.lessOne
  let whole ← before.floorDiv size
  whole.plus 1

/-- Which pair a unit counted from one is in, counted from one. -/
def pair (unit : Datum) : Except Error Datum := do
  let next ← unit.plus 1
  next.floorDiv 2

/-- The bound of the numbers that a part of a calendar date may be given as: from its negative up to
one less than it. -/
def partLimit : Int := 2147483648

/-- A datum as the year, month or day of a calendar date: an integer, or nothing if it is out of
all bounds. -/
def calendarPart : Datum → Except Error (Option Int)
  | integer value => .ok (if -partLimit ≤ value && value < partLimit then some value else none)
  | flag value => .ok (some (if value then 1 else 0))
  | other => .error (.type (.notIndex other.typeName))

/-- The number of single data in a list, in as many levels as its first items nest. -/
def extent : Datum → Nat
  | list [] => 0
  | list [item] => item.extent
  | list (item :: rest) => item.extent + rest.length
  | _ => 1

/-- The only datum inside nested lists of one item. -/
def core : Datum → Datum
  | list [item] => item.core
  | other => other

end Datum

end PeriodText
