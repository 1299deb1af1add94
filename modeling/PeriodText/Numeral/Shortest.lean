import PeriodText.Numeral.Binary64
import PeriodText.Numeral.Decimal

/-!
# Floating point text

A finite number is written with the fewest significant digits that read back as it; of two such
numerals of one length the nearer counts. The digits stand positionally, with at least one digit
on either side of the point, when the first of them has a place value from 10⁻⁴ to 10¹⁵, and with
an exponent of at least two digits otherwise. Reading takes a decimal numeral with an optional
fraction and exponent, or the name of an infinity or of no number.
-/

set_option autoImplicit false

namespace PeriodText.Numeral.Binary64

/-- The power of ten. -/
def tenTo (n : Nat) : Nat := Nat.pow 10 n

/-- The number nearest to `digits` times 10 to the `exponent`. -/
def ofScientific (negative : Bool) (digits : Nat) (exponent : Int) : Binary64 :=
  if exponent < 0 then ofRatio negative digits (tenTo exponent.natAbs)
  else ofRatio negative (digits * tenTo exponent.natAbs) 1

/-! ## Writing -/

/-- Places that lift every positive number above one. -/
def liftPlaces : Nat := 350

/-- The place value of the first significant digit of `num / den`. -/
def leadingPlace (num den : Nat) : Int :=
  ((digitsOf (num * tenTo liftPlaces / den)).length : Int) - 1 - liftPlaces

/-- The numeral of `count` significant digits nearest to `num / den` among those that read back as
`x`: its digits and the exponent of the last one. -/
def numeralOf? (x : Binary64) (num den count : Nat) : Option (Nat × Int) :=
  let exponent := leadingPlace num den - (count : Int) + 1
  let (n, d) :=
    if exponent < 0 then (num * tenTo exponent.natAbs, den)
    else (num, den * tenTo exponent.natAbs)
  let below := n / d
  let above := below + 1
  let readsBack (digits : Nat) := decide (ofScientific false digits exponent = x)
  let nearerBelow := roundQuotient n d = below
  let (first, second) := if nearerBelow then (below, above) else (above, below)
  if readsBack first then some (first, exponent)
  else if readsBack second then some (second, exponent)
  else none

/-- The digits of a numeral without the zeros at its end, and the exponent of the last one kept. -/
def withoutZeros (digits : List Char) (exponent : Int) : List Char × Int :=
  let zeros := (digits.reverse.takeWhile (· = '0')).length
  (digits.take (digits.length - zeros), exponent + zeros)

/-- The shortest numeral of a positive finite number. Seventeen digits always read back. -/
def shortest (mantissa : Nat) (exponent : Int) : List Char × Int :=
  let x := Binary64.finite false mantissa exponent
  let (num, den) :=
    if exponent < 0 then (mantissa, twoTo exponent.natAbs)
    else (mantissa * twoTo exponent.natAbs, 1)
  match (List.range 17).findSome? fun i => numeralOf? x num den (i + 1) with
  | some (digits, last) => withoutZeros (digitsOf digits) last
  | none => (['0'], 0)

/-- The exponent of a numeral: its sign and at least two digits. -/
def exponentText (n : Int) : List Char :=
  (if n < 0 then '-' else '+') :: padded 2 (digitsOf n.natAbs)

/-- Digits with the point or the exponent put in. -/
def laidOut (digits : List Char) (last : Int) : List Char :=
  let count := digits.length
  let first : Int := last + count - 1
  if first < -4 || 16 ≤ first then
    digits.take 1 ++ (if count = 1 then [] else '.' :: digits.drop 1) ++
      'e' :: exponentText first
  else if first < 0 then
    '0' :: '.' :: List.replicate (first.natAbs - 1) '0' ++ digits
  else
    let whole := first.toNat + 1
    if count ≤ whole then digits ++ List.replicate (whole - count) '0' ++ ['.', '0']
    else digits.take whole ++ '.' :: digits.drop whole

/-- The text of a number. -/
def text : Binary64 → String
  | .notNumber => "nan"
  | .infinite negative => if negative then "-inf" else "inf"
  | .finite negative mantissa exponent =>
    let magnitude :=
      if mantissa = 0 then ['0', '.', '0']
      else
        let (digits, last) := shortest mantissa exponent
        laidOut digits last
    String.ofList (if negative then '-' :: magnitude else magnitude)

/-! ## Reading -/

/-- The number that a run of digits stands for. -/
def digits? (digits : List Char) : Option Nat :=
  if digits.isEmpty || !digits.all isDigit then none else some (ofDigits digits)

/-- The integer that a signed run of digits stands for. -/
def signedDigits? : List Char → Option Int
  | '-' :: digits => (digits? digits).map fun n => -(n : Int)
  | '+' :: digits => (digits? digits).map fun n => (n : Int)
  | digits => (digits? digits).map fun n => (n : Int)

/-- The number that an unsigned numeral stands for. -/
def unsigned? (negative : Bool) (source : List Char) : Option Binary64 :=
  let whole := source.takeWhile isDigit
  let afterWhole := source.dropWhile isDigit
  let (fraction, tail) := match afterWhole with
    | '.' :: rest => (rest.takeWhile isDigit, rest.dropWhile isDigit)
    | rest => ([], rest)
  let digits := whole ++ fraction
  if digits.isEmpty then none
  else
    let shift : Option Int := match tail with
      | [] => some 0
      | 'e' :: rest => signedDigits? rest
      | 'E' :: rest => signedDigits? rest
      | _ => none
    shift.map fun shift => ofScientific negative (ofDigits digits) (shift - fraction.length)

/-- Read a number. -/
def read? (source : String) : Option Binary64 :=
  let (negative, rest) := match source.toList with
    | '-' :: rest => (true, rest)
    | '+' :: rest => (false, rest)
    | rest => (false, rest)
  let name := String.ofList (rest.map Char.toLower)
  if name = "nan" then some .notNumber
  else if name = "inf" || name = "infinity" then some (.infinite negative)
  else unsigned? negative rest

end PeriodText.Numeral.Binary64
