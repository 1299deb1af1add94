/-!
# Binary floating point

Numbers of 64 bits: a sign, a mantissa below 2 to the 53 and an exponent, or an infinity, or no
number at all. All arithmetic is exact on fractions and is rounded once, to the nearest such
number and to the even mantissa at a tie, so every result can be computed and reasoned about
without a machine's own arithmetic.

Results of arithmetic do not tell the two zeros apart; only a number as given keeps its sign.
-/

set_option autoImplicit false

namespace PeriodText.Numeral

/-- A floating point number of 64 bits. A finite one is `mantissa` times 2 to the `exponent`. -/
inductive Binary64 where
  /-- Not a number. -/
  | notNumber
  /-- An infinity. -/
  | infinite (negative : Bool)
  /-- A finite number. -/
  | finite (negative : Bool) (mantissa : Nat) (exponent : Int)
  deriving DecidableEq, Repr

namespace Binary64

/-- The power of two. -/
def twoTo (n : Nat) : Nat := Nat.pow 2 n

/-- The least exponent. -/
def leastExponent : Int := -1074

/-- The greatest exponent. -/
def greatestExponent : Int := 971

/-! ## Rounding -/

/-- The fraction `num / den` divided by 2 to the `exponent`, as a numerator and a denominator. -/
def scaled (num den : Nat) (exponent : Int) : Nat × Nat :=
  if exponent < 0 then (num * twoTo exponent.natAbs, den)
  else (num, den * twoTo exponent.natAbs)

/-- A fraction rounded to a whole number: the nearest one, and the even one at a tie. -/
def roundQuotient (num den : Nat) : Nat :=
  let floor := num / den
  let rest := num % den
  if 2 * rest < den then floor
  else if den < 2 * rest then floor + 1
  else floor + floor % 2

/-- The exponent at which a positive fraction has a mantissa of 53 bits, or the least one. -/
def exponentOf (num den : Nat) : Int :=
  let guess : Int := (num.log2 : Int) - (den.log2 : Int) - 53
  let (n, d) := scaled num den guess
  let exponent := if n / d < twoTo 53 then guess else guess + 1
  if exponent < leastExponent then leastExponent else exponent

/-- The number nearest to `num / den`, with the given sign. -/
def ofRatio (negative : Bool) (num den : Nat) : Binary64 :=
  if num = 0 then .finite negative 0 leastExponent
  else
    let exponent := exponentOf num den
    let (n, d) := scaled num den exponent
    let rounded := roundQuotient n d
    let (mantissa, exponent) :=
      if rounded = twoTo 53 then (twoTo 52, exponent + 1) else (rounded, exponent)
    if greatestExponent < exponent then .infinite negative
    else .finite negative mantissa exponent

/-- The number nearest to a fraction. -/
def ofRat (x : Rat) : Binary64 := ofRatio (decide (x.num < 0)) x.num.natAbs x.den

/-- The number nearest to an integer. -/
def ofInt (n : Int) : Binary64 := ofRatio (decide (n < 0)) n.natAbs 1

/-- The value of a finite number. -/
def value (negative : Bool) (mantissa : Nat) (exponent : Int) : Rat :=
  let magnitude : Rat :=
    if exponent < 0 then mkRat mantissa (twoTo exponent.natAbs)
    else ((mantissa * twoTo exponent.natAbs : Nat) : Rat)
  if negative then -magnitude else magnitude

/-- The fraction that a number is, unless it is an infinity or not a number. -/
def toRat? : Binary64 → Option Rat
  | .finite negative mantissa exponent => some (value negative mantissa exponent)
  | _ => none

/-! ## Arithmetic -/

/-- The product of two numbers that are finite. -/
def times (x y : Binary64) : Binary64 :=
  match x.toRat?, y.toRat? with
  | some a, some b => ofRat (a * b)
  | _, _ => .notNumber

/-- The quotient of two numbers that are finite. -/
def dividedBy (x y : Binary64) : Binary64 :=
  match x.toRat?, y.toRat? with
  | some a, some b => ofRat (a / b)
  | _, _ => .notNumber

/-- The sum of a number and a small integer. -/
def plus (x : Binary64) (n : Int) : Binary64 :=
  match x.toRat? with
  | some a => ofRat (a + n)
  | none => x

/-- The part of a fraction before the point, toward zero. -/
def truncate (x : Rat) : Int := x.num.tdiv x.den

/-- The nearest fraction of 64 bits, as a fraction. Beyond the greatest number it is zero, which
no quotient below meets. -/
def rounded (x : Rat) : Rat := (ofRat x).toRat?.getD 0

/-- Division rounded down, by a small positive integer. The quotient is computed from the
remainder, with each step rounded, so beyond 2 to the 53 it need not be the exact floor. -/
def floorDiv (x : Binary64) (n : Nat) : Binary64 :=
  match x.toRat? with
  | none => .notNumber
  | some a =>
    let rest := a - n * truncate (a / n)
    let whole := rounded (rounded (a - rest) / n)
    let quotient := if rest < 0 then rounded (whole - 1) else whole
    let floor := quotient.floor
    ofRat (if 1 / 2 < quotient - floor then floor + 1 else floor)

/-! ## Bits -/

/-- The 64 bits of a number, as an unsigned integer. -/
def toBits : Binary64 → Nat
  | .notNumber => 0x7FF8000000000000
  | .infinite negative => (if negative then twoTo 63 else 0) + 0x7FF0000000000000
  | .finite negative mantissa exponent =>
    (if negative then twoTo 63 else 0) +
      if mantissa < twoTo 52 then mantissa
      else (exponent + 1075).toNat * twoTo 52 + (mantissa - twoTo 52)

end Binary64

end PeriodText.Numeral
