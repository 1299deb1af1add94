import PeriodText.Datum

/-!
# Counts

A count of periods is an integer of 64 bits, sign included. A count is read from an integer or
from text that holds one; anything else is refused, and so is an integer out of range.
-/

set_option autoImplicit false

namespace PeriodText

/-- The least count. -/
def leastCount : Int := -9223372036854775808

/-- The greatest count. -/
def greatestCount : Int := 9223372036854775807

/-- An integer of 64 bits. -/
structure Count where
  /-- The integer. -/
  toInt : Int
  /-- It is in range. -/
  fits : leastCount ≤ toInt ∧ toInt ≤ greatestCount
  deriving DecidableEq, Repr

namespace Count

@[ext] theorem ext {a b : Count} (same : a.toInt = b.toInt) : a = b := by
  cases a; cases b; simp_all

/-- The count of an integer that is in range. -/
def ofInt? (n : Int) : Option Count :=
  if fits : leastCount ≤ n ∧ n ≤ greatestCount then some ⟨n, fits⟩ else none

/-- A count is the count of its integer. -/
@[simp] theorem ofInt?_toInt (c : Count) : ofInt? c.toInt = some c := by
  simp [ofInt?, c.fits]

/-- The integer of a count made from one. -/
theorem toInt_of_ofInt? {n : Int} {c : Count} (made : ofInt? n = some c) : c.toInt = n := by
  unfold ofInt? at made
  split at made
  · cases made; rfl
  · cases made

/-- The count of periods of a kind that an integer is. -/
def ofInt (kind : Kind) (n : Int) : Except Error Count :=
  match ofInt? n with
  | some c => .ok c
  | none => .error (Error.showing n (.overflow kind n))

/-- The count of periods of a kind that a datum is. Text is stripped of white space first. -/
def ofDatum (kind : Kind) : Datum → Except Error Count
  | .integer n => ofInt kind n
  | .text value =>
    match Numeral.read (String.ofList (Text.strip value.toList)) with
    | .ok n => ofInt kind n
    | .error refusal => .error (.numeral refusal)
  | other => .error (.type (.count kind other.typeName))

end Count

end PeriodText
