import PeriodText.Count

/-!
# Bare periods

A bare period is a count of units of one kind: the third quarter, or three quarters. The count is
never reinterpreted. A year is written in at least four digits, with the sign outside; an undated
period as its number; any other with its unit, in the plural unless the count is one or minus one.
-/

set_option autoImplicit false

namespace PeriodText

/-- A count of units of one kind. -/
structure Period where
  kind : Kind
  count : Count
  deriving DecidableEq, Repr

namespace Period

/-- The count as an integer. -/
def value (p : Period) : Int := p.count.toInt

/-- The period of a kind that counts `n` units. -/
def ofInt (kind : Kind) (n : Int) : Except Error Period := (Count.ofInt kind n).map (⟨kind, ·⟩)

/-- The period of a kind whose count is given by a datum. -/
def ofDatum (kind : Kind) (d : Datum) : Except Error Period :=
  (Count.ofDatum kind d).map (⟨kind, ·⟩)

/-- The digits that a year is written in, at least. -/
def yearWidth : Nat := 4

/-- The period as text. -/
def text (p : Period) : String :=
  match p.kind with
  | .year => String.ofList (Numeral.paddedText yearWidth p.value)
  | .undated => decimal p.value
  | kind => decimal p.value ++ " " ++ kind.name ++ if p.value.natAbs = 1 then "" else "s"

/-- The period as messages show it. -/
def shown (p : Period) : String := p.kind.title ++ "(value=" ++ decimal p.value ++ ")"

end Period

end PeriodText
