/-!
# Sets of code points

A set of code points is written as the list of the closed ranges it is made of. The character
classes of this library (letters, white space, printable characters) are such lists, and a
character belongs to a class exactly when some range holds its code point.
-/

set_option autoImplicit false

namespace PeriodText.Text

/-- A set of code points: closed ranges, each given by its first and last code point. -/
abbrev Ranges := List (Nat × Nat)

/-- The code point lies in one of the ranges. -/
def Ranges.has (ranges : Ranges) (n : Nat) : Bool :=
  ranges.any fun range => range.1 ≤ n && n ≤ range.2

/-- Membership is membership in one of the ranges. -/
theorem Ranges.has_iff {ranges : Ranges} {n : Nat} :
    ranges.has n = true ↔ ∃ range ∈ ranges, range.1 ≤ n ∧ n ≤ range.2 := by
  simp [Ranges.has]

end PeriodText.Text
