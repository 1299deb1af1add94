import PeriodText.Proofs.TruncatedQuotient

/-!
# Average lengths

Days and weeks convert to months, quarters, semesters and years by the averages of the Gregorian
calendar. The length is meant to be the exact quotient, with what makes no whole unit dropped. It is
computed by rounding, and from some count on it is not always the exact one: `Value.length_average`
names that count for each conversion, and says how far off a length can be at all.

The counts were found by search. That no lesser ones go wrong is proved: each count is checked once
against the conditions of `LeastWrong`, and those decide for all counts below it.
-/

set_option autoImplicit false

namespace PeriodText

open Numeral (Binary64)
open Numeral.Binary64

/-- The average number of periods of a kind in so many months, if lengths are converted by it. -/
def Kind.average? (kind : Kind) (months : Nat) : Option ℚ :=
  match kind with
  | .day => some (averageDays months)
  | .week => some (averageWeeks months)
  | _ => none

/-- A conversion by an average. -/
structure AverageConversion where
  kind : Kind
  unit : LengthUnit
  /-- The average number of periods of the kind in a unit. -/
  average : ℚ
  /-- The least count whose length comes out wrong. -/
  limit : Nat
  deriving DecidableEq

/-- All conversions by an average. -/
def averageConversions : List AverageConversion :=
  [⟨.day, .years, 365.2425, 50198547022301⟩,
   ⟨.day, .semesters, 182.62125, 25099273584199⟩,
   ⟨.day, .quarters, 91.310625, 12549636865148⟩,
   ⟨.day, .months, 30.436875, 8366424516896⟩,
   ⟨.week, .years, 52.1775, 57369767961152⟩,
   ⟨.week, .semesters, 26.08875, 28684883980576⟩,
   ⟨.week, .quarters, 13.044375, 14342441990288⟩,
   ⟨.week, .months, 4.348125, 3667702928081⟩]

/-- The averages are those that the program divides by. -/
theorem averageConversions_average : ∀ conversion ∈ averageConversions,
    conversion.unit.monthCount?.bind conversion.kind.average? = some conversion.average := by
  decide +kernel

/-- Of days and of weeks there is one for every unit of whole months. -/
theorem exists_averageConversion {kind : Kind} (averaged : kind = .day ∨ kind = .week)
    {unit : LengthUnit} (whole : unit ≠ .weeks) :
    ∃ conversion ∈ averageConversions, conversion.kind = kind ∧ conversion.unit = unit := by
  rcases averaged with rfl | rfl <;> cases unit with
  | weeks => exact absurd rfl whole
  | _ => decide +kernel

/-- Each limit is the least count that goes wrong. -/
theorem averageConversions_leastWrong : ∀ conversion ∈ averageConversions,
    LeastWrong conversion.average conversion.limit := by
  decide +kernel

namespace Value

/-- What the length of a period is whose kind converts by an average. -/
theorem length_of_average {p : Period} {unit : LengthUnit} {average : ℚ}
    (converts : unit.monthCount?.bind p.kind.average? = some average) :
    (Value.period p).length unit = .ok (.whole (truncatedQuotient p.value (ofRat average))) := by
  obtain ⟨months, whole, divisor⟩ := Option.bind_eq_some_iff.mp converts
  have groups : p.monthGroups? months = some (truncatedQuotient p.value (ofRat average)) := by
    obtain ⟨kind, count⟩ := p
    cases kind <;> cases divisor <;> rfl
  simp only [length, Period.length?, whole, groups, Option.map_some]

/-- **Lengths by an average.** Days and weeks convert to every unit of whole months by a conversion
that is listed, and by each of these a count has a length. It is the exact quotient of the count and
the average, truncated toward zero, for every count below the limit of the conversion. At the limit
it is one too far from zero. Below 2 to the 53 it is exact or one too far from zero. And for every
count of 64 bits it is the truncation of a number that differs from the exact quotient by no more
than its part in 2 to the 51. -/
theorem length_average (count : Count) :
    (∀ kind unit, kind = Kind.day ∨ kind = .week → unit ≠ LengthUnit.weeks →
      ∃ conversion ∈ averageConversions, conversion.kind = kind ∧ conversion.unit = unit) ∧
    ∀ conversion ∈ averageConversions, ∃ n : Int,
      (Value.period ⟨conversion.kind, count⟩).length conversion.unit = .ok (.whole n) ∧
      (count.toInt.natAbs < conversion.limit →
        n = truncate (count.toInt / conversion.average)) ∧
      (count.toInt.natAbs = conversion.limit →
        n = truncate (count.toInt / conversion.average) + count.toInt.sign) ∧
      (count.toInt.natAbs < 2 ^ 53 → n = truncate (count.toInt / conversion.average) ∨
        n = truncate (count.toInt / conversion.average) + count.toInt.sign) ∧
      ∃ q : ℚ, n = truncate q ∧ |q - count.toInt / conversion.average| ≤
        |count.toInt / conversion.average| / 2 ^ 51 := by
  refine ⟨fun kind unit averaged whole => exists_averageConversion averaged whole,
    fun conversion listed => ?_⟩
  have least := averageConversions_leastWrong conversion listed
  have bits : |(count.toInt : ℚ)| < 2 ^ 64 := by
    have fits := count.fits
    unfold leastCount greatestCount at fits
    rw [← Int.cast_abs]
    exact_mod_cast (abs_lt.mpr ⟨by omega, by omega⟩ : |count.toInt| < 2 ^ 64)
  exact ⟨_, length_of_average (averageConversions_average conversion listed),
    least.truncatedQuotient_of_lt, least.truncatedQuotient_of_eq,
    fun few => truncatedQuotient_or least.low least.high few least.above,
    exists_quotient least.low least.high bits⟩

/-- One day below the limit the years are exact. At the limit, counted back, they are one too far
from zero. -/
theorem length_average_years :
    (⟨.day, .years, 365.2425, 50198547022301⟩ : AverageConversion) ∈ averageConversions ∧
    (Value.period ⟨.day, ⟨50198547022300, by decide⟩⟩).length .years =
      .ok (.whole 137438953632) ∧
    (Value.period ⟨.day, ⟨-50198547022301, by decide⟩⟩).length .years =
      .ok (.whole (-137438953633)) := by
  have listed : (⟨.day, .years, 365.2425, 50198547022301⟩ : AverageConversion) ∈
      averageConversions := List.mem_cons_self
  obtain ⟨n, before, exact, -⟩ := (length_average ⟨50198547022300, by decide⟩).2 _ listed
  obtain ⟨m, limit, -, wrong, -⟩ := (length_average ⟨-50198547022301, by decide⟩).2 _ listed
  have years : n = 137438953632 := (exact (by decide)).trans (by decide +kernel)
  have back : m = -137438953633 := (wrong (by decide)).trans (by decide +kernel)
  subst years back
  exact ⟨listed, before, limit⟩

/-- A 400th of a day is missing to 137438953633 years, but that is the length. -/
theorem length_average_overcounted :
    (Value.period ⟨.day, ⟨50198547022301, by decide⟩⟩).length .years =
      .ok (.whole 137438953633) ∧
    truncate (50198547022301 / 365.2425) = 137438953632 := by
  decide +kernel

end Value

end PeriodText
