import PeriodText.Conversion
import PeriodText.Proofs.Numeral.Rounding
import Mathlib.Tactic.Positivity

/-!
# Truncated quotients

A count that is divided by a fraction is divided by the floating point number that the fraction is
rounded to, and the quotient is rounded before it is truncated. Three roundings change the quotient
by no more than a part in 2 to the 51: `exists_quotient`.

Whether the truncated quotient is changed is decided by what the exact quotient lacks to the next
whole number. A count below 2 to the 53 is held exactly, and if the fraction is rounded up by little
enough, a quotient is never rounded below a whole number that it reaches (`floor_le_rounded`). So
only a quotient just below a whole number can go wrong, by being rounded up to it, and it does not
if rounding adds less than it lacks (`rounded_lt_floor_succ`).

What a quotient lacks is some parts of one by the numerator of the fraction, and the counts that
lack only one part are a numerator apart. So two comparisons, of what rounding adds with one part
and with two, show of a count whose quotient goes wrong that no lesser one does: `LeastWrong`.
-/

set_option autoImplicit false

namespace PeriodText

open Numeral (Binary64)
open Numeral.Binary64

/-! ## Truncation -/

theorem truncate_neg (x : ℚ) : truncate (-x) = -truncate x := by
  rw [truncate, truncate, Rat.num_neg_eq_neg_num, Rat.den_neg_eq_den, Int.neg_tdiv]

theorem truncate_of_nonneg {x : ℚ} (nonneg : 0 ≤ x) : truncate x = ⌊x⌋ := by
  rw [truncate, Rat.floor_def', Int.tdiv_eq_ediv_of_nonneg (Rat.num_nonneg.mpr nonneg)]

/-! ## Division with rounding -/

/-- The error of a quotient from the errors of its parts, if the divisor is not much too small. -/
theorem abs_quotient_sub_le {n m c d : ℚ} (part : ℚ) (pos : 0 < c) (most : c * (15 / 16) ≤ d)
    (counted : |m - n| ≤ |n| * part) (divisor : |d - c| ≤ c * part) (nonneg : 0 ≤ part) :
    |m / d - n / c| ≤ |n / c| * (32 / 15 * part) := by
  have lower : 0 < c * (15 / 16) := by positivity
  have dpos : 0 < d := lower.trans_le most
  have split : m / d - n / c = (m - n + n / c * (c - d)) / d := by
    field_simp
    ring
  have size : |n / c| = |n| / c := by rw [abs_div, abs_of_pos pos]
  rw [split, abs_div, abs_of_pos dpos]
  calc |m - n + n / c * (c - d)| / d ≤ (|n| * part + |n / c| * (c * part)) / d := by
        gcongr
        refine (abs_add_le _ _).trans ?_
        rw [abs_mul, abs_sub_comm c]
        gcongr
    _ = 2 * |n| * part / d := by
        rw [size]
        field_simp
        ring
    _ ≤ 2 * |n| * part / (c * (15 / 16)) := by gcongr
    _ = |n / c| * (32 / 15 * part) := by
        rw [size]
        field_simp
        ring

section

variable {c : ℚ} (low : 4 ≤ c) (high : c ≤ 2 ^ 9)
include low high

/-- A divisor in these bounds is rounded by no more than its part in 2 to the 53. -/
theorem rounded_divisor : (ofRat c).toRat? = some (rounded c) ∧ |rounded c - c| ≤ c / 2 ^ 53 := by
  have size : |c| = c := abs_of_pos (by linarith)
  have small : |c| < 2 ^ (1023 : Int) := small_of_lt (n := 10) (by rw [size]; linarith) (by decide)
  have normal : 2 ^ (-1022 : Int) ≤ |c| :=
    normal_of_le (n := 0) (by rw [size]; linarith) (by decide)
  have near := abs_rounded_sub_le normal small
  rw [size] at near
  exact ⟨(rounded_spec small).1, near⟩

/-- The bounds of a rounded divisor. -/
theorem rounded_divisor_bounds :
    c * (15 / 16) ≤ rounded c ∧ 3 ≤ rounded c ∧ rounded c ≤ 2 ^ 10 := by
  have near := abs_le.mp (rounded_divisor low high).2
  refine ⟨?_, ?_, ?_⟩ <;> linarith

variable {n : Int} (count : |(n : ℚ)| < 2 ^ 64)
include count

omit low high in
/-- A count is rounded by no more than its part in 2 to the 53. -/
theorem abs_rounded_count_sub_le : |rounded n - n| ≤ |(n : ℚ)| / 2 ^ 53 := by
  rcases eq_or_ne n 0 with rfl | some
  · rw [rounded_intCast (by decide), sub_self, abs_zero]
    positivity
  · refine abs_rounded_sub_le (normal_of_le (n := 0) ?_ (by decide))
      (small_of_lt count (by decide))
    rw [pow_zero, inv_one]
    exact_mod_cast Int.one_le_abs some

/-- A rounded count is divided by a rounded divisor within the range of rounding. -/
theorem quotient_small : |rounded n / rounded c| < 2 ^ (1023 : Int) := by
  obtain ⟨-, three, -⟩ := rounded_divisor_bounds low high
  have near := abs_rounded_count_sub_le count
  have upper : |rounded n| ≤ 2 * |(n : ℚ)| := by
    have triangle := abs_sub_abs_le_abs_sub (rounded n) n
    have nonneg := abs_nonneg (n : ℚ)
    linarith
  refine small_of_lt (n := 65) ?_ (by decide)
  rw [abs_div, abs_of_pos (by linarith : 0 < rounded c), div_lt_iff₀ (by linarith)]
  linarith

/-- What the truncated quotient is the truncation of. -/
theorem truncatedQuotient_eq :
    truncatedQuotient n (ofRat c) = truncate (rounded (rounded n / rounded c)) := by
  have numerator : (ofInt n).toRat? = some (rounded n) :=
    (rounded_spec (small_of_lt count (by decide))).1
  have quotient := (rounded_spec (quotient_small low high count)).1
  rw [truncatedQuotient, dividedBy, numerator, (rounded_divisor low high).1]
  dsimp only
  rw [quotient]

/-- **Three roundings**, of the divisor, of the count and of the quotient: what is truncated differs
from the exact quotient by no more than its part in 2 to the 51. -/
theorem exists_quotient : ∃ q : ℚ, truncatedQuotient n (ofRat c) = truncate q ∧
    |q - n / c| ≤ |n / c| / 2 ^ 51 := by
  refine ⟨_, truncatedQuotient_eq low high count, ?_⟩
  rcases eq_or_ne n 0 with rfl | some
  · have zero : rounded 0 = 0 := by exact_mod_cast rounded_intCast (n := 0) (by decide)
    rw [Int.cast_zero, zero, zero_div, zero_div, zero, sub_zero, abs_zero, zero_div]
  · obtain ⟨most, three, le⟩ := rounded_divisor_bounds low high
    have divisor := (rounded_divisor low high).2
    have counted := abs_rounded_count_sub_le count
    have quotient := abs_quotient_sub_le (1 / 2 ^ 53) (by linarith) most
      (by rwa [mul_one_div]) (by rwa [mul_one_div]) (by positivity)
    have normal : 2 ^ (-1022 : Int) ≤ |rounded n / rounded c| := by
      refine normal_of_le (n := 11) ?_ (by decide)
      have one : (1 : ℚ) ≤ |(n : ℚ)| := by exact_mod_cast Int.one_le_abs some
      have half := abs_sub_abs_le_abs_sub (n : ℚ) (rounded n)
      rw [abs_sub_comm] at half
      rw [abs_div, abs_of_pos (by linarith : 0 < rounded c), le_div_iff₀ (by linarith)]
      linarith
    have last := abs_rounded_sub_le normal (quotient_small low high count)
    have triangle := abs_sub_abs_le_abs_sub (rounded n / rounded c) (n / c)
    have both := abs_sub_le (rounded (rounded n / rounded c)) (rounded n / rounded c) (n / c)
    have nonneg := abs_nonneg ((n : ℚ) / c)
    linarith

/-- A count and its opposite have opposite quotients. -/
theorem truncatedQuotient_neg :
    truncatedQuotient (-n) (ofRat c) = -truncatedQuotient n (ofRat c) := by
  have opposite : |((-n : Int) : ℚ)| < 2 ^ 64 := by rwa [Int.cast_neg, abs_neg]
  rw [truncatedQuotient_eq low high opposite, truncatedQuotient_eq low high count, Int.cast_neg,
    rounded_neg, neg_div, rounded_neg, truncate_neg]

/-- What a quotient comes out too great by, from the magnitude of the count. -/
theorem truncatedQuotient_of_natAbs {excess : Int} (magnitude : 0 < n.natAbs →
    truncatedQuotient n.natAbs (ofRat c) = truncate (n.natAbs / c) + excess) :
    truncatedQuotient n (ofRat c) = truncate (n / c) + n.sign * excess := by
  rcases lt_trichotomy n 0 with negative | rfl | positive
  · obtain ⟨v, rfl⟩ := Int.exists_eq_neg_ofNat negative.le
    have natural : |((v : Int) : ℚ)| < 2 ^ 64 := by rwa [Int.cast_neg, abs_neg] at count
    have quotient := magnitude (Int.natAbs_pos.mpr negative.ne)
    rw [Int.natAbs_neg, Int.natAbs_natCast] at quotient
    rw [truncatedQuotient_neg low high natural, quotient, Int.cast_neg, neg_div, truncate_neg,
      Int.cast_natCast, Int.sign_eq_neg_one_of_neg negative]
    ring
  · have none := truncatedQuotient_neg low high count
    rw [Int.neg_zero] at none
    rw [Int.sign_zero, Int.zero_mul, Int.add_zero, Int.cast_zero, zero_div, self_eq_neg.mp none]
    rfl
  · obtain ⟨v, rfl⟩ := Int.eq_ofNat_of_zero_le positive.le
    rw [Int.natAbs_natCast] at magnitude
    rw [magnitude (Int.natCast_pos.mp positive), Int.cast_natCast,
      Int.sign_eq_one_of_pos positive, one_mul]

end

/-! ## Whole quotients -/

/-- The most that rounding adds to the quotient of a count: half a unit, and what a divisor that is
rounded down adds, or one that is rounded up takes off. -/
def added (c : ℚ) (v : Nat) : ℚ :=
  unitAt (v / rounded c) / 2 + v / rounded c * (1 - rounded c / c)

section

variable {c : ℚ} (low : 4 ≤ c) (high : c ≤ 2 ^ 9) {v : Nat} (present : 0 < v) (few : v < 2 ^ 53)
include low high present few

/-- The quotient of a count by a rounded divisor is in the range where whole numbers are multiples
of the unit. -/
theorem quotient_normal : 2 ^ (-1022 : Int) ≤ |(v : ℚ) / rounded c| ∧
    |(v : ℚ) / rounded c| < 2 ^ 53 := by
  obtain ⟨-, three, le⟩ := rounded_divisor_bounds low high
  have one : (1 : ℚ) ≤ v := by exact_mod_cast present
  have bits : (v : ℚ) < 2 ^ 53 := by exact_mod_cast few
  have size : |(v : ℚ) / rounded c| = v / rounded c := abs_of_pos (by positivity)
  constructor
  · refine normal_of_le (n := 10) ?_ (by decide)
    rw [size, le_div_iff₀ (by linarith)]
    linarith
  · rw [size, div_lt_iff₀ (by linarith)]
    linarith

omit present in
/-- A count below 2 to the 53 is held exactly. -/
theorem truncatedQuotient_natCast :
    truncatedQuotient v (ofRat c) = ⌊rounded (v / rounded c)⌋ := by
  obtain ⟨-, three, -⟩ := rounded_divisor_bounds low high
  have exact : rounded ((v : Int) : ℚ) = v := rounded_intCast few
  have count : |((v : Int) : ℚ)| < 2 ^ 64 := by
    rw [Int.cast_natCast, Nat.abs_cast]
    exact_mod_cast few.trans (by decide)
  have nonneg : 0 ≤ (v : ℚ) / rounded c := by positivity
  have small := quotient_small low high count
  rw [exact] at small
  rw [truncatedQuotient_eq low high count, exact]
  exact truncate_of_nonneg (rounded_nonneg small nonneg)

/-- **No quotient is rounded below a whole number that it reaches**, if the divisor is rounded up by
less than its part in 2 to the 54. -/
theorem floor_le_rounded (above : rounded c ≤ c * (1 + 1 / 2 ^ 54)) :
    (⌊(v : ℚ) / c⌋ : ℚ) ≤ rounded (v / rounded c) := by
  obtain ⟨normal, below⟩ := quotient_normal low high present few
  obtain ⟨-, three, -⟩ := rounded_divisor_bounds low high
  refine le_rounded normal below ?_
  have reached : (⌊(v : ℚ) / c⌋ : ℚ) ≤ v / rounded c * (1 + 1 / 2 ^ 54) := by
    calc (⌊(v : ℚ) / c⌋ : ℚ) ≤ v / c := Int.floor_le _
      _ = v / rounded c * (rounded c / c) := by
        rw [div_mul_div_cancel₀ (by linarith)]
      _ ≤ v / rounded c * (1 + 1 / 2 ^ 54) := by
        gcongr
        rwa [div_le_iff₀ (by linarith), mul_comm]
  have bits := abs_lt_unitAt ((v : ℚ) / rounded c)
  rw [abs_of_nonneg (by positivity)] at bits
  linarith

/-- **A quotient is not rounded up to the next whole number** if rounding adds less than it
lacks. -/
theorem rounded_lt_floor_succ (lacks : added c v < ⌊(v : ℚ) / c⌋ + 1 - v / c) :
    rounded (v / rounded c) < (⌊(v : ℚ) / c⌋ + 1 : Int) := by
  obtain ⟨normal, below⟩ := quotient_normal low high present few
  unfold added at lacks
  refine rounded_lt (small_of_lt below (by decide)) ?_
  have whole : (v : ℚ) / rounded c * (rounded c / c) = v / c :=
    div_mul_div_cancel₀ (by linarith [(rounded_divisor_bounds low high).2.1])
  push_cast
  linarith

/-- A quotient is rounded up to the next whole number at most. -/
theorem rounded_lt_floor_add_two : rounded (v / rounded c) < ⌊(v : ℚ) / c⌋ + 2 := by
  obtain ⟨normal, below⟩ := quotient_normal low high present few
  obtain ⟨-, three, -⟩ := rounded_divisor_bounds low high
  have divisor := (abs_le.mp (rounded_divisor low high).2).1
  have bits : (v : ℚ) < 2 ^ 53 := by exact_mod_cast few
  have half : |(v : ℚ) / rounded c| < 2 ^ 53 * 2 ^ (-1 : Int) := by
    rw [abs_of_pos (by positivity), div_lt_iff₀ (by linarith), zpow_neg_one]
    linarith
  have unit : unitAt (v / rounded c) ≤ 1 / 2 := by
    have le := unitAt_le_of_lt normal half
    rwa [zpow_neg_one, inv_eq_one_div] at le
  have error := (abs_le.mp (rounded_spec (small_of_lt below (by decide))).2.2).2
  have quotient : (v : ℚ) / rounded c ≤ v / c + 1 / 2 := by
    have cpos : 0 < c := by linarith
    rw [div_le_iff₀ (by linarith)]
    calc (v : ℚ) = v / c * c := by field_simp
      _ ≤ v / c * rounded c + v / c * (c / 2 ^ 53) := by
        rw [← mul_add]
        gcongr
        linarith
      _ = v / c * rounded c + v / 2 ^ 53 := by field_simp
      _ ≤ (v / c + 1 / 2) * rounded c := by linarith
  have lacks := Int.lt_floor_add_one ((v : ℚ) / c)
  linarith

end

section

variable {c : ℚ} (low : 4 ≤ c) (high : c ≤ 2 ^ 9) {n : Int} (few : n.natAbs < 2 ^ 53)
include low high few

/-- What a quotient comes out too great by, from what the magnitude of the count is rounded to. -/
theorem truncatedQuotient_of_floor (excess : Int) (magnitude : 0 < n.natAbs →
    ⌊rounded (n.natAbs / rounded c)⌋ = ⌊(n.natAbs : ℚ) / c⌋ + excess) :
    truncatedQuotient n (ofRat c) = truncate (n / c) + n.sign * excess := by
  have count : |(n : ℚ)| < 2 ^ 64 := by
    rw [← Int.cast_abs, ← Nat.cast_natAbs]
    exact_mod_cast few.trans (by decide)
  refine truncatedQuotient_of_natAbs low high count fun present => ?_
  rw [truncatedQuotient_natCast low high few, magnitude present,
    truncate_of_nonneg (div_nonneg (Nat.cast_nonneg _) (by linarith))]

/-- **A count below 2 to the 53 is divided exactly, or comes out one too far from zero.** -/
theorem truncatedQuotient_or (above : rounded c ≤ c * (1 + 1 / 2 ^ 54)) :
    truncatedQuotient n (ofRat c) = truncate (n / c) ∨
      truncatedQuotient n (ofRat c) = truncate (n / c) + n.sign := by
  rcases Nat.eq_zero_or_pos n.natAbs with none | present
  · have exact := truncatedQuotient_of_floor low high few 0
      fun present => absurd none present.ne'
    rw [Int.mul_zero, Int.add_zero] at exact
    exact .inl exact
  · have least := Int.le_floor.mpr (floor_le_rounded low high present few above)
    have most : ⌊rounded (n.natAbs / rounded c)⌋ < ⌊(n.natAbs : ℚ) / c⌋ + 2 :=
      Int.floor_lt.mpr (by exact_mod_cast rounded_lt_floor_add_two low high present few)
    have off := truncatedQuotient_of_floor low high few _ fun _ => (add_sub_cancel _ _).symm
    obtain none | one : ⌊rounded (n.natAbs / rounded c)⌋ - ⌊(n.natAbs : ℚ) / c⌋ = 0 ∨
        ⌊rounded (n.natAbs / rounded c)⌋ - ⌊(n.natAbs : ℚ) / c⌋ = 1 := by omega
    · rw [none, Int.mul_zero, Int.add_zero] at off
      exact .inl off
    · rw [one, Int.mul_one] at off
      exact .inr off

end

/-! ## The least wrong count -/

/-- To the next whole number a quotient lacks some parts of one by the numerator of the divisor, and
only one part only if the numerator divides what is said here. -/
theorem exists_lacks {c : ℚ} (positive : 0 < c) (v : Nat) : ∃ parts : Nat, 0 < parts ∧
    ⌊(v : ℚ) / c⌋ + 1 - v / c = parts / c.num.natAbs ∧
    (parts = 1 → c.num.natAbs ∣ c.den * v + 1) := by
  obtain ⟨num, numerator⟩ := Int.eq_ofNat_of_zero_le (Rat.num_nonneg.mpr positive.le)
  have cast : (num : ℚ) = c * c.den := by rw [Rat.mul_den_eq_num, numerator, Int.cast_natCast]
  have present : (0 : ℚ) < num := by
    rw [cast]
    exact mul_pos positive (by exact_mod_cast c.den_pos)
  rw [numerator, Int.natAbs_natCast]
  let rest : Int := (⌊(v : ℚ) / c⌋ + 1) * num - c.den * v
  have lacks : ⌊(v : ℚ) / c⌋ + 1 - v / c = rest / num := by
    rw [eq_div_iff present.ne']
    push_cast [rest]
    rw [cast]
    field_simp
  have some : 0 < rest := by
    have above := sub_pos.mpr (Int.lt_floor_add_one ((v : ℚ) / c))
    rw [lacks] at above
    exact_mod_cast (div_pos_iff_of_pos_right present).mp above
  obtain ⟨parts, whole⟩ := Int.eq_ofNat_of_zero_le some.le
  rw [whole] at lacks some
  rw [Int.cast_natCast] at lacks
  refine ⟨parts, by exact_mod_cast some, lacks, fun one => ?_⟩
  have last : (⌊(v : ℚ) / c⌋ + 1) * num - c.den * v = (1 : Nat) := one ▸ whole
  rw [← Int.natCast_dvd_natCast]
  refine ⟨⌊(v : ℚ) / c⌋ + 1, ?_⟩
  push_cast at last ⊢
  linarith

/-- A bound of what rounding adds to the quotients of all counts no greater than `v`. -/
def mostAdded (c : ℚ) (v : Nat) : ℚ :=
  unitAt (v / rounded c) / 2 + (1 - rounded c / c) *
    if rounded c ≤ c then v / rounded c else 2 ^ 52 * unitAt (v / rounded c)

theorem added_le {c : ℚ} (low : 4 ≤ c) (high : c ≤ 2 ^ 9)
    (above : rounded c ≤ c * (1 + 1 / 2 ^ 54)) {v w : Nat} (present : 0 < v) (le : v ≤ w)
    (few : w < 2 ^ 53) : added c v ≤ mostAdded c w := by
  obtain ⟨-, three, -⟩ := rounded_divisor_bounds low high
  have cpos : 0 < c := by linarith
  have normal := (quotient_normal low high present (le.trans_lt few)).1
  have grows : (v : ℚ) / rounded c ≤ w / rounded c := by gcongr
  have size : |(v : ℚ) / rounded c| = v / rounded c := abs_of_nonneg (by positivity)
  have unit : unitAt (v / rounded c) ≤ unitAt (w / rounded c) := by
    refine unitAt_mono normal ?_
    rwa [size, abs_of_nonneg (by positivity)]
  unfold added mostAdded
  split
  · next down =>
    have off : 0 ≤ 1 - rounded c / c := sub_nonneg.mpr ((div_le_one cpos).mpr down)
    rw [mul_comm (1 - rounded c / c)]
    gcongr
  · next up =>
    -- Here the divisor takes something off: least from a quotient of the least mantissa.
    have bits := unitAt_le_abs normal
    rw [size] at bits
    have off : 1 - rounded c / c ≤ 0 :=
      sub_nonpos.mpr ((one_le_div cpos).mpr (not_le.mp up).le)
    have part : 0 ≤ 1 / 2 + 2 ^ 52 * (1 - rounded c / c) := by
      have ratio : rounded c / c ≤ 1 + 1 / 2 ^ 54 := by rwa [div_le_iff₀ cpos, mul_comm]
      linarith
    calc unitAt (v / rounded c) / 2 + v / rounded c * (1 - rounded c / c)
        ≤ unitAt (v / rounded c) / 2 + 2 ^ 52 * unitAt (v / rounded c) * (1 - rounded c / c) := by
          exact add_le_add_right (mul_le_mul_of_nonpos_right bits off) _
      _ = unitAt (v / rounded c) * (1 / 2 + 2 ^ 52 * (1 - rounded c / c)) := by ring
      _ ≤ unitAt (w / rounded c) * (1 / 2 + 2 ^ 52 * (1 - rounded c / c)) := by gcongr
      _ = _ := by ring

/-- The least count whose quotient comes out wrong, by the facts that show it. To the next whole
number the quotient lacks one part of one by the numerator, the least that any can lack, and it is
rounded up to it. What rounding adds is below two parts up to this count, and below one part up to
the last count before it that lacks as little. -/
structure LeastWrong (c : ℚ) (limit : Nat) : Prop where
  low : 4 ≤ c
  high : c ≤ 2 ^ 9
  /-- The divisor is rounded up by little enough. -/
  above : rounded c ≤ c * (1 + 1 / 2 ^ 54)
  few : limit < 2 ^ 53
  lacksLeast : c.num.natAbs ∣ c.den * limit + 1
  addedBefore : mostAdded c (limit - c.num.natAbs) * c.num.natAbs < 1
  addedHere : mostAdded c limit * c.num.natAbs < 2
  wrong : ⌊rounded (limit / rounded c)⌋ = ⌊(limit : ℚ) / c⌋ + 1

instance (c : ℚ) (limit : Nat) : Decidable (LeastWrong c limit) :=
  decidable_of_iff (4 ≤ c ∧ c ≤ 2 ^ 9 ∧ rounded c ≤ c * (1 + 1 / 2 ^ 54) ∧ limit < 2 ^ 53 ∧
      c.num.natAbs ∣ c.den * limit + 1 ∧ mostAdded c (limit - c.num.natAbs) * c.num.natAbs < 1 ∧
      mostAdded c limit * c.num.natAbs < 2 ∧
      ⌊rounded (limit / rounded c)⌋ = ⌊(limit : ℚ) / c⌋ + 1)
    ⟨fun ⟨low, high, above, few, lacks, before, here, wrong⟩ =>
      ⟨low, high, above, few, lacks, before, here, wrong⟩,
    fun ⟨low, high, above, few, lacks, before, here, wrong⟩ =>
      ⟨low, high, above, few, lacks, before, here, wrong⟩⟩

namespace LeastWrong

variable {c : ℚ} {limit : Nat} (least : LeastWrong c limit)
include least

/-- Of two counts that lack one part of the numerator, one is less by the numerator. -/
theorem add_le {v : Nat} (lt : v < limit) (lacks : c.num.natAbs ∣ c.den * v + 1) :
    v + c.num.natAbs ≤ limit := by
  have difference : c.num.natAbs ∣ c.den * (limit - v) := by
    have both := Nat.dvd_sub least.lacksLeast lacks
    rwa [Nat.add_sub_add_right, ← Nat.mul_sub] at both
  have apart := Nat.le_of_dvd (by omega) (c.reduced.dvd_of_dvd_mul_left difference)
  omega

/-- What rounding adds to the quotient of a lesser count is less than what it lacks. -/
theorem added_lt {v : Nat} (present : 0 < v) (lt : v < limit) :
    added c v < ⌊(v : ℚ) / c⌋ + 1 - v / c := by
  have positive : 0 < c := by linarith [least.low]
  have numerator : (0 : ℚ) < c.num.natAbs := by
    exact_mod_cast Int.natAbs_pos.mpr (Rat.num_ne_zero.mpr positive.ne')
  obtain ⟨parts, some, lacks, one⟩ := exists_lacks positive v
  rw [lacks, lt_div_iff₀ numerator]
  rcases eq_or_ne parts 1 with rfl | more
  · have before : v ≤ limit - c.num.natAbs := Nat.le_sub_of_add_le (least.add_le lt (one rfl))
    have bound := added_le least.low least.high least.above present before
      ((Nat.sub_le _ _).trans_lt least.few)
    calc added c v * c.num.natAbs ≤ mostAdded c (limit - c.num.natAbs) * c.num.natAbs := by gcongr
      _ < 1 := least.addedBefore
      _ = (1 : Nat) := Nat.cast_one.symm
  · have bound := added_le least.low least.high least.above present lt.le least.few
    have two : (2 : ℚ) ≤ parts := by exact_mod_cast (by omega : 2 ≤ parts)
    calc added c v * c.num.natAbs ≤ mostAdded c limit * c.num.natAbs := by gcongr
      _ < 2 := least.addedHere
      _ ≤ parts := two

/-- **Lesser counts are divided exactly.** -/
theorem truncatedQuotient_of_lt {n : Int} (lt : n.natAbs < limit) :
    truncatedQuotient n (ofRat c) = truncate (n / c) := by
  have few := lt.trans least.few
  have off := truncatedQuotient_of_floor least.low least.high few 0 fun present => by
    rw [Int.add_zero, Int.floor_eq_iff]
    exact ⟨floor_le_rounded least.low least.high present few least.above, by
      exact_mod_cast rounded_lt_floor_succ least.low least.high present few
        (least.added_lt present lt)⟩
  rwa [Int.mul_zero, Int.add_zero] at off

/-- **The least wrong count** and its opposite come out one too far from zero. -/
theorem truncatedQuotient_of_eq {n : Int} (eq : n.natAbs = limit) :
    truncatedQuotient n (ofRat c) = truncate (n / c) + n.sign := by
  have off := truncatedQuotient_of_floor least.low least.high (eq ▸ least.few) 1
    fun _ => eq ▸ least.wrong
  rwa [Int.mul_one] at off

end LeastWrong

end PeriodText
