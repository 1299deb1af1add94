import PeriodText.Numeral.Binary64
import Mathlib.Algebra.Order.Field.Power
import Mathlib.Data.Rat.Floor
import Mathlib.Tactic.FieldSimp
import Mathlib.Tactic.Linarith
import Mathlib.Tactic.NormNum

/-!
# Rounding

What rounding to a floating point number does to a fraction. Every fraction has a unit, the power
of two of which it has at least 2 to the 52 and fewer than 2 to the 53, or the least unit there is
(`unitAt`). It is rounded to a multiple of its unit that is no farther than half a unit away:
`rounded_spec`. All that is known of rounding elsewhere follows from this. In particular an integer
of no more than 53 bits stays as it is, and below 2 to the 53 whole numbers are multiples of the
unit, so that a fraction can be rounded up to one only if it is at most half a unit below
(`rounded_lt`, `le_rounded`).
-/

set_option autoImplicit false

namespace PeriodText.Numeral.Binary64

/-! ## Whole numbers -/

/-- A fraction is rounded to a whole number that is no farther than one half away. -/
theorem abs_roundQuotient_sub_le (num : Nat) {den : Nat} (positive : 0 < den) :
    |(roundQuotient num den : ℚ) - num / den| ≤ 1 / 2 := by
  have whole := Nat.div_add_mod num den
  have rest := Nat.mod_lt num positive
  have near : 2 * (den * roundQuotient num den) ≤ 2 * num + den ∧
      2 * num ≤ 2 * (den * roundQuotient num den) + den := by
    unfold roundQuotient
    dsimp only
    split_ifs
    · omega
    · rw [Nat.mul_add]
      omega
    · rcases Nat.mod_two_eq_zero_or_one (num / den) with even | odd
      · rw [even, Nat.add_zero]
        omega
      · rw [odd, Nat.mul_add]
        omega
  have pos : (0 : ℚ) < den := by exact_mod_cast positive
  have above : 2 * ((den : ℚ) * roundQuotient num den) ≤ 2 * num + den := by exact_mod_cast near.1
  have below : 2 * (num : ℚ) ≤ 2 * (den * roundQuotient num den) + den := by exact_mod_cast near.2
  have split : (roundQuotient num den : ℚ) - num / den =
      (den * roundQuotient num den - num) / den := by
    field_simp
  rw [split, abs_div, abs_of_pos pos, div_le_iff₀ pos, abs_le]
  constructor <;> linarith

/-! ## Exponents -/

theorem cast_twoTo (n : Nat) : (twoTo n : ℚ) = 2 ^ n := Nat.cast_pow 2 n

theorem two_zpow_pos (e : Int) : (0 : ℚ) < 2 ^ e := zpow_pos (by decide) e

theorem two_zpow_add (e : Int) (n : Nat) : (2 : ℚ) ^ (e + n) = 2 ^ n * 2 ^ e := by
  rw [zpow_add₀ (by decide), zpow_natCast, mul_comm]

/-- A finite number is its mantissa times the power of two. -/
theorem value_eq (negative : Bool) (mantissa : Nat) (exponent : Int) :
    value negative mantissa exponent =
      if negative then -(mantissa * 2 ^ exponent : ℚ) else mantissa * 2 ^ exponent := by
  have magnitude : (if exponent < 0 then mkRat mantissa (twoTo exponent.natAbs)
      else ((mantissa * twoTo exponent.natAbs : Nat) : ℚ)) = mantissa * 2 ^ exponent := by
    split
    · next below =>
      obtain ⟨n, rfl⟩ := Int.exists_eq_neg_ofNat below.le
      rw [Rat.mkRat_eq_div, Int.natAbs_neg, Int.natAbs_natCast, cast_twoTo, zpow_neg,
        zpow_natCast, div_eq_mul_inv, Int.cast_natCast]
    · next above =>
      obtain ⟨n, rfl⟩ := Int.eq_ofNat_of_zero_le (Int.not_lt.mp above)
      rw [Int.natAbs_natCast, Nat.cast_mul, cast_twoTo, zpow_natCast]
  rw [value, magnitude]

/-- A scaled fraction is the fraction divided by the power of two. -/
theorem scaled_eq (num den : Nat) (exponent : Int) :
    ((scaled num den exponent).1 : ℚ) / (scaled num den exponent).2 = num / den / 2 ^ exponent := by
  unfold scaled
  split
  · next negative =>
    obtain ⟨n, rfl⟩ := Int.exists_eq_neg_ofNat negative.le
    rw [Int.natAbs_neg, Int.natAbs_natCast, Nat.cast_mul, cast_twoTo, zpow_neg, zpow_natCast,
      div_inv_eq_mul, mul_div_right_comm]
  · next nonnegative =>
    obtain ⟨n, rfl⟩ := Int.eq_ofNat_of_zero_le (Int.not_lt.mp nonnegative)
    rw [Int.natAbs_natCast, Nat.cast_mul, cast_twoTo, zpow_natCast, div_div]

theorem scaled_pos (num : Nat) {den : Nat} (positive : 0 < den) (exponent : Int) :
    0 < (scaled num den exponent).2 := by
  unfold scaled
  split
  · exact positive
  · exact Nat.mul_pos positive (Nat.pow_pos (by decide))

/-- Scaled down, a fraction has no more than 53 bits if it is below the power of two. -/
theorem scaled_div_lt_iff (num : Nat) {den : Nat} (positive : 0 < den) (exponent : Int) :
    (scaled num den exponent).1 / (scaled num den exponent).2 < twoTo 53 ↔
      (num / den : ℚ) < 2 ^ 53 * 2 ^ exponent := by
  have scaledPos := scaled_pos num positive exponent
  rw [Nat.div_lt_iff_lt_mul scaledPos, ← div_lt_iff₀ (two_zpow_pos exponent), ← scaled_eq,
    div_lt_iff₀ (by exact_mod_cast scaledPos), ← Nat.cast_lt (α := ℚ), Nat.cast_mul, cast_twoTo]

section

variable {num den : Nat} (present : 0 < num) (positive : 0 < den)
include present positive

/-- The numbers of bits of numerator and denominator tell the size of a fraction within a factor of
four. -/
theorem log2_bounds :
    (2 ^ 52 * 2 ^ ((num.log2 : Int) - den.log2 - 53) : ℚ) < num / den ∧
      (num / den : ℚ) < 2 ^ 54 * 2 ^ ((num.log2 : Int) - den.log2 - 53) := by
  have pos : (0 : ℚ) < den := by exact_mod_cast positive
  have least : (2 : ℚ) ^ num.log2 ≤ num := by exact_mod_cast Nat.log2_self_le present.ne'
  have most : (num : ℚ) < 2 ^ (num.log2 + 1) := by exact_mod_cast Nat.lt_log2_self
  have leastBelow : (2 : ℚ) ^ den.log2 ≤ den := by exact_mod_cast Nat.log2_self_le positive.ne'
  have mostBelow : (den : ℚ) < 2 ^ (den.log2 + 1) := by exact_mod_cast Nat.lt_log2_self
  rw [lt_div_iff₀ pos, div_lt_iff₀ pos]
  constructor
  · calc (2 ^ 52 * 2 ^ ((num.log2 : Int) - den.log2 - 53) * den : ℚ)
        < 2 ^ 52 * 2 ^ ((num.log2 : Int) - den.log2 - 53) * 2 ^ (den.log2 + 1) := by gcongr
      _ = 2 ^ num.log2 := by
        rw [← zpow_natCast, ← zpow_natCast, ← zpow_natCast, ← zpow_add₀ (by decide),
          ← zpow_add₀ (by decide)]
        congr 1
        push_cast
        omega
      _ ≤ num := least
  · calc (num : ℚ) < 2 ^ (num.log2 + 1) := most
      _ = 2 ^ 54 * 2 ^ ((num.log2 : Int) - den.log2 - 53) * 2 ^ den.log2 := by
        rw [← zpow_natCast, ← zpow_natCast, ← zpow_natCast, ← zpow_add₀ (by decide),
          ← zpow_add₀ (by decide)]
        congr 1
        push_cast
        omega
      _ ≤ 2 ^ 54 * 2 ^ ((num.log2 : Int) - den.log2 - 53) * den := by gcongr

/-- At its exponent a fraction has a mantissa of 53 bits, or fewer if the exponent is the least. -/
theorem exponentOf_spec :
    leastExponent ≤ exponentOf num den ∧ (num / den : ℚ) < 2 ^ 53 * 2 ^ exponentOf num den ∧
      (2 ^ 52 * 2 ^ exponentOf num den ≤ (num / den : ℚ) ∨
        exponentOf num den = leastExponent) := by
  obtain ⟨above, below⟩ := log2_bounds present positive
  let guess : Int := (num.log2 : Int) - den.log2 - 53
  have fits := scaled_div_lt_iff num positive guess
  obtain ⟨e, exponent, least, most⟩ : ∃ e, exponentOf num den =
      (if e < leastExponent then leastExponent else e) ∧
      2 ^ 52 * 2 ^ e ≤ (num / den : ℚ) ∧ (num / den : ℚ) < 2 ^ 53 * 2 ^ e := by
    by_cases small : (num / den : ℚ) < 2 ^ 53 * 2 ^ guess
    · refine ⟨guess, ?_, above.le, small⟩
      exact congrArg (fun e => if e < leastExponent then leastExponent else e)
        (if_pos (fits.mpr small))
    · have next : (2 : ℚ) ^ (guess + 1) = 2 * 2 ^ guess := by
        rw [zpow_add_one₀ (by decide), mul_comm]
      refine ⟨guess + 1, ?_, ?_, ?_⟩
      · exact congrArg (fun e => if e < leastExponent then leastExponent else e)
          (if_neg (mt fits.mp small))
      · rw [next]
        linarith
      · rw [next]
        linarith
  rw [exponent]
  split
  · next lower =>
    refine ⟨Int.le_refl _, most.trans_le ?_, .inr rfl⟩
    gcongr
    decide
  · next higher => exact ⟨Int.not_lt.mp higher, most, .inl least⟩

end

/-! ## Units -/

/-- The unit of a fraction: the power of two that it is rounded to a multiple of. -/
def unitAt (x : ℚ) : ℚ := 2 ^ exponentOf x.num.natAbs x.den

theorem unitAt_pos (x : ℚ) : 0 < unitAt x := two_zpow_pos _

theorem natAbs_num_div_den (x : ℚ) : (x.num.natAbs : ℚ) / x.den = |x| := by
  rw [Nat.cast_natAbs, Int.cast_abs, ← Nat.abs_cast x.den, ← abs_div, Rat.num_div_den]

/-- A fraction has a mantissa of no more than 53 bits. -/
theorem abs_lt_unitAt (x : ℚ) : |x| < 2 ^ 53 * unitAt x := by
  rcases eq_or_ne x 0 with rfl | some
  · rw [abs_zero]
    exact mul_pos (by norm_num) (unitAt_pos 0)
  · have spec := exponentOf_spec (Int.natAbs_pos.mpr (Rat.num_ne_zero.mpr some)) x.den_pos
    rw [natAbs_num_div_den] at spec
    exact spec.2.1

/-- A fraction that is not too near zero has a mantissa of 53 bits. -/
theorem unitAt_le_abs {x : ℚ} (normal : 2 ^ (-1022 : Int) ≤ |x|) : 2 ^ 52 * unitAt x ≤ |x| := by
  have some : x ≠ 0 := abs_pos.mp ((two_zpow_pos _).trans_le normal)
  have spec := exponentOf_spec (Int.natAbs_pos.mpr (Rat.num_ne_zero.mpr some)) x.den_pos
  rw [natAbs_num_div_den] at spec
  rcases spec.2.2 with bits | least
  · exact bits
  · rw [unitAt, least, ← two_zpow_add]
    exact normal

/-- The unit of a fraction below a power of two. -/
theorem unitAt_le_of_lt {x : ℚ} {e : Int} (normal : 2 ^ (-1022 : Int) ≤ |x|)
    (below : |x| < 2 ^ 53 * 2 ^ e) : unitAt x ≤ 2 ^ e := by
  have bits := (unitAt_le_abs normal).trans_lt below
  have next : (2 : ℚ) ^ 53 * 2 ^ e = 2 ^ 52 * 2 ^ (e + 1) := by
    rw [zpow_add_one₀ (by decide)]
    ring
  rw [next, mul_lt_mul_iff_right₀ (by norm_num), unitAt,
    zpow_lt_zpow_iff_right₀ (by decide)] at bits
  exact zpow_le_zpow_right₀ (by decide) (Int.lt_add_one_iff.mp bits)

/-- A lesser fraction has no greater unit. -/
theorem unitAt_mono {x y : ℚ} (normal : 2 ^ (-1022 : Int) ≤ |x|) (le : |x| ≤ |y|) :
    unitAt x ≤ unitAt y := unitAt_le_of_lt normal (le.trans_lt (abs_lt_unitAt y))

/-! ## Rounded fractions -/

/-- A fraction in range is rounded to a multiple of its unit, no farther than half a unit away. -/
theorem toRat?_ofRatio (negative : Bool) {num den : Nat} (present : 0 < num) (positive : 0 < den)
    (small : (num / den : ℚ) < 2 ^ (1023 : Int)) : ∃ m : Nat,
    (ofRatio negative num den).toRat? = some
      (if negative then -(m * 2 ^ exponentOf num den : ℚ) else m * 2 ^ exponentOf num den) ∧
    |(m : ℚ) * 2 ^ exponentOf num den - num / den| ≤ 2 ^ exponentOf num den / 2 := by
  let e := exponentOf num den
  let m := roundQuotient (scaled num den e).1 (scaled num den e).2
  have pos := two_zpow_pos e
  refine ⟨m, ?_, ?_⟩
  · -- A mantissa that is rounded up to 54 bits is halved, and that keeps the value.
    let halved : Nat × Int := if m = twoTo 53 then (twoTo 52, e + 1) else (m, e)
    have same : (halved.1 : ℚ) * 2 ^ halved.2 = m * 2 ^ e := by
      by_cases carry : m = twoTo 53
      · simp only [halved, if_pos carry]
        rw [carry, cast_twoTo, cast_twoTo, zpow_add_one₀ (by decide)]
        ring
      · simp only [halved, if_neg carry]
    have inRange : ¬greatestExponent < halved.2 := by
      have upper : halved.2 ≤ e + 1 := by
        simp only [halved]
        split <;> omega
      have lower : e ≤ 970 := by
        rcases (exponentOf_spec present positive).2.2 with bits | least
        · have power := bits.trans_lt small
          rw [← two_zpow_add, zpow_lt_zpow_iff_right₀ (by decide)] at power
          omega
        · exact least.trans_le (by decide)
      unfold greatestExponent
      omega
    have number : ofRatio negative num den = .finite negative halved.1 halved.2 := by
      rw [ofRatio, if_neg present.ne']
      exact if_neg inRange
    rw [number, toRat?, value_eq, same]
  · have near := abs_roundQuotient_sub_le (scaled num den e).1 (scaled_pos num positive e)
    rw [scaled_eq] at near
    have split : (m : ℚ) * 2 ^ e - num / den = (m - num / den / 2 ^ e) * 2 ^ e := by
      field_simp
    rw [split, abs_mul, abs_of_pos pos]
    calc |(m : ℚ) - num / den / 2 ^ e| * 2 ^ e ≤ 1 / 2 * 2 ^ e := by gcongr
      _ = 2 ^ e / 2 := by ring

/-- **Rounding.** A fraction in range is rounded to a multiple of its unit, no farther than half a
unit away. -/
theorem rounded_spec {x : ℚ} (small : |x| < 2 ^ (1023 : Int)) :
    (ofRat x).toRat? = some (rounded x) ∧ (∃ k : Int, rounded x = k * unitAt x) ∧
      |rounded x - x| ≤ unitAt x / 2 := by
  suffices ∃ y, (ofRat x).toRat? = some y ∧ (∃ k : Int, y = k * unitAt x) ∧
      |y - x| ≤ unitAt x / 2 by
    obtain ⟨y, value, spec⟩ := this
    have same : rounded x = y := by rw [rounded, value, Option.getD_some]
    exact ⟨same ▸ value, same ▸ spec⟩
  rcases eq_or_ne x 0 with rfl | some
  · have zero : (ofRat 0).toRat? = some 0 := by
      change (finite false 0 leastExponent).toRat? = some 0
      rw [toRat?, value_eq, Nat.cast_zero, zero_mul]
      rfl
    refine ⟨0, zero, ⟨0, by rw [Int.cast_zero, zero_mul]⟩, ?_⟩
    rw [sub_zero, abs_zero]
    exact (half_pos (unitAt_pos 0)).le
  · have present := Int.natAbs_pos.mpr (Rat.num_ne_zero.mpr some)
    rw [← natAbs_num_div_den] at small
    obtain ⟨m, value, near⟩ := toRat?_ofRatio (decide (x.num < 0)) present x.den_pos small
    rw [natAbs_num_div_den] at near
    refine ⟨_, value, ?_, ?_⟩
    · by_cases negative : x.num < 0
      · refine ⟨-m, ?_⟩
        rw [if_pos (decide_eq_true negative), Int.cast_neg, Int.cast_natCast, neg_mul]
        rfl
      · refine ⟨m, ?_⟩
        rw [if_neg (by simpa using negative), Int.cast_natCast]
        rfl
    · by_cases negative : x.num < 0
      · rw [abs_of_neg (Rat.num_neg.mp negative)] at near
        rw [if_pos (decide_eq_true negative), ← neg_add', abs_neg]
        rwa [sub_neg_eq_add] at near
      · rw [abs_of_nonneg (Rat.num_nonneg.mp (Int.not_lt.mp negative))] at near
        rwa [if_neg (by simpa using negative)]

/-- A fraction that is not negative is rounded to one. -/
theorem rounded_nonneg {x : ℚ} (small : |x| < 2 ^ (1023 : Int)) (nonneg : 0 ≤ x) :
    0 ≤ rounded x := by
  obtain ⟨-, ⟨k, rounds⟩, near⟩ := rounded_spec small
  have pos := unitAt_pos x
  have lower := (abs_le.mp near).1
  rw [rounds] at lower ⊢
  have above : ((-1 : Int) : ℚ) * unitAt x < k * unitAt x := by
    push_cast
    linarith
  have le : 0 ≤ k := Int.sub_one_lt_iff.mp (by exact_mod_cast lt_of_mul_lt_mul_right above pos.le)
  exact mul_nonneg (by exact_mod_cast le) pos.le

/-- With the other sign a fraction is rounded to the opposite. -/
theorem toRat?_ofRatio_not (negative : Bool) (num den : Nat) :
    (ofRatio (!negative) num den).toRat? = (ofRatio negative num den).toRat?.map (-·) := by
  have opposite (mantissa : Nat) (exponent : Int) :
      value (!negative) mantissa exponent = -value negative mantissa exponent := by
    rw [value_eq, value_eq]
    cases negative with
    | false => rfl
    | true => exact (neg_neg _).symm
  unfold ofRatio
  dsimp only
  split_ifs <;> simp only [toRat?, opposite, Option.map_some, Option.map_none]

/-- A fraction and its opposite are rounded to opposites. -/
theorem rounded_neg (x : ℚ) : rounded (-x) = -rounded x := by
  rcases eq_or_ne x 0 with rfl | some
  · have zero := (rounded_spec (x := 0) (by rw [abs_zero]; exact two_zpow_pos _)).1
    change (finite false 0 leastExponent).toRat? = _ at zero
    rw [toRat?, value_eq, Nat.cast_zero, zero_mul] at zero
    rw [neg_zero, ← Option.some.inj zero]
    rfl
  · have sign : decide ((-x).num < 0) = !decide (x.num < 0) := by
      have numerator := Rat.num_ne_zero.mpr some
      rw [Rat.num_neg_eq_neg_num, Bool.eq_iff_iff]
      simp only [decide_eq_true_eq, Bool.not_eq_true', decide_eq_false_iff_not]
      omega
    have opposite : (ofRat (-x)).toRat? = (ofRat x).toRat?.map (-·) := by
      rw [ofRat, sign, Rat.num_neg_eq_neg_num, Int.natAbs_neg, Rat.den_neg_eq_den]
      exact toRat?_ofRatio_not _ _ _
    rw [rounded, rounded, opposite]
    cases (ofRat x).toRat? with
    | none => exact neg_zero.symm
    | some y => rfl

/-- A fraction that is a multiple of its unit stays as it is. -/
theorem rounded_eq_self {x : ℚ} (small : |x| < 2 ^ (1023 : Int)) {k : Int}
    (multiple : x = k * unitAt x) : rounded x = x := by
  obtain ⟨-, ⟨j, rounds⟩, near⟩ := rounded_spec small
  have pos := unitAt_pos x
  rw [rounds]
  generalize unitAt x = u at *
  subst multiple
  rw [rounds, ← sub_mul, abs_mul, abs_of_pos pos, le_div_iff₀ (by decide), mul_assoc,
    mul_comm u, ← mul_assoc, mul_le_iff_le_one_left pos] at near
  have same : |j - k| * 2 ≤ 1 := by exact_mod_cast near
  have zero : j - k = 0 := Int.abs_lt_one_iff.mp (by omega)
  rw [Int.sub_eq_zero.mp zero]

/-- A fraction below a power of two that is not too great is in range. -/
theorem small_of_lt {x : ℚ} {n : Nat} (below : |x| < 2 ^ n) (le : n ≤ 1023) :
    |x| < 2 ^ (1023 : Int) := by
  rw [← zpow_natCast] at below
  exact below.trans_le (zpow_le_zpow_right₀ (by decide) (by exact_mod_cast le))

/-- A fraction above the inverse of a power of two that is not too great is not too near zero. -/
theorem normal_of_le {x : ℚ} {n : Nat} (above : (2 ^ n)⁻¹ ≤ |x|) (le : n ≤ 1022) :
    2 ^ (-1022 : Int) ≤ |x| := by
  rw [← zpow_natCast, ← zpow_neg] at above
  exact (zpow_le_zpow_right₀ (by decide) (by omega)).trans above

/-- The error of rounding, by the size of the fraction. -/
theorem abs_rounded_sub_le {x : ℚ} (normal : 2 ^ (-1022 : Int) ≤ |x|)
    (small : |x| < 2 ^ (1023 : Int)) : |rounded x - x| ≤ |x| / 2 ^ 53 := by
  have near := (rounded_spec small).2.2
  have bits := unitAt_le_abs normal
  linarith

section

variable {x : ℚ} (normal : 2 ^ (-1022 : Int) ≤ |x|) (below : |x| < 2 ^ 53)
include normal below

/-- Below 2 to the 53 every whole number is a multiple of the unit. -/
theorem exists_multiple (n : Int) : ∃ k : Int, (n : ℚ) = k * unitAt x := by
  have unit : unitAt x ≤ 2 ^ (0 : Int) := unitAt_le_of_lt normal (by rwa [zpow_zero, mul_one])
  obtain ⟨places, exponent⟩ := Int.exists_eq_neg_ofNat
    ((zpow_le_zpow_iff_right₀ (by decide : (1 : ℚ) < 2)).mp unit)
  refine ⟨n * 2 ^ places, ?_⟩
  rw [unitAt, exponent, zpow_neg, zpow_natCast]
  push_cast
  rw [mul_inv_cancel_right₀ (pow_ne_zero _ (by decide))]

/-- A whole number that is no more than half a unit above is not rounded below. -/
theorem le_rounded {n : Int} (near : n - unitAt x / 2 < x) : n ≤ rounded x := by
  obtain ⟨-, ⟨k, rounds⟩, error⟩ := rounded_spec (small_of_lt below (by decide))
  obtain ⟨j, multiple⟩ := exists_multiple normal below n
  have pos := unitAt_pos x
  have lower := (abs_le.mp error).1
  rw [rounds] at lower ⊢
  rw [multiple] at near ⊢
  have next : ((j - 1 : Int) : ℚ) * unitAt x < k * unitAt x := by
    push_cast
    linarith
  have le : j ≤ k := Int.sub_one_lt_iff.mp (by exact_mod_cast lt_of_mul_lt_mul_right next pos.le)
  have cast : (j : ℚ) ≤ k := by exact_mod_cast le
  exact mul_le_mul_of_nonneg_right cast pos.le

end

/-- A whole number that is more than half a unit above is not reached. -/
theorem rounded_lt {x : ℚ} {n : Int} (small : |x| < 2 ^ (1023 : Int))
    (far : x < n - unitAt x / 2) : rounded x < n := by
  have upper := (abs_le.mp (rounded_spec small).2.2).2
  linarith

/-- An integer of no more than 53 bits stays as it is. -/
theorem rounded_intCast {n : Int} (few : n.natAbs < 2 ^ 53) : rounded n = n := by
  rcases eq_or_ne n 0 with rfl | some
  · refine rounded_eq_self ?_ (k := 0) (by rw [Int.cast_zero, zero_mul])
    rw [Int.cast_zero, abs_zero]
    exact two_zpow_pos _
  · have size : |(n : ℚ)| = n.natAbs := by rw [Nat.cast_natAbs, Int.cast_abs]
    have below : |(n : ℚ)| < 2 ^ 53 := by
      rw [size]
      exact_mod_cast few
    have normal : 2 ^ (-1022 : Int) ≤ |(n : ℚ)| := by
      refine normal_of_le (n := 0) ?_ (by decide)
      rw [size, pow_zero, inv_one]
      exact_mod_cast Int.natAbs_pos.mpr some
    obtain ⟨k, multiple⟩ := exists_multiple normal below n
    exact rounded_eq_self (small_of_lt below (by decide)) multiple

end PeriodText.Numeral.Binary64
