import PeriodText.Conversion
import PeriodText.Proofs.Resolution

/-!
# Months, quarters, semesters and years

Of these four units the months in a finer one divide the months in a coarser one. So a length is
multiplied on the way to a finer unit, and on the way to a coarser one divided, with what is left
over dropped toward zero (`Value.length_finer`, `Value.length_coarser`). Dropping it twice is
dropping it once, so it makes no difference in which steps a length is converted; and what is dropped
is less than one coarser unit: `Value.length_steps`.
-/

set_option autoImplicit false

namespace PeriodText

/-! ## Truncated quotients -/

/-- Divided in two steps, or in one. -/
theorem tdiv_tdiv_natCast (n : Int) (j k : Nat) : (n.tdiv j).tdiv k = n.tdiv (j * k : Nat) := by
  obtain ⟨m, rfl | rfl⟩ := n.eq_nat_or_neg
  · rw [← Int.ofNat_tdiv, ← Int.ofNat_tdiv, ← Int.ofNat_tdiv, Nat.div_div_eq_div_mul]
  · rw [Int.neg_tdiv, Int.neg_tdiv, Int.neg_tdiv, ← Int.ofNat_tdiv, ← Int.ofNat_tdiv,
      ← Int.ofNat_tdiv, Nat.div_div_eq_div_mul]

/-- What is left of a number when the remainder is dropped: no more than the number, of its sign
unless nothing is left, and short of it by less than the divisor. -/
theorem truncated_bounds (n : Int) {k : Nat} (positive : 0 < k) :
    (n.tdiv k * k).natAbs ≤ n.natAbs ∧ (n.tdiv k * k ≠ 0 → (n.tdiv k * k).sign = n.sign) ∧
      (n - n.tdiv k * k).natAbs < k := by
  refine ⟨?_, fun some => ?_, ?_⟩
  · rw [Int.natAbs_mul, Int.natAbs_tdiv, Int.natAbs_natCast]
    exact Nat.div_mul_le_self _ _
  · have quotient : n.tdiv k ≠ 0 := fun none => some (by rw [none, Int.zero_mul])
    have large : ¬n.natAbs < (k : Int).natAbs := by
      intro small
      have none : (n.tdiv k).sign = 0 := by rw [Int.sign_tdiv, if_pos small]
      exact quotient (Int.sign_eq_zero_iff_zero.mp none)
    have one : (k : Int).sign = 1 := Int.sign_natCast_of_ne_zero (Nat.ne_of_gt positive)
    rw [Int.sign_mul, Int.sign_tdiv, if_neg large, one, Int.mul_one, Int.mul_one]
  · have dropped : n - n.tdiv k * k = n.tmod k := by
      rw [Int.tdiv_mul_self, Int.sub_sub_self]
    rw [dropped, Int.natAbs_tmod, Int.natAbs_natCast]
    exact Nat.mod_lt _ positive

/-! ## Units of whole months -/

namespace LengthUnit

/-- The kind of the periods that count a unit. -/
def kind : LengthUnit → Kind
  | weeks => .week
  | months => .month
  | quarters => .quarter
  | semesters => .semester
  | years => .year

theorem monthCount?_kind {unit : LengthUnit} {months : Nat}
    (whole : unit.monthCount? = some months) : unit.kind.monthCount? = some months := by
  cases unit <;> exact whole

theorem monthCount?_pos {unit : LengthUnit} {months : Nat}
    (whole : unit.monthCount? = some months) : 0 < months := by
  cases unit <;> cases whole <;> decide

/-- The months in a finer unit divide the months in a coarser one. -/
theorem monthCount?_dvd {fine coarse : LengthUnit} {few many : Nat}
    (first : fine.monthCount? = some few) (second : coarse.monthCount? = some many)
    (le : few ≤ many) : few ∣ many := by
  cases fine <;> cases first <;> cases coarse <;> cases second <;> revert le <;> decide

/-- The ratio of the months in two units is the product of the ratios to one between them. -/
theorem ratio_mul {a b c : LengthUnit} {x y z : Nat} (first : a.monthCount? = some x)
    (second : b.monthCount? = some y) (third : c.monthCount? = some z) (fine : x ≤ y)
    (coarse : y ≤ z) : y / x * (z / y) = z / x := by
  obtain ⟨i, rfl⟩ := monthCount?_dvd first second fine
  obtain ⟨j, rfl⟩ := monthCount?_dvd second third coarse
  have positive := monthCount?_pos first
  have positiveToo := monthCount?_pos second
  rw [Nat.mul_div_cancel_left _ positive, Nat.mul_div_cancel_left _ positiveToo, Nat.mul_assoc,
    Nat.mul_div_cancel_left _ positive]

end LengthUnit

/-! ## Lengths -/

/-- A length in a finer unit of so many months each. -/
theorem rescale_finer {n : Int} {few many : Nat} (le : few ≤ many) :
    rescale n many few = n * (many / few : Nat) := if_pos le

/-- A length in a coarser unit of so many months each. -/
theorem rescale_coarser {n : Int} {few many : Nat} (positive : 0 < few) (le : few ≤ many) :
    rescale n few many = n.tdiv (many / few : Nat) := by
  unfold rescale
  split
  · next ge =>
    rw [Nat.le_antisymm ge le, Nat.div_self positive, Int.natCast_one, Int.mul_one, Int.tdiv_one]
  · rfl

/-- What is left of a count is a count. -/
theorem Count.exists_tdiv (count : Count) (k : Nat) : ∃ q : Count, q.toInt = count.toInt.tdiv k := by
  have fits := count.fits
  have small := Int.natAbs_tdiv_le_natAbs count.toInt k
  suffices leastCount ≤ count.toInt.tdiv k ∧ count.toInt.tdiv k ≤ greatestCount from ⟨⟨_, this⟩, rfl⟩
  unfold leastCount greatestCount at *
  rcases Int.le_total 0 count.toInt with nonnegative | nonpositive
  · have quotient := Int.tdiv_nonneg nonnegative (Int.natCast_nonneg k)
    omega
  · have quotient := Int.tdiv_nonneg (Int.neg_nonneg_of_nonpos nonpositive) (Int.natCast_nonneg k)
    rw [Int.neg_tdiv] at quotient
    omega

namespace Value

variable {fine coarse : LengthUnit} {few many : Nat}

/-- A period of whole months has a length in every unit of whole months. -/
theorem length_eq {p : Period} {own : Nat} (whole : p.kind.monthCount? = some own)
    (unit : coarse.monthCount? = some many) :
    (Value.period p).length coarse = .ok (.whole (rescale p.value own many)) := by
  have groups : p.monthGroups? many = some (rescale p.value own many) := by
    unfold Period.monthGroups?
    split
    · next day =>
      rw [day] at whole
      cases whole
    · next week =>
      rw [week] at whole
      cases whole
    · rw [whole]
      rfl
  simp only [length, Period.length?, unit, groups, Option.map_some]

variable (first : fine.monthCount? = some few) (second : coarse.monthCount? = some many)
  (le : few ≤ many) (count : Count)
include first second le

/-- **On the way to a coarser unit** a length is divided, and what is left over is dropped. -/
theorem length_coarser : (Value.period ⟨fine.kind, count⟩).length coarse =
    .ok (.whole (count.toInt.tdiv (many / few : Nat))) := by
  have whole : (Period.mk fine.kind count).kind.monthCount? = some few :=
    LengthUnit.monthCount?_kind first
  rw [length_eq whole second, rescale_coarser (LengthUnit.monthCount?_pos first) le]
  rfl

/-- **On the way to a finer unit** a length is multiplied. -/
theorem length_finer : (Value.period ⟨coarse.kind, count⟩).length fine =
    .ok (.whole (count.toInt * (many / few : Nat))) := by
  have whole : (Period.mk coarse.kind count).kind.monthCount? = some many :=
    LengthUnit.monthCount?_kind second
  rw [length_eq whole first, rescale_finer le]
  rfl

end Value

/-- **Lengths in months, quarters, semesters and years.** Of three of these units, fine to coarse:
a length in the first is converted to the third as it is through the second, which always can hold
it. A length in the third is converted to the first and back without loss, if the first can hold it.
A length in the first is converted to the third by dropping toward zero what makes no whole unit; on
the way back it is no greater than before, of the same sign unless it is zero, and short of it by
less than what one of the third unit has of the first, which is the ratio of their months. -/
theorem Value.length_steps {a b c : LengthUnit} {x y z : Nat} (first : a.monthCount? = some x)
    (second : b.monthCount? = some y) (third : c.monthCount? = some z) (fine : x ≤ y)
    (coarse : y ≤ z) (count : Count) :
    (∃ m p n, (Value.period ⟨a.kind, count⟩).length b = .ok (.whole m) ∧
      Period.ofInt b.kind m = .ok p ∧ (Value.period p).length c = .ok (.whole n) ∧
      (Value.period ⟨a.kind, count⟩).length c = .ok (.whole n)) ∧
    (∃ n, (Value.period ⟨c.kind, count⟩).length a = .ok (.whole n) ∧
      (leastCount ≤ n ∧ n ≤ greatestCount → ∃ p, Period.ofInt a.kind n = .ok p ∧
        (Value.period p).length c = .ok (.whole count.toInt))) ∧
    (Value.period (Period.one c.kind)).length a = .ok (.whole (z / x : Nat)) ∧
    ∃ m p w, (Value.period ⟨a.kind, count⟩).length c = .ok (.whole m) ∧
      Period.ofInt c.kind m = .ok p ∧ (Value.period p).length a = .ok (.whole w) ∧
      m = count.toInt.tdiv (z / x : Nat) ∧
      w.natAbs ≤ count.toInt.natAbs ∧ (w ≠ 0 → w.sign = count.toInt.sign) ∧
      (count.toInt - w).natAbs < z / x := by
  have whole : x ≤ z := Nat.le_trans fine coarse
  have steps := LengthUnit.ratio_mul first second third fine coarse
  have positive : 0 < z / x := Nat.div_pos whole (LengthUnit.monthCount?_pos first)
  refine ⟨?_, ?_, ?_, ?_⟩
  · obtain ⟨q, quotient⟩ := count.exists_tdiv (y / x)
    refine ⟨_, ⟨b.kind, q⟩, _, length_coarser first second fine count,
      Period.ofInt_eq_ok.mpr ⟨rfl, quotient⟩, length_coarser second third coarse q, ?_⟩
    rw [length_coarser first third whole, quotient, tdiv_tdiv_natCast, steps]
  · refine ⟨_, length_finer first third whole count, fun fits => ⟨⟨a.kind, ⟨_, fits⟩⟩, ?_, ?_⟩⟩
    · exact Period.ofInt_eq_ok.mpr ⟨rfl, rfl⟩
    · rw [length_coarser first third whole]
      have nonzero : ((z / x : Nat) : Int) ≠ 0 := by omega
      exact congrArg (Except.ok ∘ Length.whole) (Int.mul_tdiv_cancel _ nonzero)
  · have one := length_finer first third whole ⟨1, by decide⟩
    rwa [Int.one_mul] at one
  · obtain ⟨q, quotient⟩ := count.exists_tdiv (z / x)
    have back := length_finer first third whole q
    rw [quotient] at back
    exact ⟨_, ⟨c.kind, q⟩, _, length_coarser first third whole count,
      Period.ofInt_eq_ok.mpr ⟨rfl, quotient⟩, back, rfl, truncated_bounds _ positive⟩

/-- The least count of months makes no whole number of years: eight months of twelve are dropped,
through quarters as well. -/
theorem Value.length_steps_least : ∃ quarters years : Period,
    (Value.period ⟨.month, ⟨leastCount, by decide⟩⟩).length .quarters =
      .ok (.whole (-3074457345618258602)) ∧
    Period.ofInt .quarter (-3074457345618258602) = .ok quarters ∧
    (Value.period quarters).length .years = .ok (.whole (-768614336404564650)) ∧
    Period.ofInt .year (-768614336404564650) = .ok years ∧
    (Value.period years).length .months = .ok (.whole (-9223372036854775800)) ∧
    (Value.period (Period.one .year)).length .months = .ok (.whole 12) ∧
    (leastCount - -9223372036854775800).natAbs < 12 := by
  obtain ⟨⟨m, quarters, n, there, made, further, direct⟩, -, one,
      ⟨m', years, w, divided, counted, back, -, -, -, rest⟩⟩ :=
    length_steps (a := .months) (b := .quarters) (c := .years) rfl rfl rfl (by decide) (by decide)
      ⟨leastCount, by decide⟩
  cases there
  cases direct
  cases divided
  cases counted
  cases back
  exact ⟨quarters, _, rfl, made, further, rfl, rfl, one, rest⟩

end PeriodText
