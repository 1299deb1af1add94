import PeriodText.Numeral.Decimal
import PeriodText.Proofs.Text.Runs
import PeriodText.Text.Letter
import Mathlib.Algebra.Group.Int.Defs
import Mathlib.Algebra.Group.Nat.Defs
import Mathlib.Data.List.Induction
import Mathlib.Tactic.Ring

/-!
# Decimal digits

What a written number consists of: digits only, at least one, as many as the width asks for or as
the number has. Read back they give the number, whatever zeros stand in front, and `n` has no more
than `width` digits exactly when `n < 10 ^ width`. So a number that is read from few enough digits
can be written, and is written as it was read if it had no zeros to spare (`padded_digitsOf_iff`).
No digit and no minus sign is a letter.
-/

set_option autoImplicit false

namespace PeriodText.Numeral

open Text (opens isLetter)

/-- The digits of a number are digits. -/
theorem isDigit_of_mem_digitsOf {n : Nat} {c : Char} (mem : c ∈ digitsOf n) : isDigit c = true :=
  Nat.isDigit_of_mem_toDigits (by decide) (by decide) mem

/-- A number has digits. -/
theorem digitsOf_ne_nil (n : Nat) : digitsOf n ≠ [] := Nat.toDigits_ne_nil

/-- The digits of a number stand for it. -/
theorem ofDigits_digitsOf (n : Nat) : ofDigits (digitsOf n) = n := Nat.ofDigitChars_ten_toDigits

/-- A number has at most so many digits exactly if it is below that power of ten. -/
theorem length_digitsOf_le_iff {n width : Nat} (present : 1 ≤ width) :
    (digitsOf n).length ≤ width ↔ n < 10 ^ width :=
  Nat.length_toDigits_le_iff (by decide) present

/-- The code points of the digits. -/
theorem toNat_of_isDigit {c : Char} (digit : isDigit c = true) : 48 ≤ c.toNat ∧ c.toNat ≤ 57 := by
  simpa [isDigit, Char.le_def, UInt32.le_iff_toNat_le] using digit

/-- A digit stands for a number below ten. -/
theorem digitValue_lt {c : Char} (digit : isDigit c = true) : digitValue c < 10 := by
  have range := toNat_of_isDigit digit
  rw [digitValue]
  omega

/-- Digits that stand for the same number below ten are the same. -/
theorem digitValue_injective {c d : Char} (first : isDigit c = true) (second : isDigit d = true)
    (same : digitValue c = digitValue d) : c = d := by
  have rangeFirst := toNat_of_isDigit first
  have rangeSecond := toNat_of_isDigit second
  rw [digitValue, digitValue] at same
  apply Char.toNat_inj.mp
  omega

/-- A digit after others adds a place at the end. -/
theorem ofDigits_snoc (digits : List Char) (c : Char) :
    ofDigits (digits ++ [c]) = 10 * ofDigits digits + digitValue c := by
  rw [ofDigits, List.foldl_append]
  rfl

/-- A digit before others adds a place in front. -/
theorem ofDigits_cons (c : Char) (digits : List Char) :
    ofDigits (c :: digits) = digitValue c * 10 ^ digits.length + ofDigits digits := by
  induction digits using List.reverseRecOn with
  | nil => simp [ofDigits]
  | append_singleton digits d ih =>
    rw [← List.cons_append, ofDigits_snoc, ih, ofDigits_snoc, List.length_append,
      List.length_singleton]
    ring

/-- Digits stand for a number below that power of ten. -/
theorem ofDigits_lt_pow {digits : List Char} (inside : ∀ c ∈ digits, isDigit c = true) :
    ofDigits digits < 10 ^ digits.length := by
  induction digits with
  | nil => decide
  | cons c digits ih =>
    obtain ⟨digit, others⟩ := List.forall_mem_cons.mp inside
    have small := digitValue_lt digit
    calc ofDigits (c :: digits)
        = digitValue c * 10 ^ digits.length + ofDigits digits := ofDigits_cons c digits
      _ < digitValue c * 10 ^ digits.length + 10 ^ digits.length :=
        Nat.add_lt_add_left (ih others) _
      _ = (digitValue c + 1) * 10 ^ digits.length := (Nat.succ_mul _ _).symm
      _ ≤ 10 * 10 ^ digits.length := Nat.mul_le_mul_right _ small
      _ = 10 ^ (c :: digits).length := (Nat.pow_succ').symm

/-- Digits stand for a number of as many places exactly if the first one is not zero. -/
theorem pow_le_ofDigits_cons_iff {c : Char} {digits : List Char} (digit : isDigit c = true)
    (inside : ∀ c ∈ digits, isDigit c = true) :
    10 ^ digits.length ≤ ofDigits (c :: digits) ↔ c ≠ '0' := by
  rw [ofDigits_cons]
  constructor
  · rintro large rfl
    have small := ofDigits_lt_pow inside
    rw [show digitValue '0' = 0 from rfl, Nat.zero_mul, Nat.zero_add] at large
    omega
  · intro some
    have positive : 1 ≤ digitValue c := by
      by_contra none
      exact some (digitValue_injective digit rfl (Nat.lt_one_iff.mp (Nat.not_le.mp none)))
    exact Nat.le_add_right_of_le (Nat.le_mul_of_pos_left _ positive)

/-- Digits stand for zero exactly if all are zeros. -/
theorem ofDigits_eq_zero_iff {digits : List Char} (inside : ∀ c ∈ digits, isDigit c = true) :
    ofDigits digits = 0 ↔ ∀ c ∈ digits, c = '0' := by
  induction digits with
  | nil => simp [ofDigits]
  | cons c digits ih =>
    obtain ⟨digit, others⟩ := List.forall_mem_cons.mp inside
    have zero : digitValue c = 0 ↔ c = '0' := by
      constructor
      · intro same
        exact digitValue_injective digit rfl same
      · rintro rfl
        rfl
    rw [ofDigits_cons, Nat.add_eq_zero_iff, Nat.mul_eq_zero, ih others, List.forall_mem_cons, zero]
    simp

/-- As many digits that stand for the same number are the same digits. -/
theorem eq_of_ofDigits_eq {digits others : List Char} (inside : ∀ c ∈ digits, isDigit c = true)
    (insideToo : ∀ c ∈ others, isDigit c = true) (length : digits.length = others.length)
    (same : ofDigits digits = ofDigits others) : digits = others := by
  induction digits using List.reverseRecOn generalizing others with
  | nil => exact (List.length_eq_zero_iff.mp length.symm).symm
  | append_singleton digits c ih =>
    cases others using List.reverseRecOn with
    | nil => simp at length
    | append_singleton others d =>
      obtain ⟨inside, first⟩ := List.forall_mem_append.mp inside
      obtain ⟨insideToo, second⟩ := List.forall_mem_append.mp insideToo
      have last : isDigit c = true := first c List.mem_cons_self
      have lastToo : isDigit d = true := second d List.mem_cons_self
      have small := digitValue_lt last
      have smallToo := digitValue_lt lastToo
      rw [ofDigits_snoc, ofDigits_snoc] at same
      rw [ih inside insideToo (by simpa using length) (by omega),
        digitValue_injective last lastToo (by omega)]

/-- A number of few enough digits can be written. -/
theorem isWritable_of_lt_pow {n : Int} {width : Nat} (present : 1 ≤ width)
    (short : width ≤ digitLimit) (small : n.natAbs < 10 ^ width) : isWritable n = true :=
  decide_eq_true (Nat.le_trans ((length_digitsOf_le_iff present).mpr small) short)

/-- As many digits are ordered as the numbers that they stand for. -/
theorem lt_iff_ofDigits_lt {digits others : List Char} (inside : ∀ c ∈ digits, isDigit c = true)
    (insideToo : ∀ c ∈ others, isDigit c = true) (length : digits.length = others.length) :
    digits < others ↔ ofDigits digits < ofDigits others := by
  induction digits generalizing others with
  | nil =>
    obtain rfl := List.length_eq_zero_iff.mp length.symm
    exact iff_of_false (List.not_lt_nil []) (Nat.lt_irrefl _)
  | cons c digits ih =>
    cases others with
    | nil => cases length
    | cons d others =>
      obtain ⟨digit, rest⟩ := List.forall_mem_cons.mp inside
      obtain ⟨digitToo, restToo⟩ := List.forall_mem_cons.mp insideToo
      have places : digits.length = others.length := Nat.succ.inj length
      have first : c < d ↔ digitValue c < digitValue d := by
        have range := toNat_of_isDigit digit
        have rangeToo := toNat_of_isDigit digitToo
        rw [Char.lt_def, UInt32.lt_iff_toNat_lt, digitValue, digitValue]
        change c.toNat < d.toNat ↔ _
        omega
      have same : c = d ↔ digitValue c = digitValue d :=
        ⟨congrArg digitValue, digitValue_injective digit digitToo⟩
      have below := ofDigits_lt_pow rest
      have belowToo := ofDigits_lt_pow restToo
      rw [List.cons_lt_cons_iff, first, same, ih rest restToo places, ofDigits_cons, ofDigits_cons]
      rw [places] at below ⊢
      constructor
      · rintro (less | ⟨equal, less⟩)
        · calc digitValue c * 10 ^ others.length + ofDigits digits
              < digitValue c * 10 ^ others.length + 10 ^ others.length :=
                Nat.add_lt_add_left below _
            _ = (digitValue c + 1) * 10 ^ others.length := (Nat.succ_mul _ _).symm
            _ ≤ digitValue d * 10 ^ others.length := Nat.mul_le_mul_right _ less
            _ ≤ digitValue d * 10 ^ others.length + ofDigits others := Nat.le_add_right _ _
        · rw [equal]
          exact Nat.add_lt_add_left less _
      · intro less
        rcases Nat.lt_trichotomy (digitValue c) (digitValue d) with fewer | equal | more
        · exact .inl fewer
        · rw [equal] at less
          exact .inr ⟨equal, Nat.lt_of_add_lt_add_left less⟩
        · have large := Nat.mul_le_mul_right (10 ^ others.length) more
          rw [Nat.succ_mul] at large
          omega

/-! ## Filled up to a width -/

/-- Digits filled up with zeros are digits. -/
theorem isDigit_of_mem_padded {width : Nat} {digits : List Char}
    (inside : ∀ c ∈ digits, isDigit c = true) {c : Char} (mem : c ∈ padded width digits) :
    isDigit c = true := by
  rcases List.mem_append.mp mem with zero | digit
  · rw [(List.mem_replicate.mp zero).2]
    rfl
  · exact inside c digit

/-- Digits are as many as the width once they are filled up, or more. -/
theorem length_padded (width : Nat) (digits : List Char) :
    (padded width digits).length = max width digits.length := by
  rw [padded, List.length_append, List.length_replicate]
  omega

/-- Filling digits up keeps what they stand for. -/
theorem ofDigits_padded (width : Nat) (digits : List Char) :
    ofDigits (padded width digits) = ofDigits digits := by
  change Nat.ofDigitChars 10 (List.replicate _ '0' ++ digits) 0 = Nat.ofDigitChars 10 digits 0
  rw [Nat.ofDigitChars_append, Nat.ofDigitChars_replicate_zero, Nat.mul_zero]

/-- **Which digits are written as they stand.** Of the digits that stand for a number, the ones that
it is written with are those that fill the width and, if they are more, do not begin with a zero. -/
theorem padded_digitsOf_iff {width : Nat} {digits : List Char} (present : 1 ≤ width)
    (inside : ∀ c ∈ digits, isDigit c = true) :
    padded width (digitsOf (ofDigits digits)) = digits ↔
      width ≤ digits.length ∧ (width < digits.length → digits.head? ≠ some '0') := by
  have written : ∀ c ∈ padded width (digitsOf (ofDigits digits)), isDigit c = true :=
    fun _ => isDigit_of_mem_padded fun _ => isDigit_of_mem_digitsOf
  have value : ofDigits (padded width (digitsOf (ofDigits digits))) = ofDigits digits := by
    rw [ofDigits_padded, ofDigits_digitsOf]
  -- What is written stands for the same number, so all that can differ is how many digits there are.
  have length : padded width (digitsOf (ofDigits digits)) = digits ↔
      max width (digitsOf (ofDigits digits)).length = digits.length := by
    rw [← length_padded]
    constructor
    · intro same
      rw [same]
    · intro same
      exact eq_of_ofDigits_eq written inside same value
  rw [length]
  cases digits with
  | nil =>
    rw [List.length_nil]
    omega
  | cons c digits =>
    obtain ⟨digit, others⟩ := List.forall_mem_cons.mp inside
    have most : (digitsOf (ofDigits (c :: digits))).length ≤ (c :: digits).length :=
      (length_digitsOf_le_iff (Nat.le_add_left 1 _)).mpr (ofDigits_lt_pow inside)
    have fewer (several : 1 ≤ digits.length) :
        (digitsOf (ofDigits (c :: digits))).length ≤ digits.length ↔ c = '0' := by
      rw [length_digitsOf_le_iff several, ← Nat.not_le, pow_le_ofDigits_cons_iff digit others,
        not_not]
    rw [List.length_cons] at most ⊢
    rw [List.head?_cons, Ne, Option.some.injEq]
    by_cases several : 1 ≤ digits.length
    · rw [← fewer several]
      omega
    · omega

/-- The digits that an integer is written with, sign aside, filled up to a width. -/
def magnitude (width : Nat) (n : Int) : List Char := padded width (digitsOf n.natAbs)

theorem isDigit_of_mem_magnitude {width : Nat} {n : Int} {c : Char}
    (mem : c ∈ magnitude width n) : isDigit c = true :=
  isDigit_of_mem_padded (fun _ => isDigit_of_mem_digitsOf) mem

theorem magnitude_ne_nil (width : Nat) (n : Int) : magnitude width n ≠ [] :=
  List.append_ne_nil_of_right_ne_nil _ (digitsOf_ne_nil _)

theorem ofDigits_magnitude (width : Nat) (n : Int) : ofDigits (magnitude width n) = n.natAbs := by
  rw [magnitude, ofDigits_padded, ofDigits_digitsOf]

/-- An integer is written in exactly the width if its magnitude is below that power of ten. -/
theorem length_magnitude_eq_iff {width : Nat} {n : Int} (present : 1 ≤ width) :
    (magnitude width n).length = width ↔ n.natAbs < 10 ^ width := by
  rw [magnitude, length_padded, ← length_digitsOf_le_iff present]
  omega

/-- An integer that is not negative is its own magnitude. -/
theorem natAbs_lt_pow_iff {width : Nat} {n : Int} (nonnegative : 0 ≤ n) :
    n.natAbs < 10 ^ width ↔ n < 10 ^ width := by
  obtain ⟨m, rfl⟩ := Int.eq_ofNat_of_zero_le nonnegative
  rw [Int.natAbs_natCast]
  constructor
  · intro small
    exact_mod_cast small
  · intro small
    exact_mod_cast small

/-- An integer that is not negative is written in exactly the width if it is below that power of
ten, in one digit at least. -/
theorem length_magnitude_of_lt {width : Nat} {n : Int} (nonnegative : 0 ≤ n)
    (small : n < 10 ^ width) : (magnitude width n).length = max 1 width := by
  cases width with
  | zero =>
    obtain rfl : n = 0 := by
      rw [Int.pow_zero] at small
      omega
    rfl
  | succ width =>
    have present : 1 ≤ width + 1 := Nat.le_add_left 1 width
    rw [(length_magnitude_eq_iff present).mpr ((natAbs_lt_pow_iff nonnegative).mpr small)]
    omega

theorem paddedText_of_neg {width : Nat} {n : Int} (negative : n < 0) :
    paddedText width n = '-' :: magnitude width n := if_pos negative

theorem paddedText_of_nonneg {width : Nat} {n : Int} (nonnegative : 0 ≤ n) :
    paddedText width n = magnitude width n := if_neg (Int.not_lt.mpr nonnegative)

/-- **Numbers that fill the same width are ordered as they are written.** -/
theorem paddedText_order {width : Nat} {n m : Int} (nonnegative : 0 ≤ n) (small : n < 10 ^ width)
    (nonnegativeToo : 0 ≤ m) (smallToo : m < 10 ^ width) :
    (paddedText width n).length = (paddedText width m).length ∧
      (paddedText width n < paddedText width m ↔ n < m) ∧
      (paddedText width n = paddedText width m ↔ n = m) := by
  rw [paddedText_of_nonneg nonnegative, paddedText_of_nonneg nonnegativeToo]
  have length : (magnitude width n).length = (magnitude width m).length := by
    rw [length_magnitude_of_lt nonnegative small, length_magnitude_of_lt nonnegativeToo smallToo]
  refine ⟨length, ?_, fun same => ?_, congrArg _⟩
  · rw [lt_iff_ofDigits_lt (fun _ => isDigit_of_mem_magnitude)
      (fun _ => isDigit_of_mem_magnitude) length, ofDigits_magnitude, ofDigits_magnitude]
    omega
  · have value := congrArg ofDigits same
    rw [ofDigits_magnitude, ofDigits_magnitude] at value
    omega

/-! ## Digits and letters -/

/-- No digit is a letter. -/
theorem isLetter_of_isDigit {c : Char} (digit : isDigit c = true) : isLetter c = false := by
  have range := toNat_of_isDigit digit
  have known := Text.isLetter_digit (c.toNat - 48) (by omega)
  rwa [show 48 + (c.toNat - 48) = c.toNat by omega, Char.ofNat_toNat] at known

/-- The minus sign is no letter. -/
theorem isLetter_minus : isLetter '-' = false := by decide +kernel

/-- The minus sign is no digit. -/
theorem isDigit_minus : isDigit '-' = false := by decide

/-- A text that begins with a letter does not begin with a digit. -/
theorem opens_isDigit_of_isLetter {text : List Char} (letter : opens isLetter text = true) :
    opens isDigit text = false := by
  cases text with
  | nil => rfl
  | cons c rest =>
    rw [Text.opens_cons] at letter ⊢
    refine Bool.eq_false_iff.mpr fun digit => ?_
    rw [isLetter_of_isDigit digit] at letter
    cases letter

/-- A written number begins with a digit exactly if it is not negative. -/
theorem opens_isDigit_paddedText (width : Nat) (n : Int) (rest : List Char) :
    opens isDigit (paddedText width n ++ rest) = decide (0 ≤ n) := by
  by_cases negative : n < 0
  · rw [paddedText_of_neg negative, List.cons_append, Text.opens_cons, isDigit_minus]
    exact (decide_eq_false (Int.not_le.mpr negative)).symm
  · have nonnegative : 0 ≤ n := Int.not_lt.mp negative
    rw [paddedText_of_nonneg nonnegative, decide_eq_true nonnegative]
    exact Text.opens_run (fun _ => isDigit_of_mem_magnitude) (magnitude_ne_nil width n) rest

/-- No written number begins with a letter. -/
theorem opens_isLetter_paddedText (width : Nat) (n : Int) (rest : List Char) :
    opens isLetter (paddedText width n ++ rest) = false := by
  by_cases negative : n < 0
  · rw [paddedText_of_neg negative, List.cons_append, Text.opens_cons, isLetter_minus]
  · refine Bool.eq_false_iff.mpr fun letter => ?_
    have digit := opens_isDigit_paddedText width n rest
    rw [opens_isDigit_of_isLetter letter] at digit
    exact negative (Int.not_le.mp (of_decide_eq_false digit.symm))

end PeriodText.Numeral
