import PeriodText.Proofs.Text.Composition
import Mathlib.Data.List.Find

/-!
# Small letters

The small letter of a character that decomposes is that of its parts
(`Splits.decompose_smallLetter`). Neither marks nor second parts are capitals, and no small letter is
one, so that a character which is no capital stays as it is.
-/

set_option autoImplicit false

namespace PeriodText.Text

variable {c d : Char} {text : List Char}

/-! ## Small letters -/

/-- The character is no capital. -/
def IsSmall (c : Char) : Prop := capitalBits.testBit c.toNat = false

/-- A capital and its small letter are found in a run. -/
theorem mem_capitalLetters {n m : Nat} : (n, m) ∈ capitalLetters ↔ ∃ run ∈ capitals,
    (run.1 ≤ n ∧ n ≤ run.2.1 ∧ (n - run.1) % run.2.2.1 = 0) ∧ m = (n + run.2.2.2).toNat := by
  rw [capitalLetters, List.mem_flatMap]
  refine exists_congr fun run => and_congr_right fun listed => ?_
  have ordered := of_decide_eq_true (List.all_eq_true.mp capitalTables.ordered run listed)
  obtain ⟨first, last, step, distance⟩ := run
  rw [List.mem_map]
  constructor
  · rintro ⟨i, inside, same⟩
    obtain ⟨rfl, rfl⟩ := Prod.mk.inj same
    have few : i * step ≤ last - first :=
      Nat.mul_le_of_le_div _ _ _ (Nat.le_of_lt_succ (List.mem_range.mp inside))
    dsimp only at ordered ⊢
    refine ⟨⟨Nat.le_add_right _ _, by omega, ?_⟩, rfl⟩
    rw [Nat.add_sub_cancel_left]
    exact Nat.mul_mod_left _ _
  · rintro ⟨⟨least, most, fits⟩, rfl⟩
    have place : first + (n - first) / step * step = n := by
      rw [Nat.div_mul_cancel (Nat.dvd_of_mod_eq_zero fits)]
      exact Nat.add_sub_cancel' least
    refine ⟨(n - first) / step, List.mem_range.mpr ?_, by rw [place]⟩
    exact Nat.lt_succ_of_le (Nat.div_le_div_right (Nat.sub_le_sub_right most first))

/-- The test of a run tests its bounds and its step. -/
theorem inRun_iff {n : Nat} {run : Nat × Nat × Nat × Int} : inRun n run = true ↔
    run.1 ≤ n ∧ n ≤ run.2.1 ∧ (n - run.1) % run.2.2.1 = 0 := by
  rw [inRun, Bool.cond_false_right, Bool.cond_false_right, Bool.and_eq_true, Bool.and_eq_true,
    Nat.ble_eq, Nat.ble_eq, Nat.beq_eq]

/-- A code point is a capital with a small letter, or no capital. -/
theorem smallCode_cases (n : Nat) : (n, smallCode n) ∈ capitalLetters ∨
    smallCode n = n ∧ n ∉ capitalLetters.map (·.1) := by
  rw [smallCode]
  cases found : capitals.find? _ with
  | none =>
    refine .inr ⟨rfl, fun mem => ?_⟩
    obtain ⟨⟨_, m⟩, listed, rfl⟩ := List.mem_map.mp mem
    obtain ⟨run, mem, own, -⟩ := mem_capitalLetters.mp listed
    exact absurd (inRun_iff.mpr own) (List.find?_eq_none.mp found run mem)
  | some run =>
    have own := inRun_iff.mp (List.find?_some found)
    exact .inl (mem_capitalLetters.mpr ⟨run, List.mem_of_find?_eq_some found, own, rfl⟩)

/-- A character is no capital exactly if it is not listed as one. -/
theorem isSmall_iff :
    IsSmall c ↔ c.toNat ≠ 0x130 ∧ c.toNat ∉ capitalLetters.map (·.1) := by
  rw [IsSmall, ← Bool.not_eq_true, capitalBits, testBit_bits, List.mem_cons, not_or]

/-- Only the capital I with a dot above has a rule of its own. -/
theorem smallLetter_eq (plain : c.toNat ≠ 0x130) :
    smallLetter c = [Char.ofNat (smallCode c.toNat)] := by
  have notDotted : c ≠ '\u0130' := by
    rintro rfl
    exact plain rfl
  have search (p : Nat × Nat × Nat × Int → Bool) (same : ∀ run ∈ capitals, p run =
      inRun c.toNat run) : capitals.find? p = capitals.find? (inRun c.toNat) :=
    List.find?_congr same
  rw [smallLetter, if_neg notDotted]
  dsimp only
  rw [search]
  · rw [smallCode]
    cases capitals.find? (inRun c.toNat) with
    | none => simp only [Char.ofNat_toNat]
    | some run => rfl
  · intro run _
    rw [Bool.eq_iff_iff, inRun_iff]
    simp [and_assoc]

/-- What is no capital has no small letter but itself. -/
theorem smallLetter_of_small (small : IsSmall c) : smallLetter c = [c] := by
  obtain ⟨plain, unlisted⟩ := isSmall_iff.mp small
  rcases smallCode_cases c.toNat with listed | ⟨same, -⟩
  · exact absurd (List.mem_map_of_mem listed) unlisted
  · rw [smallLetter_eq plain, same, Char.ofNat_toNat]

/-- What is in lower case is a small letter of a capital, or was no capital. -/
theorem mem_smallLetter (mem : d ∈ smallLetter c) :
    smallBits.testBit d.toNat = true ∨ d = c ∧ IsSmall c := by
  by_cases dotted : c.toNat = 0x130
  · obtain rfl : c = '\u0130' := Char.toNat_inj.mp dotted
    rw [smallLetter, if_pos rfl, List.mem_cons, List.mem_singleton] at mem
    rcases mem with rfl | rfl
    · exact .inl (testBit_bits.mpr (.head _))
    · exact .inl (testBit_bits.mpr (.tail _ (.head _)))
  · rw [smallLetter_eq dotted, List.mem_singleton] at mem
    rcases smallCode_cases c.toNat with listed | ⟨same, unlisted⟩
    · have valid := of_decide_eq_true (List.all_eq_true.mp capitalTables.valid _ listed)
      rw [mem, toNat_ofNat valid]
      exact .inl (testBit_bits.mpr
        (.tail _ (.tail _ (.tail _ (.tail _ (List.mem_map.mpr ⟨_, listed, rfl⟩))))))
    · rw [same, Char.ofNat_toNat] at mem
      exact .inr ⟨mem, isSmall_iff.mpr ⟨dotted, unlisted⟩⟩

/-- Every character has a small letter. -/
theorem smallLetter_ne_nil (c : Char) : smallLetter c ≠ [] := by
  by_cases dotted : c.toNat = 0x130
  · obtain rfl : c = '\u0130' := Char.toNat_inj.mp dotted
    rw [smallLetter, if_pos rfl]
    exact List.cons_ne_nil _ _
  · rw [smallLetter_eq dotted]
    exact List.cons_ne_nil _ _

/-! ## Small letters and parts -/

/-- Second parts, Hangul and marks are no capitals. -/
theorem isSmall_of_apart (mem : (bits (canonicalPairs.map (·.2.2)) ||| hangul.bits |||
    marks.bits).testBit c.toNat = true) : IsSmall c :=
  testBit_of_disjoint capitalTables.apart mem

/-- A second part is no capital. -/
theorem isSmall_second {n first : Nat} (entry : (n, first, c.toNat) ∈ canonicalPairs) :
    IsSmall c := by
  have mem := testBit_bits_map (·.2.2) entry
  refine isSmall_of_apart ?_
  rw [Nat.testBit_or, Nat.testBit_or, mem]
  rfl

/-- Hangul has no capitals. -/
theorem isSmall_hangul (mem : hangul.bits.testBit c.toNat = true) : IsSmall c := by
  refine isSmall_of_apart ?_
  rw [Nat.testBit_or, Nat.testBit_or, mem, Bool.or_true]
  rfl

/-- No mark is a capital. -/
theorem isSmall_of_mark (mark : 0 < combiningClass c) : IsSmall c := by
  refine isSmall_of_apart ?_
  rw [Nat.testBit_or, isMark_of_pos mark, Bool.or_true]

/-- A character of the tables is a capital exactly if its first part is. -/
theorem isSmall_first (entry : (c.toNat, d.toNat) ∈ firstParts) : IsSmall c ↔ IsSmall d := by
  have same := List.all_eq_true.mp capitalTables.firsts _ entry
  rw [beq_iff_eq] at same
  rw [IsSmall, IsSmall, same]

/-- The parts of what is no capital are none. -/
theorem isSmall_parts (small : IsSmall c) (part : d ∈ parts c) : IsSmall d := by
  rcases part_cases part with rfl | letter | first | ⟨n, second⟩
  · exact small
  · exact isSmall_hangul (hangul_of_letter letter)
  · exact (isSmall_first first).mp small
  · exact isSmall_second second

/-- A text without capitals is its own lower case, character by character. -/
theorem flatMap_smallLetter (small : ∀ c ∈ text, IsSmall c) : text.flatMap smallLetter = text := by
  rw [List.flatMap_congr fun c mem => smallLetter_of_small (small c mem), List.flatMap_singleton']

/-- The small letter of a capital with a mark splits into the small letter and the mark. -/
theorem splits_small_pair {first second : Char} (capital : ¬IsSmall c) (plain : c.toNat ≠ 0x130)
    (entry : (c.toNat, first.toNat, second.toNat) ∈ canonicalPairs) :
    first.toNat ≠ 0x130 ∧ Splits (Char.ofNat (smallCode c.toNat))
      [Char.ofNat (smallCode first.toNat), second] := by
  have checked := List.all_eq_true.mp capitalTables.small_pairs _ entry
  simp only [Bool.of_not_eq_false capital, Bool.not_true, Bool.false_or, Bool.or_eq_true,
    Nat.beq_eq, plain, false_or, Bool.and_eq_true, Bool.not_eq_true', ← Bool.not_eq_true,
    decide_eq_true_eq] at checked
  obtain ⟨plainToo, found⟩ := checked
  have listed := Index.mem_of_find?_build found
  have valid := List.all_eq_true.mp decompositionTables.valid_pairs _ listed
  simp only [Bool.and_eq_true, decide_eq_true_eq] at valid
  exact ⟨plainToo, .pair (by rwa [toNat_ofNat valid.1.1, toNat_ofNat valid.1.2])⟩

/-- The small letter of a capital that is another one has the same small letter, or one that splits
into it. -/
theorem splits_small_single {other : Char} (capital : ¬IsSmall c)
    (entry : (c.toNat, other.toNat) ∈ canonicalSingletons) :
    c.toNat ≠ 0x130 ∧ other.toNat ≠ 0x130 ∧ (smallCode c.toNat = smallCode other.toNat ∨
      Splits (Char.ofNat (smallCode c.toNat)) [Char.ofNat (smallCode other.toNat)]) := by
  have checked := List.all_eq_true.mp capitalTables.small_singletons _ entry
  simp only [Bool.of_not_eq_false capital, Bool.not_true, Bool.false_or, Bool.or_eq_true,
    Nat.beq_eq, Bool.and_eq_true, Bool.not_eq_true', ← Bool.not_eq_true, beq_iff_eq,
    List.contains_iff_mem] at checked
  obtain ⟨⟨plain, plainToo⟩, same | listed⟩ := checked
  · exact ⟨plain, plainToo, .inl same⟩
  · have valid := List.all_eq_true.mp decompositionTables.valid_singletons _ listed
    simp only [Bool.and_eq_true, decide_eq_true_eq] at valid
    exact ⟨plain, plainToo, .inr (.single (by rwa [toNat_ofNat valid.1, toNat_ofNat valid.2]))⟩

/-- **The small letter of a character that splits is that of its parts**, up to decomposition. -/
theorem Splits.decompose_smallLetter {ps : List Char} (splits : Splits c ps) :
    decompose (smallLetter c) = decompose (ps.flatMap smallLetter) := by
  by_cases small : IsSmall c
  · have each : ∀ d ∈ ps, IsSmall d := fun d mem => isSmall_parts small (splits.parts_eq ▸ mem)
    rw [smallLetter_of_small small, flatMap_smallLetter each, splits.decompose_singleton]
  cases splits with
  | syllable made =>
    have inside := hangul_of_syllable (hangul_of_syllableParts made).1
    exact absurd (isSmall_hangul inside) small
  | @pair first second entry =>
    by_cases dotted : c.toNat = 0x130
    · obtain rfl : c = '\u0130' := Char.toNat_inj.mp dotted
      have known : parts '\u0130' = ['I', '\u0307'] := by decide +kernel
      have same : smallLetter '\u0130' = ['I', '\u0307'].flatMap smallLetter := by decide +kernel
      rw [← (Splits.pair entry).parts_eq, known, same]
    · obtain ⟨plain, joined⟩ := splits_small_pair small dotted entry
      rw [smallLetter_eq dotted, joined.decompose_singleton, List.flatMap_cons, List.flatMap_cons,
        smallLetter_eq plain, smallLetter_of_small (isSmall_second entry)]
      rfl
  | @single d entry =>
    obtain ⟨dotted, plain, same | other⟩ := splits_small_single small entry
    · rw [List.flatMap_cons, smallLetter_eq dotted, smallLetter_eq plain, same]
      rfl
    · rw [List.flatMap_cons, smallLetter_eq dotted, smallLetter_eq plain, other.decompose_singleton]
      rfl

end PeriodText.Text
