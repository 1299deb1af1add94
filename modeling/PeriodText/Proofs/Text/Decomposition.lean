import PeriodText.Proofs.Text.Tables
import Mathlib.Data.List.Chain
import Mathlib.Data.List.Flatten
import Mathlib.Data.String.Basic

/-!
# Full decomposition

A character is replaced by its parts, and these by theirs, three times in all. No character needs a
fourth time: the parts that a full decomposition ends with are whole (`parts_of_mem_decompose`). So
to decompose is to replace the characters one by one, and it makes no difference whether some of them
have been replaced before (`decompose_split`).
-/

set_option autoImplicit false

namespace PeriodText.Text

/-! ## One step -/

variable {c d : Char} {n : Nat} {ps : List Char} {text : List Char}

/-- The parts of a character: one step of its decomposition. -/
def parts (c : Char) : List Char := (decomposeOnce c.toNat).map Char.ofNat

/-- The character decomposes into the parts. -/
inductive Splits : Char → List Char → Prop
  | syllable {c : Char} {ps : List Char}
    (made : syllableParts c.toNat = some (ps.map Char.toNat)) : Splits c ps
  | pair {c first second : Char}
    (entry : (c.toNat, first.toNat, second.toNat) ∈ canonicalPairs) : Splits c [first, second]
  | single {c other : Char}
    (entry : (c.toNat, other.toNat) ∈ canonicalSingletons) : Splits c [other]

/-- A syllable consists of Hangul letters. -/
theorem hangul_of_syllableParts {ns : List Nat} (made : syllableParts n = some ns) :
    (0xAC00 ≤ n ∧ n ≤ 0xD7A3) ∧ ∀ m ∈ ns, 0x1100 ≤ m ∧ m ≤ 0x11FF := by
  unfold syllableParts at made
  split at made
  · next inside =>
    rw [Bool.and_eq_true, decide_eq_true_iff, decide_eq_true_iff, firstSyllable] at inside
    cases made
    refine ⟨by omega, fun m mem => ?_⟩
    have index : n - firstSyllable < 19 * 588 := by rw [firstSyllable]; omega
    generalize n - firstSyllable = index at *
    simp only [firstLeading, firstVowel, noTrailing] at mem
    split at mem
    · simp only [List.append_nil, List.mem_cons, List.not_mem_nil, or_false] at mem
      omega
    · simp only [List.cons_append, List.nil_append, List.mem_cons, List.not_mem_nil,
        or_false] at mem
      omega
  · cases made

/-- The letters are Hangul. -/
theorem hangul_of_letter (letter : 0x1100 ≤ n ∧ n ≤ 0x11FF) : hangul.bits.testBit n = true :=
  Ranges.testBit_of_mem (.head _) letter

/-- The syllables are Hangul. -/
theorem hangul_of_syllable (syllable : 0xAC00 ≤ n ∧ n ≤ 0xD7A3) : hangul.bits.testBit n = true :=
  Ranges.testBit_of_mem (.tail _ (.head _)) syllable

/-- A syllable consists of something. -/
theorem ne_nil_of_syllableParts {ns : List Nat} (made : syllableParts n = some ns) : ns ≠ [] := by
  rintro rfl
  unfold syllableParts at made
  split at made
  · cases Option.some.inj made
  · cases made

/-- An entry is found at its key. -/
theorem find?_of_ascending {α : Type} {table : List (Nat × α)}
    (ascending : table.IsChain (·.1 < ·.1)) {entry : Nat × α} (mem : entry ∈ table) :
    table.find? (·.1 == entry.1) = some entry := by
  have sorted : table.Pairwise (·.1 < ·.1) := by
    have : IsTrans (Nat × α) (·.1 < ·.1) := ⟨fun _ _ _ => Nat.lt_trans⟩
    exact List.isChain_iff_pairwise.mp ascending
  obtain ⟨before, after, rfl⟩ := List.append_of_mem mem
  rw [List.find?_append, List.find?_cons_of_pos (by simp), List.find?_eq_none.mpr, Option.none_or]
  intro other earlier same
  have less := (List.pairwise_append.mp sorted).2.2 other earlier entry List.mem_cons_self
  exact absurd (beq_iff_eq.mp same) (Nat.ne_of_lt less)

/-- A code point in a table of decomposition is neither below the composites nor Hangul. -/
theorem not_inside_of_mem {first : Nat} (mem : (n, first) ∈ firstParts) {range : Nat × Nat}
    (listed : range ∈ (0, firstComposite - 1) :: hangul) : ¬(range.1 ≤ n ∧ n ≤ range.2) := by
  intro inside
  have outside := testBit_of_disjoint decompositionTables.outside (testBit_bits_map Prod.fst mem)
  rw [Ranges.testBit_of_mem listed inside] at outside
  cases outside

/-- It is large enough to be looked up, and no syllable. -/
theorem not_hangul_of_mem {first : Nat} (mem : (n, first) ∈ firstParts) :
    firstComposite ≤ n ∧ syllableParts n = none := by
  constructor
  · by_contra below
    exact not_inside_of_mem mem (.head _) ⟨Nat.zero_le _, by dsimp only; omega⟩
  · cases made : syllableParts n with
    | none => rfl
    | some ns =>
      have inside := (hangul_of_syllableParts made).1
      exact absurd inside (not_inside_of_mem mem (.tail _ (.tail _ (.head _))))

/-- A syllable decomposes into its letters. -/
theorem decomposeOnce_syllable {ns : List Nat} (made : syllableParts n = some ns) :
    decomposeOnce n = ns := by
  have large : ¬n < firstComposite := by
    have inside := (hangul_of_syllableParts made).1
    rw [firstComposite]
    omega
  rw [decomposeOnce, if_neg large, made]

/-- A pair of the table is what its key decomposes into. -/
theorem decomposeOnce_pair {first second : Nat} (entry : (n, first, second) ∈ canonicalPairs) :
    decomposeOnce n = [first, second] := by
  have listed : (n, first) ∈ firstParts :=
    List.mem_append_left _ (List.mem_map.mpr ⟨_, entry, rfl⟩)
  obtain ⟨large, other⟩ := not_hangul_of_mem listed
  simp only [decomposeOnce, if_neg (Nat.not_lt.mpr large), other,
    find?_of_ascending decompositionTables.ascending_pairs entry]

/-- A singleton of the table is what its key decomposes into. -/
theorem decomposeOnce_single {m : Nat} (entry : (n, m) ∈ canonicalSingletons) :
    decomposeOnce n = [m] := by
  obtain ⟨large, other⟩ := not_hangul_of_mem (List.mem_append_right _ entry)
  have noPair : canonicalPairs.find? (·.1 == n) = none := by
    rw [List.find?_eq_none]
    intro pair mem same
    have both := testBit_of_disjoint decompositionTables.pairs_singletons
      (testBit_bits_map Prod.fst mem)
    rw [beq_iff_eq.mp same, testBit_bits_map Prod.fst entry] at both
    cases both
  simp only [decomposeOnce, if_neg (Nat.not_lt.mpr large), other, noPair,
    find?_of_ascending decompositionTables.ascending_singletons entry]

/-- A code point stands alone, or is a syllable or in one of the tables. -/
theorem decomposeOnce_cases (n : Nat) : decomposeOnce n = [n] ∨
    (∃ ns, syllableParts n = some ns ∧ decomposeOnce n = ns) ∨
    (∃ first second, (n, first, second) ∈ canonicalPairs ∧ decomposeOnce n = [first, second]) ∨
    ∃ m, (n, m) ∈ canonicalSingletons ∧ decomposeOnce n = [m] := by
  unfold decomposeOnce
  split
  · exact .inl rfl
  split
  · next ns made => exact .inr (.inl ⟨ns, made, rfl⟩)
  split
  · next key first second found =>
    have same := List.find?_some found
    obtain rfl : key = n := beq_iff_eq.mp same
    exact .inr (.inr (.inl ⟨first, second, List.mem_of_find?_eq_some found, rfl⟩))
  split
  · next key m found =>
    have same := List.find?_some found
    obtain rfl : key = n := beq_iff_eq.mp same
    exact .inr (.inr (.inr ⟨m, List.mem_of_find?_eq_some found, rfl⟩))
  · exact .inl rfl

/-- The character of a code point has this code point. -/
theorem toNat_ofNat (valid : n.isValidChar) : (Char.ofNat n).toNat = n := by
  rw [Char.ofNat, dif_pos valid]
  rfl

/-- What a character decomposes into are characters. -/
theorem map_toNat_parts (c : Char) : (parts c).map Char.toNat = decomposeOnce c.toNat := by
  have valid {ns : List Nat} (each : ∀ m ∈ ns, m.isValidChar) :
      (ns.map Char.ofNat).map Char.toNat = ns := by
    rw [List.map_map]
    exact (List.map_congr_left fun m mem => toNat_ofNat (each m mem)).trans (List.map_id ns)
  refine valid ?_
  rcases decomposeOnce_cases c.toNat with
    whole | ⟨ns, made, whole⟩ | ⟨first, second, entry, whole⟩ | ⟨m, entry, whole⟩
  · rw [whole]
    exact List.forall_mem_singleton.mpr c.valid
  · rw [whole]
    intro m mem
    have inside := (hangul_of_syllableParts made).2 m mem
    exact .inl (by omega)
  · rw [whole]
    have each := List.all_eq_true.mp decompositionTables.valid_pairs _ entry
    simp only [Bool.and_eq_true, decide_eq_true_eq] at each
    simpa using ⟨each.1.2, each.2⟩
  · rw [whole]
    have each := List.all_eq_true.mp decompositionTables.valid_singletons _ entry
    simp only [Bool.and_eq_true, decide_eq_true_eq] at each
    simpa using each.2

/-- Characters are told by their code points. -/
theorem map_toNat_inj {text other : List Char} :
    text.map Char.toNat = other.map Char.toNat ↔ text = other :=
  (List.map_injective_iff.mpr fun _ _ => Char.toNat_inj.mp).eq_iff

/-- What a character splits into are its parts. -/
theorem Splits.parts_eq (splits : Splits c ps) : parts c = ps := by
  rw [← map_toNat_inj, map_toNat_parts]
  cases splits with
  | syllable made => exact decomposeOnce_syllable made
  | pair entry => exact decomposeOnce_pair entry
  | single entry => exact decomposeOnce_single entry

/-- A character has no other parts, or it splits. -/
theorem parts_cases (c : Char) : parts c = [c] ∨ Splits c (parts c) := by
  have same := map_toNat_parts c
  rcases decomposeOnce_cases c.toNat with
    whole | ⟨ns, made, whole⟩ | ⟨first, second, entry, whole⟩ | ⟨m, entry, whole⟩
  · exact .inl (map_toNat_inj.mp (same.trans whole))
  · exact .inr (.syllable (by rw [same, whole, made]))
  · obtain ⟨f, rest, split, rfl, tail⟩ := List.map_eq_cons_iff.mp (same.trans whole)
    obtain ⟨s, rfl, rfl⟩ := List.map_eq_singleton_iff.mp tail
    rw [split]
    exact .inr (.pair entry)
  · obtain ⟨d, split, rfl⟩ := List.map_eq_singleton_iff.mp (same.trans whole)
    rw [split]
    exact .inr (.single entry)

/-- A character that splits is a syllable or in the tables. -/
theorem Splits.listed (splits : Splits c ps) :
    (∃ ns, syllableParts c.toNat = some ns) ∨ ∃ first, (c.toNat, first) ∈ firstParts := by
  cases splits with
  | syllable made => exact .inl ⟨_, made⟩
  | pair entry => exact .inr ⟨_, List.mem_append_left _ (List.mem_map.mpr ⟨_, entry, rfl⟩)⟩
  | single entry => exact .inr ⟨_, List.mem_append_right _ entry⟩

/-- A character that is neither in the tables nor a syllable has no other parts. -/
theorem parts_of_not_composite (plain : composites.testBit c.toNat = false) : parts c = [c] := by
  refine (parts_cases c).resolve_right fun splits => ?_
  rw [composites, Nat.testBit_or, Bool.or_eq_false_iff] at plain
  obtain ⟨unlisted, noSyllable⟩ := plain
  rcases splits.listed with ⟨ns, made⟩ | ⟨first, mem⟩
  · rw [Ranges.testBit_of_mem (.head _) (hangul_of_syllableParts made).1] at noSyllable
    cases noSyllable
  · rw [testBit_bits_map Prod.fst mem] at unlisted
    cases unlisted

/-- The letters that syllables are made of have no other parts. -/
theorem parts_of_hangul (letter : 0x1100 ≤ c.toNat ∧ c.toNat ≤ 0x11FF) : parts c = [c] := by
  refine (parts_cases c).resolve_right fun splits => ?_
  rcases splits.listed with ⟨ns, made⟩ | ⟨first, mem⟩
  · have inside := (hangul_of_syllableParts made).1
    omega
  · exact absurd letter (not_inside_of_mem mem (.tail _ (.head _)))

/-- The second part of a pair has no other parts. -/
theorem parts_second {first : Nat} (entry : (n, first, c.toNat) ∈ canonicalPairs) :
    parts c = [c] := by
  have mem := testBit_bits_map (·.2.2) entry
  exact parts_of_not_composite (testBit_of_disjoint decompositionTables.whole_seconds mem)

/-- The parts of a character are what its code point decomposes into. -/
theorem toNat_mem_decomposeOnce (part : d ∈ parts c) : d.toNat ∈ decomposeOnce c.toNat := by
  rw [← map_toNat_parts]
  exact List.mem_map_of_mem part

/-- A part is the character itself, a Hangul letter, or a first or a second part of the tables. -/
theorem part_cases (part : d ∈ parts c) : d = c ∨ (0x1100 ≤ d.toNat ∧ d.toNat ≤ 0x11FF) ∨
    (c.toNat, d.toNat) ∈ firstParts ∨ ∃ first, (c.toNat, first, d.toNat) ∈ canonicalPairs := by
  rcases parts_cases c with whole | splits
  · rw [whole] at part
    exact .inl (List.mem_singleton.mp part)
  · have code := toNat_mem_decomposeOnce part
    rcases splits.listed with ⟨ns, made⟩ | ⟨first, mem⟩
    · rw [decomposeOnce_syllable made] at code
      exact .inr (.inl ((hangul_of_syllableParts made).2 _ code))
    refine .inr (.inr ?_)
    rcases List.mem_append.mp mem with pair | single
    · obtain ⟨⟨n, f, second⟩, entry, same⟩ := List.mem_map.mp pair
      cases same
      rw [decomposeOnce_pair entry, List.mem_cons, List.mem_singleton] at code
      rcases code with rfl | rfl
      · exact .inl mem
      · exact .inr ⟨_, entry⟩
    · rw [decomposeOnce_single single, List.mem_singleton] at code
      exact .inl (code ▸ mem)

/-! ## Three steps -/

/-- The characters of a text replaced by their parts. -/
def split (text : List Char) : List Char := text.flatMap parts

theorem split_append (text other : List Char) : split (text ++ other) = split text ++ split other :=
  List.flatMap_append

theorem split_cons (c : Char) (text : List Char) : split (c :: text) = parts c ++ split text :=
  List.flatMap_cons

/-- A text of whole characters is not changed. -/
theorem split_of_whole (whole : ∀ c ∈ text, parts c = [c]) : split text = text := by
  rw [split, List.flatMap_congr whole, List.flatMap_singleton']

/-- To decompose is to replace characters by their parts three times. -/
theorem decompose_eq (text : List Char) : decompose text = split (split (split text)) := by
  have once (text : List Char) :
      (text.map Char.toNat).flatMap decomposeOnce = (split text).map Char.toNat := by
    rw [List.flatMap_map, split, List.map_flatMap]
    exact List.flatMap_congr fun c _ => (map_toNat_parts c).symm
  have back (text : List Char) : (text.map Char.toNat).map Char.ofNat = text := by
    rw [List.map_map]
    exact List.map_id'' Char.ofNat_toNat text
  rw [decompose]
  simp only [once, back]

/-- The parts of the character are whole after so many steps. -/
def Settles : Nat → Char → Prop
  | 0, c => parts c = [c]
  | steps + 1, c => ∀ d ∈ parts c, Settles steps d

/-- A whole character is so after any number of steps. -/
theorem settles_of_whole (whole : parts c = [c]) (steps : Nat) : Settles steps c := by
  induction steps with
  | zero => exact whole
  | succ steps ih =>
    intro d mem
    rw [whole, List.mem_singleton] at mem
    rwa [mem]

/-- One more step changes nothing. -/
theorem Settles.succ {steps : Nat} (settles : Settles steps c) : Settles (steps + 1) c := by
  induction steps generalizing c with
  | zero => exact settles_of_whole settles 1
  | succ steps ih => exact fun d mem => ih (settles d mem)

/-- A character in the tables takes one step more than its first part. -/
theorem settles_of_decomposeTo {given steps : Nat}
    (before : ∀ d : Char, given.testBit d.toNat = true → Settles steps d)
    (mem : (decomposeTo given).testBit c.toNat = true) : Settles (steps + 1) c := by
  obtain ⟨⟨n, first⟩, kept, rfl : n = c.toNat⟩ := List.mem_map.mp (testBit_bits.mp mem)
  obtain ⟨listed, either⟩ := List.mem_filter.mp kept
  simp only [Bool.or_eq_true, Bool.not_eq_true'] at either
  intro d part
  have settled (same : d.toNat = first) : Settles steps d := by
    rw [← same] at either
    rcases either with plain | earlier
    · exact settles_of_whole (parts_of_not_composite plain) steps
    · exact before d earlier
  have code := toNat_mem_decomposeOnce part
  rcases List.mem_append.mp listed with pair | single
  · obtain ⟨⟨n, f, second⟩, entry, same⟩ := List.mem_map.mp pair
    cases same
    rw [decomposeOnce_pair entry, List.mem_cons, List.mem_singleton] at code
    rcases code with same | same
    · exact settled same
    · rw [← same] at entry
      exact settles_of_whole (parts_second entry) steps
  · rw [decomposeOnce_single single, List.mem_singleton] at code
    exact settled code

/-- **Three steps suffice.** -/
theorem settles_three (c : Char) : Settles 3 c := by
  have none (d : Char) (mem : (0 : Nat).testBit d.toNat = true) : Settles 0 d := by
    simp at mem
  rcases parts_cases c with whole | splits
  · exact settles_of_whole whole 3
  · rcases splits.listed with ⟨ns, made⟩ | ⟨first, mem⟩
    · intro d part
      have code := toNat_mem_decomposeOnce part
      rw [decomposeOnce_syllable made] at code
      exact settles_of_whole (parts_of_hangul ((hangul_of_syllableParts made).2 _ code)) 2
    · have key := testBit_bits_map Prod.fst mem
      rw [← decompositionTables.depth_firsts] at key
      exact settles_of_decomposeTo (fun _ => settles_of_decomposeTo fun _ =>
        settles_of_decomposeTo none) key

/-- What has been decomposed for one step takes one step less. -/
theorem settles_of_mem_split {steps : Nat} (before : ∀ c ∈ text, Settles (steps + 1) c)
    (mem : d ∈ split text) : Settles steps d := by
  obtain ⟨c, listed, part⟩ := List.mem_flatMap.mp mem
  exact before c listed d part

/-- **A full decomposition consists of whole characters.** -/
theorem parts_of_mem_decompose (mem : d ∈ decompose text) : parts d = [d] := by
  rw [decompose_eq] at mem
  exact settles_of_mem_split (fun _ => settles_of_mem_split fun _ => settles_of_mem_split
    fun c _ => settles_three c) mem

/-- It makes no difference whether a step has been done before. -/
theorem decompose_split (text : List Char) : decompose (split text) = decompose text := by
  rw [decompose_eq, ← decompose_eq text]
  exact split_of_whole fun _ => parts_of_mem_decompose

/-- What splits is decomposed as its parts are. -/
theorem Splits.decompose_singleton (splits : Splits c ps) :
    decompose [c] = decompose ps := by
  rw [← decompose_split, split_cons, splits.parts_eq]
  exact congrArg decompose (List.append_nil ps)

/-- Texts are decomposed one after another. -/
theorem decompose_append (text other : List Char) :
    decompose (text ++ other) = decompose text ++ decompose other := by
  simp only [decompose_eq, split_append]

/-- Whole characters stay. -/
theorem decompose_of_whole (whole : ∀ c ∈ text, parts c = [c]) : decompose text = text := by
  rw [decompose_eq, split_of_whole whole, split_of_whole whole, split_of_whole whole]

end PeriodText.Text
