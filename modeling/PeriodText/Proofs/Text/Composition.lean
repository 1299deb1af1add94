import PeriodText.Proofs.Text.Marks

/-!
# Composition

A base is joined with a later character only if no mark of the same class or a higher one stands
between them, so that the character could as well stand next to the base, and the two are what the
joined character decomposes into. So composition keeps the canonical form (`canonical_compose`), and
texts are composed alike exactly if they are canonically equivalent (`compose_eq_iff`).
-/

set_option autoImplicit false

namespace PeriodText.Text

variable {base c joined : Char} {text other marks rest : List Char} {last : Nat}

/-! ## Pairs that join -/

/-- The base and the next character join. -/
inductive Joins : Char → Char → Char → Prop
  | syllable {base c joined : Char}
    (made : joinSyllable base.toNat c.toNat = some joined.toNat) : Joins base c joined
  | pair {base c joined : Char}
    (entry : (joined.toNat, base.toNat, c.toNat) ∈ canonicalPairs)
    (kept : joined.toNat ∉ compositionExclusions) : Joins base c joined

/-- The letters of a syllable are its numbers in mixed radix. -/
theorem syllableParts_eq {l v t : Nat} (leading : l < 19) (vowel : v < 21) (trailing : t < 28) :
    syllableParts (firstSyllable + ((l * 21 + v) * 28 + t)) =
      some ([firstLeading + l, firstVowel + v] ++ if t = 0 then [] else [noTrailing + t]) := by
  have inside : (l * 21 + v) * 28 + t < 19 * 588 := by omega
  have index : firstSyllable + ((l * 21 + v) * 28 + t) - firstSyllable = (l * 21 + v) * 28 + t :=
    Nat.add_sub_cancel_left _ _
  have first : ((l * 21 + v) * 28 + t) / 588 = l := by omega
  have second : ((l * 21 + v) * 28 + t) % 588 / 28 = v := by omega
  have third : ((l * 21 + v) * 28 + t) % 28 = t := by omega
  rw [syllableParts, if_pos]
  · simp only [index, first, second, third]
  · rw [Bool.and_eq_true, decide_eq_true_iff, decide_eq_true_iff]
    exact ⟨Nat.le_add_right _ _, Nat.add_lt_add_left inside _⟩

/-- Two Hangul parts join into the syllable that consists of them, or of the letters of the first
and of the second. -/
theorem syllableParts_of_join {first second n : Nat} (made : joinSyllable first second = some n) :
    ((0x1100 ≤ first ∧ first ≤ 0x11FF) ∧ (0x1100 ≤ second ∧ second ≤ 0x11FF) ∧
        syllableParts n = some [first, second]) ∨
      ∃ leading vowel, syllableParts first = some [leading, vowel] ∧
        (0x1100 ≤ second ∧ second ≤ 0x11FF) ∧ syllableParts n = some [leading, vowel, second] := by
  unfold joinSyllable at made
  split at made
  · next inside =>
    simp only [Bool.and_eq_true, decide_eq_true_eq] at inside
    obtain ⟨⟨⟨least, most⟩, leastToo⟩, mostToo⟩ := inside
    rw [← Option.some.inj made]
    have parts := syllableParts_eq (l := first - firstLeading) (v := second - firstVowel) (t := 0)
      (by omega) (by omega) (by omega)
    rw [Nat.add_sub_cancel' least, Nat.add_sub_cancel' leastToo, if_pos rfl, List.append_nil,
      Nat.add_zero] at parts
    rw [firstLeading] at least most
    rw [firstVowel] at leastToo mostToo
    exact .inl ⟨by omega, by omega, parts⟩
  split at made
  · next inside =>
    simp only [Bool.and_eq_true, decide_eq_true_eq] at inside
    obtain ⟨⟨⟨⟨least, most⟩, open'⟩, leastToo⟩, mostToo⟩ := inside
    rw [← Option.some.inj made]
    obtain ⟨k, rfl⟩ := Nat.exists_eq_add_of_le least
    rw [Nat.add_sub_cancel_left] at open'
    have number : (k / 28 / 21 * 21 + k / 28 % 21) * 28 = k := by omega
    have pair := syllableParts_eq (l := k / 28 / 21) (v := k / 28 % 21) (t := 0)
      (by omega) (by omega) (by omega)
    have triple := syllableParts_eq (l := k / 28 / 21) (v := k / 28 % 21) (t := second - noTrailing)
      (by omega) (by omega) (by omega)
    rw [number, if_pos rfl, List.append_nil, Nat.add_zero] at pair
    rw [number, if_neg (by omega), Nat.add_sub_cancel' (Nat.le_of_lt leastToo), ← Nat.add_assoc,
      List.cons_append, List.cons_append, List.nil_append] at triple
    rw [noTrailing] at leastToo mostToo
    exact .inr ⟨_, _, pair, by omega, triple⟩
  · cases made

/-- What two Hangul parts join into is a syllable. -/
theorem syllable_of_join {first second n : Nat} (made : joinSyllable first second = some n) :
    0xAC00 ≤ n ∧ n ≤ 0xD7A3 := by
  rcases syllableParts_of_join made with ⟨-, -, whole⟩ | ⟨_, _, -, -, whole⟩
  · exact (hangul_of_syllableParts whole).1
  · exact (hangul_of_syllableParts whole).1

/-- Both parts are Hangul, and what they join into is. -/
theorem hangul_of_join {first second n : Nat} (made : joinSyllable first second = some n) :
    hangul.bits.testBit first = true ∧ hangul.bits.testBit second = true ∧
      hangul.bits.testBit n = true := by
  have whole := hangul_of_syllable (syllable_of_join made)
  rcases syllableParts_of_join made with ⟨front, back, -⟩ | ⟨_, _, front, back, -⟩
  · exact ⟨hangul_of_letter front, hangul_of_letter back, whole⟩
  · exact ⟨hangul_of_syllable (hangul_of_syllableParts front).1, hangul_of_letter back, whole⟩

/-- What is joined are a base and a character that join. -/
theorem joins_of_composePair (found : composePair base c = some joined) : Joins base c joined := by
  unfold composePair at found
  split at found
  · cases found
  split at found
  · next n made =>
    have inside := syllable_of_join made
    have valid : n.isValidChar := .inl (by omega)
    obtain rfl := Option.some.inj found
    exact .syllable (by rw [toNat_ofNat valid, made])
  split at found
  · next n first second entry =>
    have listed := List.mem_of_find?_eq_some entry
    have own := List.find?_some entry
    have valid := List.all_eq_true.mp decompositionTables.valid_pairs _ listed
    simp only [Bool.and_eq_true, beq_iff_eq, Bool.not_eq_true', decide_eq_true_eq] at own valid
    obtain ⟨⟨rfl, rfl⟩, kept⟩ := own
    obtain rfl := Option.some.inj found
    refine .pair ?_ ?_
    · rwa [toNat_ofNat valid.1.1]
    · rw [toNat_ofNat valid.1.1]
      simpa using kept
  · cases found

/-- **The joined character decomposes into the base and the character.** -/
theorem Joins.decompose_eq (joins : Joins base c joined) :
    decompose [joined] = decompose [base, c] := by
  cases joins with
  | syllable made =>
    rcases syllableParts_of_join made with ⟨-, -, whole⟩ | ⟨leading, vowel, first, letter, whole⟩
    · exact Splits.decompose_singleton (.syllable whole)
    · -- The first of the two is a syllable itself, of two letters.
      have parts : parts joined = parts base ++ [c] := by
        rw [← map_toNat_inj, List.map_append, map_toNat_parts, map_toNat_parts,
          decomposeOnce_syllable first, decomposeOnce_syllable whole]
        rfl
      rw [← decompose_split, ← decompose_split [base, c], split_cons, split_cons, split_cons, parts,
        parts_of_hangul letter, List.append_assoc]
  | pair entry kept => exact Splits.decompose_singleton (.pair entry)

/-! ## Composition -/

/-- A mark may be moved past marks of smaller classes. -/
theorem sortMarks_move (below : ∀ m ∈ marks, 0 < combiningClass m ∧
    combiningClass m < combiningClass c) (rest : List Char) :
    sortMarks (c :: marks ++ rest) = sortMarks (marks ++ c :: rest) := by
  induction marks with
  | nil => rfl
  | cons m marks ih =>
    obtain ⟨⟨mark, less⟩, others⟩ := List.forall_mem_cons.mp below
    have swap := sortMarks_swap (Nat.lt_trans mark less) mark (Nat.ne_of_gt less) [] (marks ++ rest)
    calc sortMarks (c :: m :: marks ++ rest)
        = sortMarks (m :: (c :: marks ++ rest)) := swap
      _ = insertMark m (sortMarks (marks ++ c :: rest)) := by rw [sortMarks, ih others]

/-- What the composition from a base on is in the middle of: whole characters, of which the marks
that stayed apart have classes up to the last one, and the rest are in order after it. -/
structure Pending (marks : List Char) (last : Nat) (rest : List Char) : Prop where
  whole : ∀ c ∈ marks ++ rest, parts c = [c]
  ranks : ∀ m ∈ marks, 0 < combiningClass m ∧ combiningClass m ≤ last
  next : ∀ c ∈ rest.head?, combiningClass c = 0 ∨ last ≤ combiningClass c
  sorted : Sorted rest

namespace Pending

/-- It is so at the beginning, and after every base. -/
theorem start (whole : ∀ c ∈ rest, parts c = [c]) (sorted : Sorted rest) : Pending [] 0 rest where
  whole := whole
  ranks := List.forall_mem_nil _
  next _ _ := .inr (Nat.zero_le _)
  sorted := sorted

/-- It is so for the rest after a base. -/
theorem starter (pending : Pending marks last (c :: rest)) : Pending [] 0 rest :=
  .start (fun d mem => pending.whole d (List.mem_append_right _ (.tail _ mem)))
    (List.isChain_cons.mp pending.sorted).2

/-- It is so after a character has been joined that nothing blocked. -/
theorem join (pending : Pending marks last (c :: rest))
    (free : last = 0 ∨ last < combiningClass c) : Pending marks last rest where
  whole d mem := by
    refine pending.whole d ?_
    rcases List.mem_append.mp mem with mark | later
    · exact List.mem_append_left _ mark
    · exact List.mem_append_right _ (.tail _ later)
  ranks := pending.ranks
  next d mem := by
    have rank := (List.isChain_cons.mp pending.sorted).1 d mem
    omega
  sorted := (List.isChain_cons.mp pending.sorted).2

/-- It is so after a mark has stayed apart. -/
theorem keep (pending : Pending marks last (c :: rest)) (mark : combiningClass c ≠ 0) :
    Pending (marks ++ [c]) (combiningClass c) rest where
  whole d mem := by
    rw [List.append_assoc] at mem
    exact pending.whole d mem
  ranks m mem := by
    have own := pending.next c rfl
    rcases List.mem_append.mp mem with mem | mem
    · have rank := pending.ranks m mem
      omega
    · rw [List.mem_singleton.mp mem]
      omega
  next := (List.isChain_cons.mp pending.sorted).1
  sorted := (List.isChain_cons.mp pending.sorted).2

/-- A character that nothing blocks might as well stand in front of the marks. -/
theorem canonical_move (pending : Pending marks last (c :: rest))
    (free : last = 0 ∨ last < combiningClass c) :
    canonical (c :: marks ++ rest) = canonical (marks ++ c :: rest) := by
  have below : ∀ m ∈ marks, 0 < combiningClass m ∧ combiningClass m < combiningClass c := by
    intro m mem
    have rank := pending.ranks m mem
    omega
  have whole : ∀ d ∈ c :: marks ++ rest, parts d = [d] := fun d mem =>
    pending.whole d (List.perm_middle.mem_iff.mpr mem)
  rw [canonical_of_whole whole, canonical_of_whole pending.whole, sortMarks_move below]

end Pending

/-- The composition of a canonical form. -/
def composeAll : List Char → List Char
  | [] => []
  | c :: rest => composeFrom c [] 0 rest

/-- To compose is to compose the canonical form. -/
theorem compose_eq (text : List Char) : compose text = composeAll (canonical text) := by
  rw [compose, ← canonical]
  cases canonical text <;> rfl

/-- **What follows a base is composed with it so that the canonical form stays.** -/
theorem canonical_composeFrom (pending : Pending marks last rest) :
    canonical (composeFrom base marks last rest) = canonical (base :: marks ++ rest) := by
  induction rest generalizing base marks last with
  | nil => rw [composeFrom, List.append_nil]
  | cons c rest ih =>
    rw [composeFrom]
    split
    · next joined found =>
      split at found
      · next free =>
        rw [Bool.or_eq_true, decide_eq_true_iff, decide_eq_true_iff] at free
        calc canonical (composeFrom joined marks last rest)
            = canonical ([joined] ++ (marks ++ rest)) := ih (pending.join free)
          _ = canonical ([base, c] ++ (marks ++ rest)) := by
            rw [canonical, canonical, decompose_append [joined], decompose_append [base, c],
              (joins_of_composePair found).decompose_eq]
          _ = canonical ([base] ++ (c :: marks ++ rest)) := rfl
          _ = canonical ([base] ++ (marks ++ c :: rest)) :=
            canonical_append_congr [base] (pending.canonical_move free)
      · cases found
    split
    · exact canonical_append_congr (base :: marks) (ih pending.starter)
    · next mark =>
      rw [ih (pending.keep mark), List.cons_append, List.append_assoc]
      rfl

/-- **Composition keeps the canonical form.** -/
theorem canonical_compose (text : List Char) : canonical (compose text) = canonical text := by
  have same := canonical_canonical text
  have whole : ∀ c ∈ canonical text, parts c = [c] := fun _ => parts_of_mem_canonical
  have sorted : Sorted (canonical text) := sorted_sortMarks _
  rw [compose_eq]
  cases form : canonical text with
  | nil => rfl
  | cons c rest =>
    rw [form] at same whole sorted
    exact (canonical_composeFrom (.start (fun d mem => whole d (.tail _ mem))
      (List.isChain_cons.mp sorted).2)).trans same

/-- **Texts are composed alike exactly if they are canonically equivalent.** -/
theorem compose_eq_iff : compose text = compose other ↔ canonical text = canonical other := by
  constructor
  · intro same
    rw [← canonical_compose, same, canonical_compose]
  · intro same
    rw [compose_eq, compose_eq, same]

/-- A composed text stays as it is. -/
theorem compose_compose (text : List Char) : compose (compose text) = compose text :=
  compose_eq_iff.mpr (canonical_compose text)

/-! ## Properties of characters -/

/-- What holds of a base, of its marks and of what follows, and of what joins from such characters,
holds of what they are composed into. -/
theorem forall_mem_composeFrom {p : Char → Prop}
    (join : ∀ base c joined, Joins base c joined → p base → p c → p joined)
    (own : p base) (kept : ∀ m ∈ marks, p m) (later : ∀ c ∈ rest, p c) :
    ∀ c ∈ composeFrom base marks last rest, p c := by
  induction rest generalizing base marks last with
  | nil => exact List.forall_mem_cons.mpr ⟨own, kept⟩
  | cons c rest ih =>
    obtain ⟨here, later⟩ := List.forall_mem_cons.mp later
    rw [composeFrom]
    split
    · next joined found =>
      split at found
      · exact ih (join _ _ _ (joins_of_composePair found) own here) kept later
      · cases found
    split
    · exact List.forall_mem_append.mpr
        ⟨List.forall_mem_cons.mpr ⟨own, kept⟩, ih here (List.forall_mem_nil _) later⟩
    · exact ih own (List.forall_mem_append.mpr ⟨kept, List.forall_mem_singleton.mpr here⟩) later

/-- What holds of the characters of the canonical form, and of what they join into, holds of those
of the composed text. -/
theorem forall_mem_compose {p : Char → Prop}
    (join : ∀ base c joined, Joins base c joined → p base → p c → p joined)
    (each : ∀ c ∈ canonical text, p c) : ∀ c ∈ compose text, p c := by
  rw [compose_eq]
  cases form : canonical text with
  | nil => exact List.forall_mem_nil _
  | cons c rest =>
    rw [form] at each
    obtain ⟨own, later⟩ := List.forall_mem_cons.mp each
    exact forall_mem_composeFrom join own (List.forall_mem_nil _) later

end PeriodText.Text
