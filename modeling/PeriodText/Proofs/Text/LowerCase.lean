import PeriodText.Proofs.Text.SmallLetter

/-!
# Lower case and canonical forms

Lower case keeps canonical equivalence (`canonical_lower`): the small letter of a character that
decomposes is that of its parts, no mark is a capital, and whether a sigma stands at the end of a
word is not changed by either step. What is composed from lower case has no capitals
(`lower_compose_lower`). But it need not be what was composed from the capitals, since there are
small letters that compose with a mark although the capital does not.
-/

set_option autoImplicit false

namespace PeriodText.Text

variable {c d : Char} {before other text rest : List Char}

/-! ## Where a sigma stands -/

/-- What is no capital is no capital sigma. -/
theorem ne_sigma_of_isSmall (small : IsSmall c) : c ≠ '\u03A3' := by
  rintro rfl
  cases small.symm.trans casingTables.sigma_capital

/-- The casing of the first character that casing does not pass over. -/
def caseOfText (text : List Char) : Option Casing := text.findSome? fun c => caseOf c.toNat

/-- A text meets a character with a case if the first one that counts has one. -/
theorem meetsCased_eq (text : List Char) :
    meetsCased text = decide (caseOfText text = some .cased) := by
  induction text with
  | nil => rfl
  | cons c text ih =>
    rw [meetsCased, List.dropWhile_cons, caseOfText, List.findSome?_cons, caseOf,
      Ranges.testBit_bits, Ranges.testBit_bits, ← isCaseIgnorable, ← isCased]
    cases isCaseIgnorable c with
    | true => exact ih
    | false => cases own : isCased c <;> simp [own]

theorem caseOfText_append (text other : List Char) :
    caseOfText (text ++ other) = (caseOfText text).or (caseOfText other) :=
  List.findSome?_append

theorem caseOfText_cons (c : Char) (text : List Char) :
    caseOfText (c :: text) = (caseOf c.toNat).or (caseOfText text) := by
  rw [caseOfText, List.findSome?_cons]
  cases caseOf c.toNat <;> rfl

/-- Hangul has no case. -/
theorem caseOf_of_hangul {n : Nat} (mem : hangul.bits.testBit n = true) :
    caseOf n = some .uncased := by
  have none := testBit_of_disjoint casingTables.hangul_apart mem
  rw [Nat.testBit_or, Bool.or_eq_false_iff] at none
  rw [caseOf, none.1, none.2]
  rfl

/-- No mark has a case. -/
theorem caseOf_of_mark (mark : 0 < combiningClass c) : caseOf c.toNat ≠ some .cased := by
  rw [caseOf, testBit_of_disjoint casingTables.marks_apart (isMark_of_pos mark)]
  split <;> nofun

/-- A text that begins with Hangul meets no case. -/
theorem caseOfText_of_hangul (given : text ≠ [])
    (each : ∀ c ∈ text, hangul.bits.testBit c.toNat = true) : caseOfText text = some .uncased := by
  cases text with
  | nil => exact absurd rfl given
  | cons c rest =>
    rw [caseOfText_cons, caseOf_of_hangul (each c List.mem_cons_self)]
    rfl

/-- The parts of a character are together what it is, from either side. -/
theorem caseOfText_parts (c : Char) :
    caseOfText (parts c) = caseOf c.toNat ∧ caseOfText (parts c).reverse = caseOf c.toNat := by
  have single (d : Char) : caseOfText [d] = caseOf d.toNat := by
    rw [caseOfText_cons]
    exact Option.or_none
  rcases parts_cases c with whole | splits
  · rw [whole]
    exact ⟨single c, single c⟩
  · generalize parts c = ps at splits
    cases splits with
    | syllable made =>
      obtain ⟨inside, letters⟩ := hangul_of_syllableParts made
      have each : ∀ d ∈ ps, hangul.bits.testBit d.toNat = true := fun d mem =>
        hangul_of_letter (letters _ (List.mem_map_of_mem mem))
      have given : ps ≠ [] := by
        rintro rfl
        exact ne_nil_of_syllableParts made rfl
      rw [caseOf_of_hangul (hangul_of_syllable inside)]
      exact ⟨caseOfText_of_hangul given each, caseOfText_of_hangul
        (mt List.reverse_eq_nil_iff.mp given) fun d mem => each d (List.mem_reverse.mp mem)⟩
    | @pair first second entry =>
      have same := List.all_eq_true.mp casingTables.pairs _ entry
      simp only [Bool.and_eq_true, beq_iff_eq] at same
      rw [List.reverse_cons, List.reverse_singleton, caseOfText_cons, single, caseOfText_append,
        single, single]
      exact ⟨same.1.symm, same.2.symm⟩
    | @single other entry =>
      have same := List.all_eq_true.mp casingTables.singletons _ entry
      rw [List.reverse_singleton, single, beq_iff_eq.mp same]
      exact ⟨rfl, rfl⟩

/-- A text meets the same case if its characters are replaced by their parts. -/
theorem caseOfText_split (text : List Char) : caseOfText (split text) = caseOfText text := by
  induction text with
  | nil => rfl
  | cons c text ih =>
    rw [split_cons, caseOfText_append, caseOfText_cons, (caseOfText_parts c).1, ih]

/-- Of two characters without case it makes no difference which one comes first. -/
theorem or_left_comm_of_ne {a b : Option Casing} (first : a ≠ some .cased) (second : b ≠ some .cased)
    (rest : Option Casing) : a.or (b.or rest) = b.or (a.or rest) := by
  rcases a with _ | _ | _ <;> rcases b with _ | _ | _ <;> first | rfl | contradiction

/-- It makes no difference where a mark stands among marks. -/
theorem caseOfText_insertMark (c : Char) (text : List Char) :
    caseOfText (insertMark c text) = caseOfText (c :: text) := by
  induction text with
  | nil => rfl
  | cons d rest ih =>
    rw [insertMark_cons]
    split
    · next below =>
      have first := caseOf_of_mark below.1
      have second := caseOf_of_mark (Nat.lt_trans below.1 below.2)
      rw [caseOfText_cons, ih, caseOfText_cons, caseOfText_cons, caseOfText_cons]
      exact or_left_comm_of_ne first second _
    · rfl

theorem caseOfText_sortMarks (text : List Char) :
    caseOfText (sortMarks text) = caseOfText text := by
  induction text with
  | nil => rfl
  | cons c rest ih => rw [sortMarks, caseOfText_insertMark, caseOfText_cons, caseOfText_cons, ih]

/-! ## Lower case of texts -/

/-- What precedes a text matters only by whether it ends with a case. -/
theorem lowerAfter_congr (same : meetsCased before = meetsCased other) (text : List Char) :
    lowerAfter before text = lowerAfter other text := by
  induction text generalizing before other with
  | nil => rfl
  | cons c rest ih =>
    have next : meetsCased (c :: before) = meetsCased (c :: other) := by
      rw [meetsCased_eq, meetsCased_eq] at same
      rw [meetsCased_eq, meetsCased_eq, caseOfText_cons, caseOfText_cons]
      cases caseOf c.toNat with
      | none => exact same
      | some _ => rfl
    rw [lowerAfter, lowerAfter, same, ih next]

/-- Every letter but the sigma has its own small letter. -/
theorem lowerAfter_cons (plain : c ≠ '\u03A3') (before rest : List Char) :
    lowerAfter before (c :: rest) = smallLetter c ++ lowerAfter (c :: before) rest := by
  rw [lowerAfter, if_neg plain]

/-- A text without a sigma has the small letters of its characters. -/
theorem lowerAfter_append (plain : '\u03A3' ∉ text) (before rest : List Char) :
    lowerAfter before (text ++ rest) =
      text.flatMap smallLetter ++ lowerAfter (text.reverse ++ before) rest := by
  induction text generalizing before with
  | nil => rfl
  | cons c text ih =>
    rw [List.mem_cons, not_or] at plain
    rw [List.cons_append, lowerAfter_cons (Ne.symm plain.1), ih plain.2, List.flatMap_cons,
      List.reverse_cons, List.append_assoc, List.append_assoc, List.singleton_append]

/-- No sigma is the part of another character. -/
theorem sigma_not_mem_parts (changed : parts c ≠ [c]) : c ≠ '\u03A3' ∧ '\u03A3' ∉ parts c := by
  have own : parts '\u03A3' = ['\u03A3'] := parts_of_not_composite casingTables.sigma_whole
  have plain : c ≠ '\u03A3' := by
    rintro rfl
    exact changed own
  refine ⟨plain, fun part => ?_⟩
  rcases part_cases part with same | letter | first | ⟨n, second⟩
  · exact plain same.symm
  · exact absurd letter (by decide)
  · exact absurd rfl (bne_iff_ne.mp (List.all_eq_true.mp casingTables.sigma_part _ first))
  · exact ne_sigma_of_isSmall (isSmall_second second) rfl

/-- **Lower case may be taken of the parts**, if the result is decomposed. -/
theorem decompose_lowerAfter_split (same : caseOfText before = caseOfText other)
    (text : List Char) :
    decompose (lowerAfter before text) = decompose (lowerAfter other (split text)) := by
  induction text generalizing before other with
  | nil => rfl
  | cons c rest ih =>
    rw [split_cons]
    by_cases whole : parts c = [c]
    · have next : caseOfText (c :: before) = caseOfText (c :: other) := by
        rw [caseOfText_cons, caseOfText_cons, same]
      rw [whole, List.singleton_append, lowerAfter, lowerAfter, meetsCased_eq before,
        meetsCased_eq other, meetsCased_eq rest, meetsCased_eq (split rest), caseOfText_split, same,
        decompose_append, decompose_append, ih next]
    · have next : caseOfText (c :: before) = caseOfText ((parts c).reverse ++ other) := by
        rw [caseOfText_cons, caseOfText_append, (caseOfText_parts c).2, same]
      obtain ⟨plain, apart⟩ := sigma_not_mem_parts whole
      rw [lowerAfter_cons plain, lowerAfter_append apart, decompose_append, decompose_append,
        ((parts_cases c).resolve_left whole).decompose_smallLetter, ih next]

/-- Lower case may be taken of the decomposed text, if the result is decomposed. -/
theorem decompose_lower (text : List Char) :
    decompose (lower text) = decompose (lower (decompose text)) := by
  have step (text : List Char) : decompose (lower text) = decompose (lower (split text)) :=
    decompose_lowerAfter_split rfl text
  rw [decompose_eq text, ← step, ← step, ← step]

/-- What is no capital is no sigma, and stays. -/
theorem lowerAfter_cons_of_small (small : IsSmall c) (before rest : List Char) :
    lowerAfter before (c :: rest) = c :: lowerAfter (c :: before) rest := by
  rw [lowerAfter_cons (ne_sigma_of_isSmall small), smallLetter_of_small small]
  rfl

/-- **It makes no difference to lower case where a mark stands among marks.** -/
theorem canonical_lowerAfter_insertMark (whole : parts c = [c])
    (each : ∀ d ∈ text, parts d = [d]) (before : List Char) :
    canonical (lowerAfter before (insertMark c text)) =
      canonical (lowerAfter before (c :: text)) := by
  induction text generalizing before with
  | nil => rfl
  | cons d rest ih =>
    obtain ⟨here, later⟩ := List.forall_mem_cons.mp each
    rw [insertMark_cons]
    split
    · next below =>
      have mark : 0 < combiningClass c := Nat.lt_trans below.1 below.2
      have context : meetsCased (c :: d :: before) = meetsCased (d :: c :: before) := by
        simp only [meetsCased_eq, caseOfText_cons]
        rw [or_left_comm_of_ne (caseOf_of_mark mark) (caseOf_of_mark below.1)]
      calc canonical (lowerAfter before (d :: insertMark c rest))
          = canonical ([d] ++ lowerAfter (d :: before) (insertMark c rest)) := by
            rw [lowerAfter_cons_of_small (isSmall_of_mark below.1)]
            rfl
        _ = canonical ([d] ++ lowerAfter (d :: before) (c :: rest)) :=
            canonical_append_congr [d] (ih later (d :: before))
        _ = canonical (d :: c :: lowerAfter (c :: d :: before) rest) := by
            rw [lowerAfter_cons_of_small (isSmall_of_mark mark)]
            rfl
        _ = canonical (c :: d :: lowerAfter (d :: c :: before) rest) := by
            rw [canonical_swap here whole below.1 mark (Nat.ne_of_lt below.2),
              lowerAfter_congr context]
        _ = canonical (lowerAfter before (c :: d :: rest)) := by
            rw [lowerAfter_cons_of_small (isSmall_of_mark mark),
              lowerAfter_cons_of_small (isSmall_of_mark below.1)]
    · rfl

/-- It makes no difference whether the marks are in order. -/
theorem canonical_lowerAfter_sortMarks (whole : ∀ c ∈ text, parts c = [c]) (before : List Char) :
    canonical (lowerAfter before (sortMarks text)) = canonical (lowerAfter before text) := by
  induction text generalizing before with
  | nil => rfl
  | cons c rest ih =>
    obtain ⟨here, later⟩ := List.forall_mem_cons.mp whole
    have sorted : ∀ d ∈ sortMarks rest, parts d = [d] := fun d mem =>
      later d ((sortMarks_perm rest).mem_iff.mp mem)
    rw [sortMarks, canonical_lowerAfter_insertMark here sorted, lowerAfter, lowerAfter,
      meetsCased_eq rest, meetsCased_eq (sortMarks rest), caseOfText_sortMarks]
    exact canonical_append_congr _ (ih later (c :: before))

/-- **Lower case keeps canonical equivalence.** -/
theorem canonical_lower (text : List Char) :
    canonical (lower text) = canonical (lower (canonical text)) := by
  calc canonical (lower text)
      = canonical (lower (decompose text)) := congrArg sortMarks (decompose_lower text)
    _ = canonical (lower (canonical text)) :=
      (canonical_lowerAfter_sortMarks (fun _ => parts_of_mem_decompose) []).symm

/-! ## Texts without capitals -/

/-- A text without capitals stays as it is. -/
theorem lowerAfter_of_small (small : ∀ c ∈ text, IsSmall c) (before : List Char) :
    lowerAfter before text = text := by
  induction text generalizing before with
  | nil => rfl
  | cons c rest ih =>
    obtain ⟨here, later⟩ := List.forall_mem_cons.mp small
    rw [lowerAfter_cons_of_small here, ih later]

theorem lower_of_small (small : ∀ c ∈ text, IsSmall c) : lower text = text :=
  lowerAfter_of_small small []

/-- What is in lower case is a small letter of a capital, or was there and no capital. -/
theorem mem_lowerAfter (mem : c ∈ lowerAfter before text) :
    smallBits.testBit c.toNat = true ∨ c ∈ text ∧ IsSmall c := by
  induction text generalizing before with
  | nil => cases mem
  | cons d rest ih =>
    rw [lowerAfter] at mem
    rcases List.mem_append.mp mem with here | later
    · split at here
      · rw [List.mem_singleton] at here
        subst here
        split
        · exact .inl (testBit_bits.mpr (.tail _ (.tail _ (.head _))))
        · exact .inl (testBit_bits.mpr (.tail _ (.tail _ (.tail _ (.head _)))))
      · rcases mem_smallLetter here with small | ⟨rfl, small⟩
        · exact .inl small
        · exact .inr ⟨List.mem_cons_self, small⟩
    · rcases ih later with small | ⟨mem, small⟩
      · exact .inl small
      · exact .inr ⟨.tail _ mem, small⟩

/-- Lower case has no capitals. -/
theorem isSmall_of_mem_lower (mem : c ∈ lower text) : IsSmall c := by
  rcases mem_lowerAfter mem with small | ⟨-, small⟩
  · exact testBit_of_disjoint capitalTables.small small
  · exact small

/-- What joins from what is no capital is none. -/
theorem Joins.isSmall {base joined : Char} (joins : Joins base c joined) (small : IsSmall base) :
    IsSmall joined := by
  cases joins with
  | syllable made => exact isSmall_hangul (hangul_of_join made).2.2
  | pair entry kept =>
    exact (isSmall_first (List.mem_append_left _ (List.mem_map.mpr ⟨_, entry, rfl⟩))).mpr small

/-- Composition makes no capitals. -/
theorem isSmall_of_mem_compose (small : ∀ c ∈ text, IsSmall c) (mem : c ∈ compose text) :
    IsSmall c := by
  have each : ∀ c ∈ canonical text, IsSmall c :=
    forall_mem_canonical (fun _ _ => isSmall_parts) small
  exact forall_mem_compose (fun _ _ _ joins base _ => joins.isSmall base) each c mem

/-- **What is composed from lower case is lower case.** -/
theorem lower_compose_lower (text : List Char) : lower (compose (lower text)) =
    compose (lower text) :=
  lower_of_small fun _ => isSmall_of_mem_compose fun _ => isSmall_of_mem_lower

end PeriodText.Text
