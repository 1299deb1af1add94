import PeriodText.Proofs.Text.Decomposition

/-!
# Marks in order

Marks are sorted by inserting them one by one. Two marks of different classes may be inserted in
either order (`insertMark_comm`), so that texts which differ in the order of such marks become the
same, and a text whose marks are sorted stays as it is (`sortMarks_of_sorted`).

The fully decomposed text with its marks in order is its canonical form. Two texts are canonically
equivalent if they have the same one, and to compose a text is to compose its canonical form.
-/

set_option autoImplicit false

namespace PeriodText.Text

variable {c d : Char} {text other : List Char}

/-- What has a combining class is a mark. -/
theorem isMark_of_pos (mark : 0 < combiningClass c) : marks.bits.testBit c.toNat = true := by
  unfold combiningClass at mark
  dsimp only at mark
  split at mark
  · cases mark
  split at mark
  · next first last rank found =>
    have own := List.find?_some found
    rw [Bool.and_eq_true, decide_eq_true_iff, decide_eq_true_iff] at own
    exact Ranges.testBit_of_mem (List.mem_map_of_mem (List.mem_of_find?_eq_some found)) own
  · cases mark

/-! ## Insertion -/

/-- A mark passes the marks of smaller class. -/
theorem insertMark_cons (c d : Char) (rest : List Char) : insertMark c (d :: rest) =
    if 0 < combiningClass d ∧ combiningClass d < combiningClass c then d :: insertMark c rest
    else c :: d :: rest := by
  simp only [insertMark, Bool.and_eq_true, decide_eq_true_eq]

/-- Marks of different classes may be inserted in either order. -/
theorem insertMark_comm (mark : 0 < combiningClass c) (markToo : 0 < combiningClass d)
    (different : combiningClass c ≠ combiningClass d) (text : List Char) :
    insertMark c (insertMark d text) = insertMark d (insertMark c text) := by
  induction text with
  | nil => grind [insertMark]
  | cons e rest ih => grind [insertMark]

/-- Insertion adds the mark. -/
theorem insertMark_perm (c : Char) (text : List Char) : (insertMark c text).Perm (c :: text) := by
  induction text with
  | nil => exact .refl _
  | cons d rest ih =>
    rw [insertMark_cons]
    split
    · exact (ih.cons d).trans (.swap c d rest)
    · exact .refl _

/-- Sorting keeps the characters. -/
theorem sortMarks_perm (text : List Char) : (sortMarks text).Perm text := by
  induction text with
  | nil => exact .refl _
  | cons c rest ih => exact (insertMark_perm c _).trans (ih.cons c)

/-- What stands behind is sorted first. -/
theorem sortMarks_append (text other : List Char) :
    sortMarks (text ++ other) = text.foldr insertMark (sortMarks other) := by
  induction text with
  | nil => rfl
  | cons c rest ih => rw [List.cons_append, sortMarks, ih, List.foldr_cons]

/-- **Two neighbouring marks of different classes may stand in either order.** -/
theorem sortMarks_swap (mark : 0 < combiningClass c) (markToo : 0 < combiningClass d)
    (different : combiningClass c ≠ combiningClass d) (text other : List Char) :
    sortMarks (text ++ c :: d :: other) = sortMarks (text ++ d :: c :: other) := by
  rw [sortMarks_append, sortMarks_append, sortMarks, sortMarks, sortMarks, sortMarks,
    insertMark_comm mark markToo different]

/-! ## Sorted texts -/

/-- Each run of marks ascends. -/
def Sorted (text : List Char) : Prop :=
  text.IsChain fun c d => combiningClass d = 0 ∨ combiningClass c ≤ combiningClass d

/-- The text that a mark is inserted into begins as before, or with the mark. -/
theorem head?_insertMark (mem : d ∈ (insertMark c text).head?) : d = c ∨ d ∈ text.head? := by
  cases text with
  | nil => exact .inl (Option.mem_some.mp mem).symm
  | cons e rest =>
    rw [insertMark_cons] at mem
    split at mem
    · exact .inr mem
    · exact .inl (Option.mem_some.mp mem).symm

/-- Insertion keeps the order. -/
theorem sorted_insertMark (sorted : Sorted text) : Sorted (insertMark c text) := by
  induction text with
  | nil => exact .singleton c
  | cons d rest ih =>
    obtain ⟨next, others⟩ := List.isChain_cons.mp sorted
    rw [insertMark_cons]
    split
    · next below =>
      refine List.isChain_cons.mpr ⟨fun e mem => ?_, ih others⟩
      rcases head?_insertMark mem with rfl | mem
      · exact .inr (Nat.le_of_lt below.2)
      · exact next e mem
    · exact List.isChain_cons_cons.mpr ⟨by omega, sorted⟩

/-- Sorting sorts. -/
theorem sorted_sortMarks (text : List Char) : Sorted (sortMarks text) := by
  induction text with
  | nil => exact .nil
  | cons c rest ih => exact sorted_insertMark ih

/-- A mark stays in front of those that it does not have to pass. -/
theorem insertMark_of_sorted (sorted : Sorted (c :: text)) : insertMark c text = c :: text := by
  cases text with
  | nil => rfl
  | cons d rest =>
    have next := (List.isChain_cons_cons.mp sorted).1
    rw [insertMark_cons, if_neg]
    omega

/-- A sorted text stays as it is. -/
theorem sortMarks_of_sorted (sorted : Sorted text) : sortMarks text = text := by
  induction text with
  | nil => rfl
  | cons c rest ih =>
    rw [sortMarks, ih (List.isChain_cons.mp sorted).2, insertMark_of_sorted sorted]

/-! ## Canonical forms -/

/-- The text fully decomposed, and its marks in order. -/
def canonical (text : List Char) : List Char := sortMarks (decompose text)

/-- The characters of a canonical form are whole. -/
theorem parts_of_mem_canonical (mem : c ∈ canonical text) : parts c = [c] :=
  parts_of_mem_decompose ((sortMarks_perm _).mem_iff.mp mem)

/-- The canonical form of whole characters is their order. -/
theorem canonical_of_whole (whole : ∀ c ∈ text, parts c = [c]) : canonical text = sortMarks text := by
  rw [canonical, decompose_of_whole whole]

/-- A canonical form is its own. -/
theorem canonical_canonical (text : List Char) : canonical (canonical text) = canonical text := by
  rw [canonical_of_whole fun _ => parts_of_mem_canonical]
  exact sortMarks_of_sorted (sorted_sortMarks _)

/-- What holds of the characters of a text, and of the parts of characters, holds of those of the
canonical form. -/
theorem forall_mem_canonical {p : Char → Prop} (part : ∀ c d, p c → d ∈ parts c → p d)
    (each : ∀ c ∈ text, p c) : ∀ c ∈ canonical text, p c := by
  have step {text : List Char} (each : ∀ c ∈ text, p c) : ∀ c ∈ split text, p c := by
    intro d mem
    obtain ⟨c, listed, own⟩ := List.mem_flatMap.mp mem
    exact part c d (each c listed) own
  intro c mem
  have listed := (sortMarks_perm _).mem_iff.mp mem
  rw [decompose_eq] at listed
  exact step (step (step each)) c listed

/-- Two whole marks of different classes may stand in either order. -/
theorem canonical_swap (whole : parts c = [c]) (wholeToo : parts d = [d])
    (mark : 0 < combiningClass c) (markToo : 0 < combiningClass d)
    (different : combiningClass c ≠ combiningClass d) (text : List Char) :
    canonical (c :: d :: text) = canonical (d :: c :: text) := by
  have first : decompose [c] = [c] := decompose_of_whole (List.forall_mem_singleton.mpr whole)
  have second : decompose [d] = [d] := decompose_of_whole (List.forall_mem_singleton.mpr wholeToo)
  have swap := sortMarks_swap mark markToo different [] (decompose text)
  calc canonical ([c] ++ ([d] ++ text))
      = sortMarks ([c] ++ ([d] ++ decompose text)) := by
        rw [canonical, decompose_append, decompose_append, first, second]
    _ = sortMarks ([d] ++ ([c] ++ decompose text)) := swap
    _ = canonical ([d] ++ ([c] ++ text)) := by
        rw [canonical, decompose_append, decompose_append, first, second]

/-- What stands behind may be replaced by an equivalent text. -/
theorem canonical_append_congr (text : List Char) {first second : List Char}
    (same : canonical first = canonical second) :
    canonical (text ++ first) = canonical (text ++ second) := by
  unfold canonical at same ⊢
  rw [decompose_append, decompose_append, sortMarks_append, sortMarks_append, same]

end PeriodText.Text
