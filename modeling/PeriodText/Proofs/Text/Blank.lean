import PeriodText.Proofs.Text.LowerCase
import PeriodText.Proofs.Text.Runs

/-!
# White space at the ends

White space is neither a mark nor a letter: nothing joins with it, no mark passes it, and a word ends
at it. So composition and lower case work on what stands between white space, piece by piece
(`KeepsBlanks`), and it makes no difference whether the white space at the ends is taken off before
or after them (`KeepsBlanks.strip_comm`).
-/

set_option autoImplicit false

namespace PeriodText.Text

variable {b c d : Char} {text front back rest : List Char} {f : List Char → List Char}

/-! ## The ends of a text -/

/-- A text without white space at its ends is what is left of it when white space is put around
it. -/
theorem strip_eq (before : ∀ c ∈ front, isBlank c = true) (after : ∀ c ∈ back, isBlank c = true)
    (first : opens isBlank text = false) (last : opens isBlank text.reverse = false) :
    strip (front ++ (text ++ back)) = text := by
  have behind : ∀ c ∈ back.reverse, isBlank c = true := fun c mem =>
    after c (List.mem_reverse.mp mem)
  rw [strip, List.dropWhile_append_of_pos before]
  cases text with
  | nil =>
    rw [List.nil_append, ← List.append_nil back, List.dropWhile_append_of_pos after]
    rfl
  | cons c text =>
    have start : opens isBlank (c :: text ++ back) = false := first
    rw [dropWhile_eq_self start, List.reverse_append, List.dropWhile_append_of_pos behind,
      dropWhile_eq_self last, List.reverse_reverse]

/-- A text is what is left of it between white space. -/
theorem exists_strip (text : List Char) : ∃ front back, text = front ++ (strip text ++ back) ∧
    (∀ c ∈ front, isBlank c = true) ∧ (∀ c ∈ back, isBlank c = true) ∧
    opens isBlank (strip text) = false ∧ opens isBlank (strip text).reverse = false := by
  let body := text.dropWhile isBlank
  let back := (body.reverse.takeWhile isBlank).reverse
  have split : body = strip text ++ back := by
    rw [strip, ← List.reverse_append, List.takeWhile_append_dropWhile, List.reverse_reverse]
  refine ⟨text.takeWhile isBlank, back, ?_, ?_, ?_, ?_, ?_⟩
  · rw [← split]
    exact List.takeWhile_append_dropWhile.symm
  · exact fun c mem => of_mem_takeWhile mem
  · exact fun c mem => of_mem_takeWhile (List.mem_reverse.mp mem)
  · by_cases given : strip text = []
    · rw [given]
      rfl
    · rw [← opens_append given back, ← split]
      exact opens_dropWhile text
  · rw [strip, List.reverse_reverse]
    exact opens_dropWhile _

/-- A text that does not begin with white space begins with characters that are none, up to its end
or to white space. -/
theorem exists_run (given : text ≠ []) (first : opens isBlank text = false) : ∃ run, run ≠ [] ∧
    (∀ c ∈ run, isBlank c = false) ∧
    (text = run ∨ ∃ b rest, isBlank b = true ∧ text = run ++ b :: rest) := by
  have whole := List.takeWhile_append_dropWhile (p := (!isBlank ·)) (l := text)
  refine ⟨text.takeWhile (!isBlank ·), ?_, fun c mem => ?_, ?_⟩
  · cases text with
    | nil => exact absurd rfl given
    | cons c text =>
      rw [opens_cons] at first
      rw [List.takeWhile_cons_of_pos (by rw [first]; rfl)]
      exact List.cons_ne_nil _ _
  · simpa using of_mem_takeWhile mem
  · cases left : text.dropWhile (!isBlank ·) with
    | nil =>
      rw [left, List.append_nil] at whole
      exact .inl whole.symm
    | cons b rest =>
      have stop := opens_dropWhile (p := (!isBlank ·)) text
      rw [left, opens_cons] at stop
      rw [left] at whole
      exact .inr ⟨b, rest, by simpa using stop, whole.symm⟩

/-- A text without white space does not begin with any. -/
theorem opens_of_inside (inside : ∀ c ∈ text, isBlank c = false) : opens isBlank text = false := by
  cases text with
  | nil => rfl
  | cons c rest => exact inside c List.mem_cons_self

/-! ## Piece by piece -/

/-- What works on the pieces between white space. -/
structure KeepsBlanks (f : List Char → List Char) : Prop where
  nil : f [] = []
  cut : ∀ front b back, isBlank b = true →
    ∃ d, isBlank d = true ∧ f (front ++ b :: back) = f front ++ d :: f back
  inside : ∀ text, (∀ c ∈ text, isBlank c = false) → ∀ c ∈ f text, isBlank c = false
  present : ∀ text, text ≠ [] → f text ≠ []

namespace KeepsBlanks

/-- White space in front stays white space. -/
theorem ahead (keeps : KeepsBlanks f) (before : ∀ c ∈ front, isBlank c = true)
    (text : List Char) :
    ∃ blank, (∀ c ∈ blank, isBlank c = true) ∧ f (front ++ text) = blank ++ f text := by
  induction front with
  | nil => exact ⟨[], List.forall_mem_nil _, rfl⟩
  | cons b front ih =>
    obtain ⟨here, later⟩ := List.forall_mem_cons.mp before
    obtain ⟨blank, blanks, same⟩ := ih later
    obtain ⟨d, own, cut⟩ := keeps.cut [] b (front ++ text) here
    refine ⟨d :: blank, List.forall_mem_cons.mpr ⟨own, blanks⟩, ?_⟩
    rw [keeps.nil, List.nil_append, List.nil_append, same] at cut
    exact cut

/-- White space behind stays white space. -/
theorem behind (keeps : KeepsBlanks f) (after : ∀ c ∈ back, isBlank c = true) (text : List Char) :
    ∃ blank, (∀ c ∈ blank, isBlank c = true) ∧ f (text ++ back) = f text ++ blank := by
  cases back with
  | nil => exact ⟨[], List.forall_mem_nil _, by rw [List.append_nil, List.append_nil]⟩
  | cons b back =>
    obtain ⟨here, later⟩ := List.forall_mem_cons.mp after
    obtain ⟨d, own, cut⟩ := keeps.cut text b back here
    obtain ⟨blank, blanks, same⟩ := keeps.ahead later []
    rw [List.append_nil, keeps.nil, List.append_nil] at same
    exact ⟨d :: f back, List.forall_mem_cons.mpr ⟨own, same ▸ blanks⟩, cut⟩

/-- A text that does not begin with white space is made into none that does. -/
theorem opens_eq_false (keeps : KeepsBlanks f) (first : opens isBlank text = false) :
    opens isBlank (f text) = false := by
  by_cases given : text = []
  · rw [given, keeps.nil]
    rfl
  · obtain ⟨run, some, inside, split⟩ := exists_run given first
    have begins := opens_of_inside (keeps.inside run inside)
    rcases split with rfl | ⟨b, rest, blank, rfl⟩
    · exact begins
    · obtain ⟨d, -, cut⟩ := keeps.cut run b rest blank
      rw [cut, opens_append (keeps.present run some), begins]

/-- A text that does not end with white space is made into none that does. -/
theorem opens_reverse_eq_false (keeps : KeepsBlanks f)
    (last : opens isBlank text.reverse = false) : opens isBlank (f text).reverse = false := by
  by_cases given : text = []
  · rw [given, keeps.nil]
    rfl
  · obtain ⟨run, some, inside, split⟩ := exists_run (mt List.reverse_eq_nil_iff.mp given) last
    have backwards : ∀ c ∈ run.reverse, isBlank c = false := fun c mem =>
      inside c (List.mem_reverse.mp mem)
    have ends : opens isBlank (f run.reverse).reverse = false :=
      opens_of_inside fun c mem => keeps.inside run.reverse backwards c (List.mem_reverse.mp mem)
    have present : (f run.reverse).reverse ≠ [] :=
      mt List.reverse_eq_nil_iff.mp (keeps.present _ (mt List.reverse_eq_nil_iff.mp some))
    rw [← List.reverse_reverse text]
    rcases split with same | ⟨b, rest, blank, same⟩
    · rw [same, ends]
    · obtain ⟨d, -, cut⟩ := keeps.cut rest.reverse b run.reverse blank
      rw [same, List.reverse_append, List.reverse_cons, List.append_assoc, List.singleton_append,
        cut, List.reverse_append, List.reverse_cons, List.append_assoc, opens_append present, ends]

/-- **It makes no difference when the white space at the ends is taken off.** -/
theorem strip_comm (keeps : KeepsBlanks f) (text : List Char) :
    strip (f text) = f (strip text) := by
  obtain ⟨front, back, whole, before, after, first, last⟩ := exists_strip text
  obtain ⟨blank, blanks, ahead⟩ := keeps.ahead before (strip text ++ back)
  obtain ⟨blank', blanks', behind⟩ := keeps.behind after (strip text)
  conv_lhs => rw [whole, ahead, behind]
  exact strip_eq blanks blanks' (keeps.opens_eq_false first) (keeps.opens_reverse_eq_false last)

end KeepsBlanks

/-! ## White space in the tables -/

/-- Its members are those of one of the sets. -/
theorem testBit_solid (n : Nat) : solid.testBit n =
    (capitalBits.testBit n || smallBits.testBit n || caseIgnorables.bits.testBit n ||
      caseds.bits.testBit n || marks.bits.testBit n || hangul.bits.testBit n ||
      (bits (canonicalPairs.map (·.1))).testBit n ||
      (bits (canonicalPairs.map (·.2.1))).testBit n ||
      (bits (canonicalPairs.map (·.2.2))).testBit n) := by
  simp only [solid, Nat.testBit_or]

/-- What is solid is no white space. -/
theorem isBlank_of_solid (mem : solid.testBit c.toNat = true) : isBlank c = false := by
  rw [isBlank, ← Ranges.testBit_bits]
  exact testBit_of_disjoint blankTables.apart mem

/-- White space is not solid. -/
theorem solid_of_blank (blank : isBlank b = true) : solid.testBit b.toNat = false := by
  refine Bool.eq_false_iff.mpr fun mem => ?_
  rw [isBlank_of_solid mem] at blank
  cases blank

/-- White space is no capital, and a word ends at it. -/
theorem case_of_blank (blank : isBlank b = true) : IsSmall b ∧ caseOf b.toNat = some .uncased := by
  have apart := solid_of_blank blank
  simp only [testBit_solid, Bool.or_eq_false_iff] at apart
  obtain ⟨⟨⟨⟨⟨⟨⟨⟨capital, -⟩, ignorable⟩, cased⟩, -⟩, -⟩, -⟩, -⟩, -⟩ := apart
  rw [caseOf, ignorable, cased]
  exact ⟨capital, rfl⟩

/-- White space is no mark. -/
theorem combiningClass_of_blank (blank : isBlank b = true) : combiningClass b = 0 := by
  by_contra mark
  have mem := isMark_of_pos (Nat.pos_of_ne_zero mark)
  have apart := solid_of_blank blank
  simp only [testBit_solid, mem, Bool.or_true, Bool.true_or] at apart
  cases apart

/-- Hangul is no white space. -/
theorem isBlank_of_hangul (mem : hangul.bits.testBit c.toNat = true) : isBlank c = false := by
  refine isBlank_of_solid ?_
  simp only [testBit_solid, mem, Bool.or_true, Bool.true_or]

/-- Nothing of a pair is white space. -/
theorem isBlank_of_pair {first second : Char}
    (entry : (c.toNat, first.toNat, second.toNat) ∈ canonicalPairs) :
    isBlank c = false ∧ isBlank first = false ∧ isBlank second = false := by
  have key := testBit_bits_map (·.1) entry
  have front := testBit_bits_map (·.2.1) entry
  have back := testBit_bits_map (·.2.2) entry
  refine ⟨isBlank_of_solid ?_, isBlank_of_solid ?_, isBlank_of_solid ?_⟩
  · simp only [testBit_solid, key, Bool.or_true, Bool.true_or]
  · simp only [testBit_solid, front, Bool.or_true, Bool.true_or]
  · simp only [testBit_solid, back, Bool.or_true]

/-- White space decomposes into white space, and nothing else does. -/
theorem isBlank_parts (part : d ∈ parts c) : isBlank d = isBlank c := by
  rcases parts_cases c with whole | splits
  · rw [whole] at part
    rw [List.mem_singleton.mp part]
  · generalize parts c = ps at part splits
    cases splits with
    | syllable made =>
      obtain ⟨inside, letters⟩ := hangul_of_syllableParts made
      rw [isBlank_of_hangul (hangul_of_syllable inside)]
      exact isBlank_of_hangul (hangul_of_letter (letters _ (List.mem_map_of_mem part)))
    | pair entry =>
      obtain ⟨key, front, back⟩ := isBlank_of_pair entry
      rw [List.mem_cons, List.mem_singleton] at part
      rcases part with rfl | rfl
      · rw [key, front]
      · rw [key, back]
    | single entry =>
      have same := List.all_eq_true.mp blankTables.singletons _ entry
      rw [beq_iff_eq, Ranges.testBit_bits, Ranges.testBit_bits] at same
      rw [List.mem_singleton.mp part]
      exact same.symm

/-- White space decomposes into one character. -/
theorem exists_parts_of_blank (blank : isBlank b = true) : ∃ d, parts b = [d] := by
  rcases parts_cases b with whole | splits
  · exact ⟨b, whole⟩
  · generalize parts b = ps at splits
    cases splits with
    | syllable made =>
      have inside := hangul_of_syllable (hangul_of_syllableParts made).1
      rw [isBlank_of_hangul inside] at blank
      cases blank
    | pair entry =>
      rw [(isBlank_of_pair entry).1] at blank
      cases blank
    | @single other entry => exact ⟨other, rfl⟩

/-- Neither of what joins is white space, nor is what it joins into. -/
theorem Joins.isBlank_eq_false {base joined : Char} (joins : Joins base c joined) :
    isBlank base = false ∧ isBlank c = false ∧ isBlank joined = false := by
  cases joins with
  | syllable made =>
    obtain ⟨front, back, whole⟩ := hangul_of_join made
    exact ⟨isBlank_of_hangul front, isBlank_of_hangul back, isBlank_of_hangul whole⟩
  | pair entry kept =>
    obtain ⟨key, front, back⟩ := isBlank_of_pair entry
    exact ⟨front, back, key⟩

/-- No mark is the base of what joins. -/
theorem Joins.combiningClass_eq_zero {base joined : Char} (joins : Joins base c joined) :
    combiningClass base = 0 := by
  by_contra mark
  have mem := isMark_of_pos (Nat.pos_of_ne_zero mark)
  cases joins with
  | syllable made =>
    rw [testBit_of_disjoint blankTables.hangul_marks (hangul_of_join made).1] at mem
    cases mem
  | pair entry kept =>
    have either := List.all_eq_true.mp blankTables.bases _ entry
    rw [mem, Bool.not_true, Bool.false_or, List.contains_iff_mem] at either
    exact kept either

/-! ## Lower case -/

/-- A word ends at white space, and another one may begin after it. -/
theorem lowerAfter_cut (blank : isBlank b = true) (before front back : List Char) :
    lowerAfter before (front ++ b :: back) = lowerAfter before front ++ b :: lower back := by
  obtain ⟨small, case⟩ := case_of_blank blank
  induction front generalizing before with
  | nil =>
    have apart : meetsCased (b :: before) = meetsCased [] := by
      rw [meetsCased_eq, caseOfText_cons, case]
      rfl
    rw [List.nil_append, lowerAfter_cons_of_small small, lowerAfter_congr apart]
    rfl
  | cons c front ih =>
    have same : meetsCased (front ++ b :: back) = meetsCased front := by
      rw [meetsCased_eq, meetsCased_eq, caseOfText_append, caseOfText_cons, case]
      cases caseOfText front <;> rfl
    rw [List.cons_append, lowerAfter, lowerAfter, same, ih, List.append_assoc]

/-- **Lower case works on the pieces between white space.** -/
theorem keepsBlanks_lower : KeepsBlanks lower where
  nil := rfl
  cut front b back blank := ⟨b, blank, lowerAfter_cut blank [] front back⟩
  inside text plain c mem := by
    rcases mem_lowerAfter mem with small | ⟨mem, -⟩
    · refine isBlank_of_solid ?_
      simp only [testBit_solid, small, Bool.or_true, Bool.true_or]
    · exact plain c mem
  present text given := by
    cases text with
    | nil => exact absurd rfl given
    | cons c rest =>
      rw [lower, lowerAfter]
      refine List.append_ne_nil_of_left_ne_nil ?_ _
      split
      · exact List.cons_ne_nil _ _
      · exact smallLetter_ne_nil c

/-! ## Composition -/

/-- White space is replaced by white space. -/
theorem exists_split_of_blank (blank : isBlank b = true) :
    ∃ d, isBlank d = true ∧ split [b] = [d] := by
  obtain ⟨d, whole⟩ := exists_parts_of_blank blank
  refine ⟨d, ?_, ?_⟩
  · rwa [isBlank_parts (whole ▸ List.mem_singleton_self d)]
  · rw [split_cons, whole]
    rfl

/-- White space decomposes into white space. -/
theorem exists_decompose_of_blank (blank : isBlank b = true) :
    ∃ d, isBlank d = true ∧ decompose [b] = [d] := by
  obtain ⟨once, blank, same⟩ := exists_split_of_blank blank
  obtain ⟨twice, blank, again⟩ := exists_split_of_blank blank
  obtain ⟨d, blank, last⟩ := exists_split_of_blank blank
  exact ⟨d, blank, by rw [decompose_eq, same, again, last]⟩

/-- No mark is moved past white space. -/
theorem insertMark_cut (blank : isBlank b = true) (c : Char) (front back : List Char) :
    insertMark c (front ++ b :: back) = insertMark c front ++ b :: back := by
  have starter := combiningClass_of_blank blank
  induction front with
  | nil =>
    change insertMark c (b :: back) = c :: b :: back
    rw [insertMark_cons, starter, if_neg fun passes => Nat.lt_irrefl 0 passes.1]
  | cons d front ih =>
    rw [List.cons_append, insertMark_cons, insertMark_cons]
    split
    · rw [ih, List.cons_append]
    · rfl

/-- White space stays where it is. -/
theorem insertMark_blank (blank : isBlank b = true) (text : List Char) :
    insertMark b text = b :: text := by
  cases text with
  | nil => rfl
  | cons c rest =>
    rw [insertMark_cons, combiningClass_of_blank blank, if_neg]
    exact fun passes => Nat.not_lt_zero _ passes.2

/-- Marks are sorted between white space. -/
theorem sortMarks_cut (blank : isBlank b = true) (front back : List Char) :
    sortMarks (front ++ b :: back) = sortMarks front ++ b :: sortMarks back := by
  induction front with
  | nil => exact insertMark_blank blank (sortMarks back)
  | cons c front ih => rw [List.cons_append, sortMarks, ih, insertMark_cut blank, sortMarks]

/-- The canonical form is that of the pieces between white space. -/
theorem exists_canonical_cut (blank : isBlank b = true) (front back : List Char) :
    ∃ d, isBlank d = true ∧
      canonical (front ++ b :: back) = canonical front ++ d :: canonical back := by
  obtain ⟨d, own, same⟩ := exists_decompose_of_blank blank
  refine ⟨d, own, ?_⟩
  rw [canonical, decompose_append, ← List.singleton_append, decompose_append, same,
    List.singleton_append, sortMarks_cut own]
  rfl

/-- Characters that do not join are not joined. -/
theorem composePair_eq_none (apart : ∀ joined, ¬Joins c d joined) : composePair c d = none :=
  Option.eq_none_iff_forall_ne_some.mpr fun joined found =>
    apart joined (joins_of_composePair found)

/-- A base that nothing joins with is left behind as soon as there is another. -/
theorem composeFrom_cons {base c : Char} (apart : ∀ d joined, ¬Joins base d joined)
    (apartToo : ∀ d joined, ¬Joins c d joined) (marks rest : List Char) (last other : Nat) :
    composeFrom base (c :: marks) last rest = base :: composeFrom c marks other rest := by
  induction rest generalizing marks last other with
  | nil => rfl
  | cons d rest ih =>
    rw [composeFrom, composeFrom, composePair_eq_none (apart d), composePair_eq_none (apartToo d),
      ite_self, ite_self]
    dsimp only
    split
    · rfl
    · exact ih (marks ++ [d]) _ _

/-- Composition begins anew after white space. -/
theorem composeFrom_blank (blank : isBlank b = true) (rest : List Char) :
    composeFrom b [] 0 rest = b :: composeAll rest := by
  have apart (d joined : Char) : ¬Joins b d joined := by
    intro joins
    rw [joins.isBlank_eq_false.1] at blank
    cases blank
  cases rest with
  | nil => rfl
  | cons c rest =>
    rw [composeFrom, composePair_eq_none (apart c), ite_self]
    dsimp only
    split
    · rfl
    · next mark =>
      exact composeFrom_cons apart (fun d joined joins => mark joins.combiningClass_eq_zero) [] rest
        _ _

/-- Nothing is composed with white space. -/
theorem composeFrom_cut (blank : isBlank b = true) (base : Char) (marks : List Char) (last : Nat)
    (front back : List Char) : composeFrom base marks last (front ++ b :: back) =
      composeFrom base marks last front ++ b :: composeAll back := by
  induction front generalizing base marks last with
  | nil =>
    have apart (joined : Char) : ¬Joins base b joined := by
      intro joins
      rw [joins.isBlank_eq_false.2.1] at blank
      cases blank
    change composeFrom base marks last (b :: back) = base :: marks ++ b :: composeAll back
    rw [composeFrom, composePair_eq_none apart, ite_self]
    dsimp only
    rw [if_pos (combiningClass_of_blank blank), composeFrom_blank blank]
  | cons c front ih =>
    rw [List.cons_append, composeFrom, composeFrom]
    split
    · exact ih _ _ _
    split
    · rw [ih, List.append_assoc]
    · exact ih _ _ _

/-- Every character has parts. -/
theorem parts_ne_nil (c : Char) : parts c ≠ [] := by
  rcases parts_cases c with whole | splits
  · rw [whole]
    exact List.cons_ne_nil _ _
  · generalize parts c = ps at splits
    cases splits with
    | syllable made =>
      rintro rfl
      exact ne_nil_of_syllableParts made rfl
    | pair | single => exact List.cons_ne_nil _ _

/-- A text that has a canonical form of nothing is empty. -/
theorem eq_nil_of_canonical (none : canonical text = []) : text = [] := by
  have step {text : List Char} (none : split text = []) : text = [] := by
    cases text with
    | nil => rfl
    | cons c rest =>
      rw [split_cons, List.append_eq_nil_iff] at none
      exact absurd none.1 (parts_ne_nil c)
  have perm := sortMarks_perm (decompose text)
  rw [← canonical, none] at perm
  have empty := perm.symm.eq_nil
  rw [decompose_eq] at empty
  exact step (step (step empty))

/-- **Composition works on the pieces between white space.** -/
theorem keepsBlanks_compose : KeepsBlanks compose where
  nil := rfl
  cut front b back blank := by
    obtain ⟨d, own, same⟩ := exists_canonical_cut blank front back
    refine ⟨d, own, ?_⟩
    rw [compose_eq, compose_eq, compose_eq, same]
    cases canonical front with
    | nil => exact composeFrom_blank own _
    | cons c rest => exact composeFrom_cut own c [] 0 rest _
  inside text plain := by
    have each : ∀ c ∈ canonical text, isBlank c = false :=
      forall_mem_canonical (fun c d own part => (isBlank_parts part).trans own) plain
    exact forall_mem_compose (fun _ _ _ joins _ _ => joins.isBlank_eq_false.2.2) each
  present text given none := by
    have same := canonical_compose text
    rw [none] at same
    exact given (eq_nil_of_canonical same.symm)

end PeriodText.Text
