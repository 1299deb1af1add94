import PeriodText.Proofs.Format.InStep

/-!
# Out of step

A number takes all digits that there are, and so the digits of a number that is not negative and
directly follows it. Then there are fields left to read that have nothing of their own in the text:
one after another they take what was written for later ones, and the reader does not get back in
step, `not_swallowed`. It would have to be at a literal, but the field before a literal that
another field follows has a fixed width, which takes no sign, and signs are all that keeps the
numbers apart.
-/

set_option autoImplicit false

namespace PeriodText

open Numeral (isDigit magnitude)
open Text (opens isLetter)

namespace Format

variable {l : Locale} {v : Value} {numbers : List Field} {tokens : List Token}
  {pieces : List (List Char)} {after : List Char}

/-- Numbers before a literal that another field follows end with one of fixed width. -/
theorem Formed.fixed_of_anchor (formed : Formed (numbers.map .field ++ tokens))
    (anchor : anchors tokens = true) (present : numbers ≠ []) :
    ∃ f ∈ numbers, f.fixed = true := by
  rcases List.eq_nil_or_concat numbers with rfl | ⟨before, f, rfl⟩
  · exact absurd rfl present
  · rw [List.concat_eq_append] at formed ⊢
    rw [List.map_append, List.append_assoc] at formed
    refine ⟨f, by simp, ?_⟩
    rw [formed.of_append.1.2.2]
    exact anchor

/-- What is read for tokens that begin with a number begins with the piece of that number. -/
theorem pieces_of_number {g : Field} (numeric : g.specifier.style? = none)
    (cut : Pieces l (.field g :: tokens) pieces after) :
    ∃ piece rest, pieces = piece :: rest ∧ g.IsNumber piece (rest.flatten ++ after) ∧
      Pieces l tokens rest after := by
  obtain ⟨piece, rest, rfl, number, cut⟩ := pieces_cons.mp cut
  simp only [Token.IsPiece, Field.IsPiece, numeric] at number
  exact ⟨piece, rest, rfl, number, cut⟩

/-- Numbers read from a text that does not begin with a digit all have a sign, so none has a fixed
width. -/
theorem free_of_pieces (proper : ∀ f ∈ numbers, 1 ≤ f.width)
    (numeric : ∀ f ∈ numbers, f.specifier.style? = none)
    (cut : Pieces l (numbers.map .field) pieces after)
    (stop : opens isDigit (pieces.flatten ++ after) = false) :
    ∀ f ∈ numbers, f.fixed = false := by
  induction numbers generalizing pieces with
  | nil =>
    intro f mem
    cases mem
  | cons g numbers ih =>
    obtain ⟨first, others⟩ := List.forall_mem_cons.mp proper
    obtain ⟨here, there⟩ := List.forall_mem_cons.mp numeric
    obtain ⟨piece, rest, rfl, number, cut⟩ := pieces_of_number here cut
    rw [List.flatten_cons, List.append_assoc] at stop
    have free := (number.signed first stop).1
    exact List.forall_mem_cons.mpr ⟨free, ih others there cut (number.stop free)⟩

/-- A literal directly after numbers does not begin with a digit. -/
theorem Separated.literal {text : List Char}
    (separated : Separated (numbers.map .field ++ .literal text :: tokens))
    (numeric : ∀ f ∈ numbers, f.specifier.style? = none) (present : numbers ≠ []) :
    opens isDigit text = false := by
  rcases List.eq_nil_or_concat numbers with rfl | ⟨before, f, rfl⟩
  · exact absurd rfl present
  · rw [List.concat_eq_append] at separated numeric
    rw [List.map_append, List.append_assoc] at separated
    have last : Separated (.field f :: .literal text :: tokens) :=
      (List.isChain_append.mp separated).2.1
    exact last.number (numeric f (by simp)) text rfl

/-- The digits after some digits are gone with them. -/
theorem dropWhile_magnitude (width : Nat) (n : Int) (rest : List Char) :
    (magnitude width n ++ rest).dropWhile isDigit = rest.dropWhile isDigit :=
  List.dropWhile_append_of_pos fun _ => Numeral.isDigit_of_mem_magnitude

/-- A field after fields is one more of them. -/
theorem map_field_snoc (numbers : List Field) (h : Field) (tokens : List Token) :
    numbers.map Token.field ++ .field h :: tokens =
      (numbers ++ [h]).map Token.field ++ tokens := by
  rw [List.map_append, List.append_assoc]
  rfl

/-- Numbers are not read from the literal after them and what follows it. -/
theorem not_swallowed_literal {text : List Char} {written : List (List Char)}
    (formed : Formed (numbers.map .field ++ .literal text :: tokens))
    (wrote : Written (.ok l) v tokens written)
    (stop : opens isDigit (text ++ written.flatten) = false) (present : numbers ≠ [])
    (numeric : ∀ f ∈ numbers, f.specifier.style? = none)
    (cut : Pieces l (numbers.map .field ++ .literal text :: tokens) pieces []) :
    pieces.flatten ≠ text ++ written.flatten := by
  intro same
  have proper : ∀ f ∈ numbers, 1 ≤ f.width := fun f mem =>
    formed.proper (List.mem_append_left _ (List.mem_map_of_mem mem))
  obtain ⟨first, second, rfl, cutFirst, cutSecond⟩ := pieces_append.mp cut
  cases tokens with
  | nil =>
    -- The literal is all of the text, and the numbers before it take at least a character.
    obtain ⟨g, numbers, rfl⟩ := List.exists_cons_of_ne_nil present
    obtain ⟨piece, rest, rfl, number, -⟩ :=
      pieces_of_number (numeric g List.mem_cons_self) cutFirst
    cases wrote
    obtain ⟨literal, others, rfl, suits, none⟩ := pieces_cons.mp cutSecond
    obtain rfl : literal = text := suits
    obtain rfl := pieces_nil.mp none
    refine number.ne_nil (proper g List.mem_cons_self) ?_
    have whole : piece ++ (rest.flatten ++ literal) = literal := by simpa using same
    rw [← List.append_assoc, List.append_left_eq_self] at whole
    exact (List.append_eq_nil_iff.mp whole).1
  | cons t tokens =>
    -- The literal stands before a field, so the number before it takes no sign.
    cases t with
    | literal other => exact absurd formed.of_append.1.2 Bool.noConfusion
    | field h =>
      obtain ⟨f, mem, fixed⟩ := formed.fixed_of_anchor rfl present
      have free := free_of_pieces proper numeric cutFirst
        (by rw [List.append_nil, ← List.flatten_append, same, stop]) f mem
      rw [free] at fixed
      cases fixed

/-- **No tokens that begin with a number are read from what is left of a text once the digits in
front of it are gone, if it was written for the tokens after their first numbers.** The reader has
some fields too many to fill, and never fewer. -/
theorem not_swallowed (legible : l.Legible) {written : List (List Char)}
    (wrote : Written (.ok l) v tokens written)
    (formed : Formed (numbers.map .field ++ tokens))
    (separated : Separated (numbers.map .field ++ tokens)) (present : numbers ≠ [])
    (numeric : ∀ f ∈ numbers, f.specifier.style? = none)
    (cut : Pieces l (numbers.map .field ++ tokens) pieces []) :
    pieces.flatten ≠ written.flatten.dropWhile isDigit := by
  induction wrote generalizing numbers pieces with
  | nil =>
    intro same
    obtain ⟨g, numbers, rfl⟩ := List.exists_cons_of_ne_nil present
    obtain ⟨piece, rest, rfl, number, -⟩ := pieces_of_number (numeric g List.mem_cons_self) cut
    exact number.ne_nil formed.1.1 (List.append_eq_nil_iff.mp same).1
  | @cons t piece tokens written first others ih =>
    rw [List.flatten_cons]
    cases t with
    | literal text =>
      obtain rfl : text = piece := Except.ok.inj first
      have apart := separated.literal numeric present
      have stop : opens isDigit (text ++ written.flatten) = false := by
        rw [Text.opens_append formed.of_append.1.1, apart]
      rw [Text.dropWhile_eq_self stop]
      exact not_swallowed_literal formed others stop present numeric cut
    | field h =>
      cases style : h.specifier.style? with
      | some style =>
        obtain ⟨digit, letter⟩ := opens_name legible style first written.flatten
        rw [Text.dropWhile_eq_self digit]
        intro same
        obtain ⟨f, numbers, rfl⟩ := List.exists_cons_of_ne_nil present
        obtain ⟨whole, rest, rfl, number, -⟩ :=
          pieces_of_number (numeric f List.mem_cons_self) cut
        rw [List.append_nil] at number
        rw [List.flatten_cons] at same
        rw [← same] at digit letter
        obtain ⟨-, digits, rfl, -⟩ := number.signed formed.1.1 digit
        rw [List.cons_append, Text.opens_cons, Numeral.isLetter_minus] at letter
        cases letter
      | none =>
        obtain ⟨n, -, -, rfl⟩ := (Field.render_number style).mp first
        by_cases negative : n < 0
        · -- The first number takes this one's sign and all digits after it.
          rw [Numeral.paddedText_of_neg negative, List.cons_append]
          have digit : opens isDigit ('-' :: (magnitude h.width n ++ written.flatten)) = false :=
            Numeral.isDigit_minus
          rw [Text.dropWhile_eq_self digit]
          intro same
          obtain ⟨f, numbers, rfl⟩ := List.exists_cons_of_ne_nil present
          rw [List.map_cons, List.cons_append] at formed separated cut
          obtain ⟨here, there⟩ := List.forall_mem_cons.mp numeric
          obtain ⟨whole, rest, rfl, number, cutLeft⟩ := pieces_of_number here cut
          rw [List.append_nil] at number
          rw [List.flatten_cons] at same
          rw [← same] at digit
          obtain ⟨free, digits, rfl, inside⟩ := number.signed formed.1.1 digit
          have unsigned : digits ++ rest.flatten = magnitude h.width n ++ written.flatten :=
            (List.cons.inj same).2
          have left : rest.flatten = written.flatten.dropWhile isDigit := by
            rw [← dropWhile_magnitude h.width n, ← unsigned,
              Text.dropWhile_run inside (number.stop free)]
          have formedLeft := formed.2
          have separatedLeft := (List.isChain_cons.mp separated).2
          rw [map_field_snoc] at formedLeft separatedLeft cutLeft
          have numericLeft := List.forall_mem_append.mpr
            ⟨there, List.forall_mem_singleton.mpr style⟩
          exact ih formedLeft separatedLeft (List.concat_ne_nil h numbers) numericLeft cutLeft left
        · -- Its digits are gone, so that there is one more number to read without any.
          rw [Numeral.paddedText_of_nonneg (Int.not_lt.mp negative), dropWhile_magnitude]
          rw [map_field_snoc] at formed separated cut
          have numericMore := List.forall_mem_append.mpr
            ⟨numeric, List.forall_mem_singleton.mpr style⟩
          exact ih formed separated (List.concat_ne_nil h numbers) numericMore cut

end Format

end PeriodText
