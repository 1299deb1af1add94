import PeriodText.Proofs.Format.Marks

/-!
# Canonical patterns

The token programs that compilation can give are described locally: `Token.Fits` says what may
stand after a token, and a program is well-formed when it is not empty and every token fits the
tokens after it. A mark put before tokens that fit leaves tokens that fit, so everything that is
compiled is well-formed.

Conversely the canonical pattern of a well-formed program has the program's own marks
(`marked_content`), and these group into the program again. So compilation and the canonical
pattern are inverse to each other, up to the spelling of the pattern: `canonical_right_inverse`.
-/

set_option autoImplicit false

namespace PeriodText

open Format (anchors opensField opensLiteral)

/-- The token may stand before the tokens. A field is not empty, no field of its letter follows it
directly, and it is fixed exactly when a literal and then a field follow. A literal is not empty,
and no literal follows it directly. -/
def Token.Fits : Token → List Token → Prop
  | .field f, rest => 1 ≤ f.width ∧ opensField f.specifier rest = false ∧ f.fixed = anchors rest
  | .literal text, rest => text ≠ [] ∧ opensLiteral rest = false

namespace Format

/-- Every token fits the tokens after it. -/
def Formed : List Token → Prop
  | [] => True
  | t :: rest => t.Fits rest ∧ Formed rest

/-- A token program that a pattern can be compiled into. -/
structure WellFormed (tokens : List Token) : Prop where
  nonempty : tokens ≠ []
  formed : Formed tokens

/-- Tokens that fit still fit without those before them. -/
theorem Formed.of_append {tokens others : List Token} (formed : Formed (tokens ++ others)) :
    Formed others := by
  induction tokens with
  | nil => exact formed
  | cons t tokens ih => exact ih formed.2

/-- Fields among tokens that fit have a width. -/
theorem Formed.proper {tokens : List Token} (formed : Formed tokens) {f : Field}
    (mem : .field f ∈ tokens) : 1 ≤ f.width := by
  obtain ⟨before, rest, rfl⟩ := List.append_of_mem mem
  exact formed.of_append.1.1

/-! ## What is compiled is well-formed -/

/-- A mark before tokens that fit leaves tokens that fit. -/
theorem Formed.putMark {tokens : List Token} (formed : Formed tokens) (m : Mark) :
    Formed (putMark m tokens) := by
  cases m with
  | plain c =>
    cases apart : opensLiteral tokens with
    | false =>
      rw [putMark_plain c apart]
      exact ⟨⟨by simp, apart⟩, formed⟩
    | true =>
      obtain ⟨text, rest, rfl⟩ := of_opensLiteral apart
      exact ⟨⟨List.cons_ne_nil c text, formed.1.2⟩, formed.2⟩
  | letter specifier =>
    cases apart : opensField specifier tokens with
    | false =>
      rw [putMark_letter specifier apart]
      exact ⟨⟨Nat.le_refl 1, apart, rfl⟩, formed⟩
    | true =>
      obtain ⟨f, rest, rfl, same⟩ := of_opensField apart
      rw [Format.putMark, if_pos same]
      exact ⟨⟨Nat.le_add_left 1 _, formed.1.2.1, formed.1.2.2⟩, formed.2⟩

/-- The tokens of any marks fit. -/
theorem formed_group (marks : List Mark) : Formed (group marks) := by
  induction marks with
  | nil => trivial
  | cons m rest ih => exact ih.putMark m

/-- A mark never leaves nothing. -/
theorem putMark_ne_nil (m : Mark) (tokens : List Token) : putMark m tokens ≠ [] := by
  unfold putMark
  split
  · simp
  · simp
  · split <;> simp
  · simp

/-- A pattern that is not empty has marks. -/
theorem marked_ne_nil {text : List Char} (present : text ≠ []) : marked text ≠ [] := by
  unfold marked
  split
  · exact absurd rfl present
  · simp
  · split <;> simp

/-- The tokens that a pattern is compiled into are well-formed. -/
theorem wellFormed_of_compile {pattern : String} {f : Format}
    (compiled : compile pattern = .ok f) : WellFormed f.tokens := by
  obtain ⟨present, -, tokens⟩ := tokens_of_compile compiled
  rw [tokens]
  refine ⟨?_, formed_group _⟩
  cases marks : marked pattern.toList with
  | nil => exact absurd marks (marked_ne_nil (by simpa using present))
  | cons m rest => exact putMark_ne_nil m (group rest)

/-! ## Well-formed programs are compiled from their content -/

/-- The marks of a token before tokens that it fits are the token. -/
theorem putMarks_of_fits {t : Token} {rest : List Token} (fits : t.Fits rest) :
    putMarks t.marks rest = t :: rest := by
  cases t with
  | literal text => exact putMarks_literal fits.1 fits.2
  | field f =>
    obtain ⟨present, apart, fixed⟩ := fits
    rw [Token.marks, putMarks_run present apart, ← fixed]

/-- Tokens that fit are the groups of their marks. -/
theorem group_marks_of_formed {tokens : List Token} (formed : Formed tokens) :
    group (tokens.flatMap Token.marks) = tokens := by
  induction tokens with
  | nil => rfl
  | cons t rest ih => rw [List.flatMap_cons, group_append, ih formed.2, putMarks_of_fits formed.1]

/-- A character other than the escape is marked for itself. -/
theorem marked_cons {c : Char} (unescaped : c ≠ Token.escape) (rest : List Char) :
    marked (c :: rest) = .ofChar c :: marked rest := by
  cases rest with
  | nil => rfl
  | cons d rest => rw [marked, if_neg unescaped]

/-- No field letter is the escape. -/
theorem letter_ne_escape (specifier : Specifier) : specifier.letter ≠ Token.escape := by
  cases specifier <;> decide

/-- A character of a literal, escaped if need be, is marked as plain. -/
theorem marked_escaped (c : Char) (rest : List Char) :
    marked (Token.escaped c ++ rest) = .plain c :: marked rest := by
  unfold Token.escaped
  split
  · rw [List.cons_append, List.cons_append, List.nil_append, marked, if_pos rfl]
  · next bare =>
    rw [Bool.or_eq_true, decide_eq_true_eq, not_or] at bare
    have plain : Specifier.ofLetter? c = none := by
      simpa only [Specifier.isLetter, Bool.not_eq_true, Option.isSome_eq_false_iff,
        Option.isNone_iff_eq_none] using bare.2
    rw [List.cons_append, List.nil_append, marked_cons bare.1, Mark.ofChar, plain]

/-- The content of a token has the marks of the token. -/
theorem marked_content_append (t : Token) (rest : List Char) :
    marked (t.content ++ rest) = t.marks ++ marked rest := by
  cases t with
  | literal text =>
    change marked (text.flatMap Token.escaped ++ rest) = text.map Mark.plain ++ marked rest
    induction text with
    | nil => rfl
    | cons c text ih =>
      rw [List.flatMap_cons, List.append_assoc, marked_escaped, ih, List.map_cons,
        List.cons_append]
  | field f =>
    obtain ⟨specifier, width, fixed⟩ := f
    change marked (List.replicate width specifier.letter ++ rest) =
      List.replicate width (Mark.letter specifier) ++ marked rest
    induction width with
    | zero => rfl
    | succ width ih =>
      have mark : Mark.ofChar specifier.letter = .letter specifier := by
        rw [Mark.ofChar, Specifier.ofLetter?_letter]
      rw [List.replicate_succ, List.replicate_succ, List.cons_append, List.cons_append,
        marked_cons (letter_ne_escape specifier), ih, mark]

/-- The content of tokens has the marks of the tokens. -/
theorem marked_content (tokens : List Token) :
    marked (tokens.flatMap Token.content) = tokens.flatMap Token.marks := by
  induction tokens with
  | nil => rfl
  | cons t rest ih => rw [List.flatMap_cons, marked_content_append, ih, List.flatMap_cons]

/-- A well-formed program is compiled from its content. -/
theorem compile_content {tokens : List Token} (wellFormed : WellFormed tokens) :
    compile (String.ofList (tokens.flatMap Token.content)) =
      .ok ⟨String.ofList (tokens.flatMap Token.content), tokens⟩ := by
  have back : group (marked (tokens.flatMap Token.content)) = tokens := by
    rw [marked_content, group_marks_of_formed wellFormed.formed]
  have present : String.ofList (tokens.flatMap Token.content) ≠ "" := by
    intro empty
    have none : tokens.flatMap Token.content = [] := by
      simpa using congrArg String.toList empty
    rw [none] at back
    exact wellFormed.nonempty back.symm
  rw [compile_eq_group present, String.toList_ofList, back]

/-- **The canonical pattern is a right inverse of compilation on the well-formed programs, and
these are all that there is.** Every pattern but the empty one is compiled into a well-formed
program, and every well-formed program is compiled from its content. So the canonical pattern of a
compiled format is compiled into the same tokens, and is its own canonical pattern. -/
theorem canonical_right_inverse :
    (∀ pattern : String, pattern ≠ "" → ∃ f, compile pattern = .ok f ∧ WellFormed f.tokens) ∧
    (∀ tokens : List Token, WellFormed tokens →
      ∃ f, compile (String.ofList (tokens.flatMap Token.content)) = .ok f ∧ f.tokens = tokens) ∧
    (∀ (pattern : String) (f : Format), compile pattern = .ok f →
      ∃ g, compile f.canonical = .ok g ∧ g.tokens = f.tokens ∧ g.canonical = f.canonical) := by
  refine ⟨fun pattern present => ?_, fun tokens wellFormed => ?_, fun pattern f compiled => ?_⟩
  · exact ⟨_, compile_eq_group present, wellFormed_of_compile (compile_eq_group present)⟩
  · exact ⟨_, compile_content wellFormed, rfl⟩
  · exact ⟨_, compile_content (wellFormed_of_compile compiled), rfl, rfl⟩

end Format

end PeriodText
