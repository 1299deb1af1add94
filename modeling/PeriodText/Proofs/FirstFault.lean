import PeriodText.Error.Message
import PeriodText.Proofs.Failures

/-!
# Where a text stops to match

A text that does not match its format is refused at its first fault. The tokens before some token
take the text up to the position that the error tells, and there the text does not go on as that
token asks; or all tokens take the text up to the position and there is more of it:
`Format.read_error_position`. What each kind of token asks, and which error says that it was not
met, is told without the reader by `Token.Mismatch`.

A number with more digits than are read is another matter: it matches, and has no position.
-/

set_option autoImplicit false

namespace PeriodText

open Numeral (isDigit digitLimit)
open Text (opens)

/-- The text does not go on as the token asks, and the error is the one that says so. -/
inductive Token.Mismatch (l : Locale) : Token → (text : List Char) → Error → Prop
  /-- The literal is not there. -/
  | literal {expected text : List Char} {e : Error} (differs : ¬expected <+: text)
      (family : e.family = .literalMismatch)
      (expects : e.expected? = some (String.ofList expected)) :
      Mismatch l (.literal expected) text e
  /-- There are too few digits for the fixed width. -/
  | fixedNumber {f : Field} {text : List Char} {e : Error}
      (numeric : f.specifier.style? = none) (fixed : f.fixed = true)
      (few : (text.takeWhile isDigit).length < f.width)
      (family : e.family = .widthMismatch) (expects : e.expected? = some f.label) :
      Mismatch l (.field f) text e
  /-- There is no digit, not even behind a minus sign. -/
  | freeNumber {f : Field} {text : List Char} {e : Error}
      (numeric : f.specifier.style? = none) (free : f.fixed = false)
      (noDigit : opens isDigit text = false) (unsigned : Field.startsSigned text = false)
      (family : e.family = .noDigits) (expects : e.expected? = some f.label) :
      Mismatch l (.field f) text e
  /-- There are no letters, or they are no month's name. -/
  | name {f : Field} {style : NameStyle} {text : List Char} {e : Error}
      (named : f.specifier.style? = some style)
      (unknown : f.word text = [] ∨ l.month? style (f.word text) = none)
      (family : e.family = .unknownMonth) (expects : e.expected? = some f.label) :
      Mismatch l (.field f) text e

/-- The tokens take the text up to the position, and no more of it. -/
def Format.TakesUpTo (l : Locale) (tokens : List Token) (text : List Char) (position : Nat) :
    Prop :=
  ∃ values, readFrom (.ok l) 0 [] tokens text = .ok ⟨values, position, text.drop position⟩

/-! ## One token -/

namespace Field

variable {f : Field} {l : Locale} {position : Nat} {text : List Char} {cause : ReadError}

/-- A text that begins with no digit and no signed one has none for the field. -/
theorem digits_eq_nil_iff (free : f.fixed = false) :
    f.digits text = [] ↔ opens isDigit text = false ∧ startsSigned text = false := by
  have whole (rest : List Char) : f.within rest = rest := if_neg (by simp [free])
  have none (rest : List Char) : rest.takeWhile isDigit = [] ↔ opens isDigit rest = false := by
    cases rest with
    | nil => simp
    | cons c rest => simp [List.takeWhile_cons]
  cases sign : f.takesSign text with
  | true =>
    obtain ⟨-, rest, rfl, digit⟩ := of_takesSign sign
    have starts : startsSigned ('-' :: rest) = true := (Bool.and_eq_true_iff.mp sign).2
    simp [digits, sign, whole, none, digit, starts]
  | false =>
    have unsigned : startsSigned text = false := by simpa [takesSign, free] using sign
    simp [digits, sign, whole, none, unsigned]

/-- A number is refused where the text has too few digits for it, or none. -/
theorem mismatch_of_readNumber (numeric : f.specifier.style? = none) (proper : 1 ≤ f.width)
    (refused : f.readNumber position text = .error (.read cause)) :
    (Error.read cause).position? = some position ∧
      (Token.field f).Mismatch l text (.read cause) := by
  unfold readNumber at refused
  dsimp only at refused
  split at refused
  · next short =>
    obtain ⟨fixed, few⟩ := Bool.and_eq_true_iff.mp short
    cases refused
    refine ⟨rfl, .fixedNumber numeric fixed ?_ rfl rfl⟩
    have unsigned : f.takesSign text = false := by simp [takesSign, fixed]
    rw [decide_eq_true_eq, digits, unsigned, if_neg Bool.false_ne_true, within, if_pos fixed,
      Text.takeWhile_take, List.length_take] at few
    omega
  · next enough =>
    split at refused
    · next none =>
      cases refused
      have free : f.fixed = false := by
        refine Bool.eq_false_iff.mpr fun fixed => enough ?_
        rw [fixed, List.isEmpty_iff.mp none]
        exact decide_eq_true proper
      obtain ⟨noDigit, unsigned⟩ := (digits_eq_nil_iff free).mp (List.isEmpty_iff.mp none)
      exact ⟨rfl, .freeNumber numeric free noDigit unsigned rfl rfl⟩
    · split at refused
      · cases refused
      · split at refused <;> cases refused

/-- A name is refused where the text has no letters, or letters that name no month. -/
theorem mismatch_of_readMonth {style : NameStyle} (named : f.specifier.style? = some style)
    (refused : f.readMonth style (.ok l) position text = .error (.read cause)) :
    (Error.read cause).position? = some position ∧
      (Token.field f).Mismatch l text (.read cause) := by
  unfold readMonth at refused
  dsimp only at refused
  split at refused
  · next none =>
    cases refused
    exact ⟨rfl, .name named (.inl (List.isEmpty_iff.mp none)) rfl rfl⟩
  · rcases bind_eq_error.mp refused with impossible | ⟨_, ⟨⟩, refused⟩
    · cases impossible
    · rcases bind_eq_error.mp refused with unknown | ⟨month, -, impossible⟩
      · unfold Locale.readMonth at unknown
        split at unknown
        · cases unknown
        · next none =>
          cases unknown
          exact ⟨rfl, .name named (.inr none) rfl rfl⟩
      · cases impossible

end Field

/-- **A token is refused** at the position of the text that does not go on as it asks. -/
theorem Token.mismatch_of_read {t : Token} {l : Locale} {position : Nat} {text : List Char}
    {cause : ReadError} {rest : List Token} (fits : t.Fits rest)
    (refused : t.read (.ok l) position text = .error (.read cause)) :
    (Error.read cause).position? = some position ∧ t.Mismatch l text (.read cause) := by
  cases t with
  | literal expected =>
    unfold Token.read at refused
    dsimp only at refused
    split at refused
    · cases refused
    · next differs =>
      cases refused
      refine ⟨rfl, .literal ?_ rfl rfl⟩
      rwa [← List.isPrefixOf_iff_prefix]
  | field f =>
    rcases bind_eq_error.mp refused with inner | ⟨_, -, impossible⟩
    · cases style : f.specifier.style? with
      | some style =>
        simp only [Field.read, style] at inner
        exact Field.mismatch_of_readMonth style inner
      | none =>
        simp only [Field.read, style] at inner
        exact Field.mismatch_of_readNumber style fits.1 inner
    · cases impossible

/-! ## Tokens -/

namespace Format

variable {l : Locale} {tokens : List Token} {position : Nat} {values : FieldValues}
  {text : List Char}

/-- What tokens leave is the text after the characters that they took. -/
theorem exists_taken_of_readFrom {reading : Reading}
    (done : readFrom (.ok l) position values tokens text = .ok reading) :
    ∃ taken, taken ≤ text.length ∧ reading.position = position + taken ∧
      reading.rest = text.drop taken := by
  induction tokens generalizing position values text with
  | nil =>
    cases done
    exact ⟨0, Nat.zero_le _, rfl, rfl⟩
  | cons t tokens ih =>
    obtain ⟨⟨entry, first⟩, here, others⟩ := bind_eq_ok.mp done
    obtain ⟨-, -, short⟩ := Token.isPiece_of_read here
    obtain ⟨taken, inside, reached, left⟩ := ih others
    rw [List.length_drop] at inside
    refine ⟨first + taken, by omega, ?_, ?_⟩
    · rw [reached, Nat.add_assoc]
    · rw [left, List.drop_drop]

/-- Tokens are refused by the first of them that does not read what those before it leave. -/
theorem exists_refused_of_readFrom {locale : Except Error Locale} {e : Error}
    (refused : readFrom locale position values tokens text = .error e) :
    ∃ before t after reading, tokens = before ++ t :: after ∧
      readFrom locale position values before text = .ok reading ∧
      t.read locale reading.position reading.rest = .error e := by
  induction tokens generalizing position values text with
  | nil => cases refused
  | cons t tokens ih =>
    rcases bind_eq_error.mp refused with here | ⟨⟨entry, taken⟩, here, others⟩
    · exact ⟨[], t, tokens, ⟨values, position, text⟩, rfl, rfl, here⟩
    · obtain ⟨before, next, after, reading, rfl, done, there⟩ := ih others
      refine ⟨t :: before, next, after, reading, rfl, ?_, there⟩
      rw [readFrom, here]
      exact done

/-- What was read of a text from its beginning was read up to the position reached. -/
theorem takesUpTo_of_readFrom {reading : Reading}
    (done : readFrom (.ok l) 0 [] tokens text = .ok reading) :
    TakesUpTo l tokens text reading.position ∧ reading.position ≤ text.length ∧
      reading.rest = text.drop reading.position := by
  obtain ⟨taken, inside, reached, left⟩ := exists_taken_of_readFrom done
  obtain ⟨values, position, rest⟩ := reading
  rw [Nat.zero_add] at reached
  dsimp only at reached left ⊢
  subst reached left
  exact ⟨⟨values, done⟩, inside, rfl⟩

/-! ## Texts -/

/-- **A text that does not match is refused at its first fault.** The error tells a position in the
text. Either the tokens before some token take the text up to there, and what follows is no match
for that token; or all tokens do, and text is left. -/
theorem read_error_position {pattern : String} {f : Format} (compiled : compile pattern = .ok f)
    (l : Locale) {text : String} {e : Error} (refused : f.read (.ok l) text = .error e)
    (reading : e.family.lineage.contains .reading = true) :
    ∃ position, e.position? = some position ∧ position ≤ text.length ∧
      ((∃ before t after, f.tokens = before ++ t :: after ∧
          TakesUpTo l before text.toList position ∧
          t.read (.ok l) position (text.toList.drop position) = .error e ∧
          t.Mismatch l (text.toList.drop position) e) ∨
        (TakesUpTo l f.tokens text.toList position ∧ position < text.length ∧
          e.family = .trailingText)) := by
  obtain ⟨cause, rfl⟩ := Error.mem_reading_iff.mp reading
  rw [← String.length_toList]
  rcases bind_eq_error.mp refused with inside | ⟨reached, done, last⟩
  · obtain ⟨before, t, after, reached, split, done, there⟩ := exists_refused_of_readFrom inside
    obtain ⟨takes, short, left⟩ := takesUpTo_of_readFrom done
    have fits : t.Fits after := by
      have formed := (wellFormed_of_compile compiled).formed
      rw [split] at formed
      exact formed.of_append.1
    rw [left] at there
    obtain ⟨here, mismatch⟩ := Token.mismatch_of_read fits there
    exact ⟨_, here, short, .inl ⟨before, t, after, split, takes, there, mismatch⟩⟩
  · obtain ⟨takes, short, left⟩ := takesUpTo_of_readFrom done
    split at last
    · cases last
    · next more =>
      cases last
      refine ⟨reached.position, rfl, short, .inr ⟨takes, ?_, rfl⟩⟩
      rw [left, List.isEmpty_iff, List.drop_eq_nil_iff] at more
      exact Nat.not_le.mp more

/-- A second minus sign with no digit behind it is no month, and that is where the fault is. -/
theorem read_error_position_sign : ∃ f e, compile "yyyy-mm" = .ok f ∧
    f.read (.ok Locale.english) "2018--" = .error e ∧ e.position? = some 5 ∧
    ∃ before t after, f.tokens = before ++ t :: after ∧
      TakesUpTo Locale.english before "2018--".toList 5 ∧ t.Mismatch Locale.english ['-'] e := by
  have compiled : compile "yyyy-mm" = .ok ⟨"yyyy-mm", [.field ⟨.year, 4, true⟩, .literal ['-'],
    .field ⟨.month, 2, false⟩]⟩ := rfl
  have refused : Format.read ⟨"yyyy-mm", [.field ⟨.year, 4, true⟩, .literal ['-'],
      .field ⟨.month, 2, false⟩]⟩ (.ok Locale.english) "2018--" =
    .error (.read (.noDigits "mm" 5)) := rfl
  obtain ⟨position, told, -, located⟩ := read_error_position compiled Locale.english refused rfl
  obtain rfl : 5 = position := Option.some.inj told
  rcases located with ⟨before, t, after, split, takes, -, mismatch⟩ | ⟨-, -, trailing⟩
  · exact ⟨_, _, compiled, refused, rfl, before, t, after, split, takes, mismatch⟩
  · cases trailing

end Format

end PeriodText
