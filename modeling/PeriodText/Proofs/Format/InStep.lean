import PeriodText.Proofs.Format.Grammar
import PeriodText.Proofs.Format.Rendering
import PeriodText.Proofs.Locale.Legible
import Mathlib.Data.List.Chain

/-!
# Writing and reading in step

What a value is written as is read back only if the reader stops where the writer did. It need not:
digits that follow a number are taken with it, and what does not fit a fixed width is cut. When
nothing of the kind happens the value is `InStep` with the tokens, and then the pieces that were
written are the ones that are read: `pieces_of_inStep`.

A literal is no help where it begins with what the field before it would take as well, so tokens
are assumed to be `Separated`. Then a piece is only followed by what its field would take if a
field writes it (`opens_isDigit_iff`, `opens_isLetter_iff`).
-/

set_option autoImplicit false

namespace PeriodText

open Numeral (digitLimit isDigit magnitude paddedText)
open Text (opens isLetter)

namespace Field

/-- A number before the next token is such that the reader takes just it. -/
structure NumberInStep (f : Field) (v : Value) (n : Int) (next : Option Token) : Prop where
  /-- In a fixed width there is room for it, and none for a sign. -/
  fits : f.fixed = true → 0 ≤ n ∧ n < 10 ^ f.width
  /-- It is not written with more digits than are read. -/
  readable : (magnitude f.width n).length ≤ digitLimit
  /-- A number directly after it has a sign. -/
  signed : ∀ g m, next = some (.field g) → g.isWord = false → v.field g.kind = .ok m → m < 0

/-- A name before the next token is such that the reader takes just it. -/
structure NameInStep (f : Field) (name : List Char) (next : Option Token) : Prop where
  /-- In a fixed width there is room for it. -/
  fits : f.fixed = true → name.length ≤ f.width
  /-- No name is directly after it. -/
  apart : ∀ g, next = some (.field g) → g.isWord = false

end Field

namespace Token

/-- The other token is no literal that begins with what the token takes. -/
def Apart : Token → Token → Prop
  | field f, literal text => opens (if f.isWord then isLetter else isDigit) text = false
  | _, _ => True

/-- What is written for the token, before the next one, is such that the reader takes just it. -/
def InStep (l : Locale) (v : Value) : Token → (next : Option Token) → Prop
  | literal _, _ => True
  | field f, next =>
    (f.isWord = false → ∀ n, v.field f.kind = .ok n → f.NumberInStep v n next) ∧
      ∀ style n name, f.specifier.style? = some style → v.field f.kind = .ok n →
        l.monthName style n = .ok name → f.NameInStep name.toList next

end Token

namespace Format

/-- No literal directly after a number begins with a digit, and none directly after a name begins
with a letter. -/
def Separated (tokens : List Token) : Prop := tokens.IsChain Token.Apart

/-- What is written for each token is such that the reader takes just it. -/
def InStep (l : Locale) (v : Value) : List Token → Prop
  | [] => True
  | t :: rest => t.InStep l v rest.head? ∧ InStep l v rest

end Format

/-! ## The two forms of a field -/

namespace Field

theorem isWord_eq_false {f : Field} : f.isWord = false ↔ f.specifier.style? = none := by
  rw [isWord, Option.isSome_eq_false_iff, Option.isNone_iff_eq_none]

theorem isWord_of_style {f : Field} {style : NameStyle}
    (named : f.specifier.style? = some style) : f.isWord = true := by
  rw [isWord, named]
  rfl

end Field

namespace Token

variable {l : Locale} {v : Value} {f : Field} {next : Option Token}

/-- A number is in step as the number that it is. -/
theorem inStep_number (numeric : f.specifier.style? = none) {n : Int}
    (given : v.field f.kind = .ok n) :
    (field f).InStep l v next ↔ f.NumberInStep v n next := by
  constructor
  · intro step
    exact step.1 (Field.isWord_eq_false.mpr numeric) n given
  · intro step
    refine ⟨?_, ?_⟩
    · intro _ m other
      cases given.symm.trans other
      exact step
    · intro style m name named
      rw [numeric] at named
      cases named

/-- A name is in step as the name that it is. -/
theorem inStep_name {style : NameStyle} (named : f.specifier.style? = some style) {n : Int}
    {name : String} (given : v.field f.kind = .ok n) (known : l.monthName style n = .ok name) :
    (field f).InStep l v next ↔ f.NameInStep name.toList next := by
  constructor
  · intro step
    exact step.2 style n name named given known
  · intro step
    refine ⟨?_, ?_⟩
    · intro numeric
      rw [Field.isWord_of_style named] at numeric
      cases numeric
    · intro other m spelt named' given' known'
      cases named.symm.trans named'
      cases given.symm.trans given'
      cases known.symm.trans known'
      exact step

end Token

/-! ## How a written text begins -/

namespace Format

variable {l : Locale} {v : Value} {tokens : List Token} {pieces : List (List Char)}

/-- What is written for a number begins with a digit if it is not negative, and with no letter. -/
theorem opens_number {f : Field} (numeric : f.specifier.style? = none) {piece : List Char}
    (written : (Token.field f).render (.ok l) v = .ok piece) (rest : List Char) :
    (opens isDigit (piece ++ rest) = true ↔ ∃ n, v.field f.kind = .ok n ∧ 0 ≤ n) ∧
      opens isLetter (piece ++ rest) = false := by
  obtain ⟨n, given, -, rfl⟩ := (Field.render_number numeric).mp written
  refine ⟨?_, Numeral.opens_isLetter_paddedText f.width n rest⟩
  rw [Numeral.opens_isDigit_paddedText, decide_eq_true_eq]
  constructor
  · intro nonnegative
    exact ⟨n, given, nonnegative⟩
  · rintro ⟨m, given', nonnegative⟩
    cases given.symm.trans given'
    exact nonnegative

/-- What is written for a name begins with a letter, and with no digit. -/
theorem opens_name (legible : l.Legible) {f : Field} {style : NameStyle}
    (named : f.specifier.style? = some style) {piece : List Char}
    (written : (Token.field f).render (.ok l) v = .ok piece) (rest : List Char) :
    opens isDigit (piece ++ rest) = false ∧ opens isLetter (piece ++ rest) = true := by
  obtain ⟨n, name, given, known, rfl⟩ := (Field.render_name named).mp written
  obtain ⟨present, inside⟩ := legible.word_of_monthName known
  have letter := Text.opens_run inside present rest
  exact ⟨Numeral.opens_isDigit_of_isLetter letter, letter⟩

/-- A written text begins with a digit exactly if a number that is not negative is written first,
or a literal with a digit. -/
theorem opens_isDigit_iff (legible : l.Legible) (written : Written (.ok l) v tokens pieces)
    (formed : Formed tokens)
    (apart : ∀ text, tokens.head? = some (.literal text) → opens isDigit text = false) :
    opens isDigit pieces.flatten = true ↔ ∃ g m, tokens.head? = some (.field g) ∧
      g.isWord = false ∧ v.field g.kind = .ok m ∧ 0 ≤ m := by
  cases written with
  | nil => simp
  | @cons t piece tokens pieces first others =>
    rw [List.flatten_cons, List.head?_cons]
    cases t with
    | literal text =>
      cases first
      rw [Text.opens_append formed.1.1, apart _ rfl]
      simp
    | field f =>
      cases style : f.specifier.style? with
      | some style =>
        rw [(opens_name legible style first _).1]
        constructor
        · intro digit
          cases digit
        · rintro ⟨g, m, ⟨⟩, numeric, -⟩
          rw [Field.isWord_of_style style] at numeric
          cases numeric
      | none =>
        rw [(opens_number style first _).1]
        constructor
        · rintro ⟨n, given, nonnegative⟩
          exact ⟨f, n, rfl, Field.isWord_eq_false.mpr style, given, nonnegative⟩
        · rintro ⟨g, m, ⟨⟩, -, given, nonnegative⟩
          exact ⟨m, given, nonnegative⟩

/-- A written text begins with a letter exactly if a name is written first, or a literal with a
letter. -/
theorem opens_isLetter_iff (legible : l.Legible) (written : Written (.ok l) v tokens pieces)
    (formed : Formed tokens)
    (apart : ∀ text, tokens.head? = some (.literal text) → opens isLetter text = false) :
    opens isLetter pieces.flatten = true ↔
      ∃ g, tokens.head? = some (.field g) ∧ g.isWord = true := by
  cases written with
  | nil => simp
  | @cons t piece tokens pieces first others =>
    rw [List.flatten_cons, List.head?_cons]
    cases t with
    | literal text =>
      cases first
      rw [Text.opens_append formed.1.1, apart _ rfl]
      simp
    | field f =>
      cases style : f.specifier.style? with
      | some style =>
        rw [(opens_name legible style first _).2]
        exact ⟨fun _ => ⟨f, rfl, Field.isWord_of_style style⟩, fun _ => rfl⟩
      | none =>
        rw [(opens_number style first _).2]
        constructor
        · intro letter
          cases letter
        · rintro ⟨g, ⟨⟩, named⟩
          rw [Field.isWord_eq_false.mpr style] at named
          cases named

/-! ## In step, the written pieces are read -/

/-- The literal after a number does not begin with a digit. -/
theorem Separated.number {f : Field} (separated : Separated (.field f :: tokens))
    (numeric : f.specifier.style? = none) (text : List Char)
    (next : tokens.head? = some (.literal text)) : opens isDigit text = false := by
  have apart := (List.isChain_cons.mp separated).1 _ next
  rwa [Token.Apart, Field.isWord_eq_false.mpr numeric, if_neg Bool.false_ne_true] at apart

/-- The literal after a name does not begin with a letter. -/
theorem Separated.name {f : Field} (separated : Separated (.field f :: tokens))
    {style : NameStyle} (named : f.specifier.style? = some style) (text : List Char)
    (next : tokens.head? = some (.literal text)) : opens isLetter text = false := by
  have apart := (List.isChain_cons.mp separated).1 _ next
  rwa [Token.Apart, Field.isWord_of_style named, if_pos rfl] at apart

/-- A number in step is a number that the reader takes. -/
theorem isNumber_of_inStep {f : Field} {n : Int} {next : Option Token} {after : List Char}
    (step : f.NumberInStep v n next) (proper : 1 ≤ f.width)
    (stop : opens isDigit after = false) : f.IsNumber (paddedText f.width n) after := by
  have inside : ∀ c ∈ magnitude f.width n, isDigit c = true := fun _ =>
    Numeral.isDigit_of_mem_magnitude
  rw [Field.IsNumber]
  split
  · next fixed =>
    obtain ⟨nonnegative, small⟩ := step.fits fixed
    rw [Numeral.paddedText_of_nonneg nonnegative]
    have length := (Numeral.length_magnitude_eq_iff proper).mpr
      ((Numeral.natAbs_lt_pow_iff nonnegative).mpr small)
    exact ⟨length, inside, step.readable⟩
  · refine ⟨magnitude f.width n, ?_, Numeral.magnitude_ne_nil _ _, inside, stop, step.readable⟩
    by_cases negative : n < 0
    · exact .inr (Numeral.paddedText_of_neg negative)
    · exact .inl (Numeral.paddedText_of_nonneg (Int.not_lt.mp negative))

/-- A name in step is a name that the reader takes. -/
theorem isName_of_inStep (legible : l.Legible) {f : Field} {style : NameStyle} {n : Int}
    {name : String} (known : l.monthName style n = .ok name) {next : Option Token}
    {after : List Char} (step : f.NameInStep name.toList next)
    (stop : opens isLetter after = false) : f.IsName l style name.toList after := by
  obtain ⟨present, inside⟩ := legible.word_of_monthName known
  refine ⟨present, inside, ?_, step.fits, ?_⟩
  · intro letter
    rw [stop] at letter
    cases letter
  · rw [legible.month?_of_monthName known]
    rfl

/-- **In step, the pieces that were written are the ones that are read.** -/
theorem pieces_of_inStep (legible : l.Legible) (formed : Formed tokens)
    (separated : Separated tokens) (written : Written (.ok l) v tokens pieces)
    (step : InStep l v tokens) : Pieces l tokens pieces [] := by
  induction written with
  | nil => trivial
  | @cons t piece tokens pieces first others ih =>
    have rest := ih formed.2 (List.isChain_cons.mp separated).2 step.2
    refine ⟨?_, rest⟩
    rw [List.append_nil]
    cases t with
    | literal text => exact (Except.ok.inj first).symm
    | field f =>
      cases style : f.specifier.style? with
      | none =>
        obtain ⟨n, given, -, rfl⟩ := (Field.render_number style).mp first
        have numberStep := (Token.inStep_number style given).mp step.1
        have stop : opens isDigit pieces.flatten = false := by
          refine Bool.eq_false_iff.mpr fun digit => ?_
          obtain ⟨g, m, next, numeric, other, nonnegative⟩ :=
            (opens_isDigit_iff legible others formed.2 (separated.number style)).mp digit
          exact Int.not_lt.mpr nonnegative (numberStep.signed g m next numeric other)
        simp only [Token.IsPiece, Field.IsPiece, style]
        exact isNumber_of_inStep numberStep formed.1.1 stop
      | some style' =>
        obtain ⟨n, name, given, known, rfl⟩ := (Field.render_name style).mp first
        have nameStep := (Token.inStep_name style given known).mp step.1
        have stop : opens isLetter pieces.flatten = false := by
          refine Bool.eq_false_iff.mpr fun letter => ?_
          obtain ⟨g, next, named⟩ :=
            (opens_isLetter_iff legible others formed.2 (separated.name style)).mp letter
          rw [nameStep.apart g next] at named
          cases named
        simp only [Token.IsPiece, Field.IsPiece, style]
        exact isName_of_inStep legible known nameStep stop

end Format

end PeriodText
