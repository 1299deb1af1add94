import PeriodText.Proofs.FirstFault
import PeriodText.Proofs.Normalisation

/-!
# Which formats read any text

A number of no fixed width takes every digit that there is. So after it nothing can be read that
has to begin with a digit: no field of fixed width, and no literal with a digit in front. A field
directly after another has to begin with a minus sign, in every text that is read.

Formats of numbers that ask for nothing of the kind are `Acceptable`, and these are the ones that
read some text at all: `exists_read_iff`. The text that they read is made of specimens, zeros for a
fixed width and a zero with a sign for any other.
-/

set_option autoImplicit false

namespace PeriodText

open Numeral (digitLimit isDigit)
open Text (opens)

/-! ## Specimens -/

/-- A number that the field reads. -/
def Field.specimen (f : Field) : List Char :=
  -- A number directly before takes all digits, but no sign after them.
  if f.fixed then List.replicate f.width '0' else ['-', '0']

/-- A text that the token reads. -/
def Token.specimen : Token → List Char
  | .field f => f.specimen
  | .literal text => text

/-- The specimen of a number that is not too wide is read before any text without a digit in front,
and that of a fixed width before any text. -/
theorem Field.isNumber_specimen {f : Field} {after : List Char}
    (narrow : f.fixed = true → f.width ≤ digitLimit)
    (stop : f.fixed = false → opens isDigit after = false) : f.IsNumber f.specimen after := by
  unfold IsNumber specimen
  split
  · next fixed =>
    refine ⟨List.length_replicate, ?_, ?_⟩
    · intro c mem
      rw [(List.mem_replicate.mp mem).2]
      rfl
    · rw [List.length_replicate]
      exact narrow fixed
  · next free =>
    exact ⟨['0'], .inr rfl, List.cons_ne_nil _ _, List.forall_mem_singleton.mpr rfl,
      stop (by simpa using free), by decide⟩

namespace Format

/-- Nothing that has to begin with a digit is directly after a number that takes all digits. -/
structure Acceptable (tokens : List Token) : Prop where
  /-- No field of fixed width is directly after another field. -/
  free : ∀ before g h after, tokens = before ++ .field g :: .field h :: after → h.fixed = false
  /-- The literal directly after the last field does not begin with a digit. -/
  stop : ∀ before g text after, tokens = before ++ .field g :: .literal text :: after →
    (∀ h, .field h ∉ after) → opens isDigit text = false

variable {locale : Except Error Locale} {l : Locale} {g : Field} {t : Token} {tokens : List Token}

/-- Fewer tokens ask for no more. -/
theorem Acceptable.tail (acceptable : Acceptable (t :: tokens)) : Acceptable tokens where
  free before g h after split :=
    acceptable.free (t :: before) g h after (congrArg (t :: ·) split)
  stop before g text after split last :=
    acceptable.stop (t :: before) g text after (congrArg (t :: ·) split) last

/-- What follows a field that is not fixed and the literal after it has no field. -/
theorem last_of_free {text : List Char} (formed : Formed (.field g :: .literal text :: tokens))
    (free : g.fixed = false) : tokens = [] := by
  have anchor : anchors (.literal text :: tokens) = false := by rw [← formed.1.2.2, free]
  cases tokens with
  | nil => rfl
  | cons t tokens =>
    cases t with
    | field h => cases anchor
    | literal other => cases formed.2.1.2

/-- After a field that is not fixed, the specimens do not begin with a digit. -/
theorem Acceptable.opens_specimens (acceptable : Acceptable (.field g :: tokens))
    (formed : Formed (.field g :: tokens)) (free : g.fixed = false) :
    opens isDigit (tokens.map Token.specimen).flatten = false := by
  cases tokens with
  | nil => rfl
  | cons t tokens =>
    rw [List.map_cons, List.flatten_cons]
    cases t with
    | field h =>
      have unfixed : h.fixed = false := acceptable.free [] g h tokens rfl
      have signed : h.specimen = ['-', '0'] := if_neg (by simp [unfixed])
      rw [Token.specimen, signed]
      exact Numeral.isDigit_minus
    | literal text =>
      obtain rfl := last_of_free formed free
      rw [Token.specimen, Text.opens_append formed.2.1.1]
      exact acceptable.stop [] g text [] rfl fun _ => List.not_mem_nil

/-- **The specimens of acceptable tokens are read.** -/
theorem Acceptable.pieces_specimen (acceptable : Acceptable tokens) (formed : Formed tokens)
    (numeric : Numeric tokens)
    (narrow : ∀ g, .field g ∈ tokens → g.fixed = true → g.width ≤ digitLimit) :
    Pieces l tokens (tokens.map Token.specimen) [] := by
  induction tokens with
  | nil => trivial
  | cons t tokens ih =>
    have others := ih acceptable.tail formed.2 (fun g mem => numeric g (.tail _ mem))
      fun g mem => narrow g (.tail _ mem)
    refine ⟨?_, others⟩
    rw [List.append_nil]
    cases t with
    | literal text => rfl
    | field g =>
      simp only [Token.IsPiece, Field.IsPiece, numeric g List.mem_cons_self]
      exact Field.isNumber_specimen (narrow g List.mem_cons_self)
        (acceptable.opens_specimens formed)

/-! ## What a text that is read looks like -/

/-- Tokens one after another are read one after another. -/
theorem readFrom_append (tokens others : List Token) (position : Nat) (values : FieldValues)
    (text : List Char) :
    readFrom locale position values (tokens ++ others) text =
      readFrom locale position values tokens text >>= fun reached =>
        readFrom locale reached.position reached.values others reached.rest := by
  induction tokens generalizing position values text with
  | nil => rfl
  | cons t tokens ih =>
    rw [List.cons_append, readFrom, readFrom]
    cases t.read locale position text with
    | error e => rfl
    | ok answer => exact ih _ _ _

/-- Where a number is not fixed, it leaves no digit. -/
theorem stop_of_read {position taken : Nat} {text : List Char} {entry : Option (Kind × Int)}
    (numeric : g.specifier.style? = none) (free : g.fixed = false)
    (done : (Token.field g).read locale position text = .ok (entry, taken)) :
    opens isDigit (text.drop taken) = false := by
  obtain ⟨n, inner, -⟩ := Token.read_field_eq_ok.mp done
  simp only [Field.read, numeric] at inner
  exact (Field.isNumber_of_readNumber inner).1.stop free

/-- Where the text left has no digit in front, a number that is read has a sign, and no fixed
width. -/
theorem signed_of_read {position taken : Nat} {text : List Char} {n : Int}
    (numeric : g.specifier.style? = none) (proper : 1 ≤ g.width)
    (stop : opens isDigit text = false) (done : g.read locale position text = .ok (n, taken)) :
    g.fixed = false ∧ ∃ digits, text.take taken = '-' :: digits := by
  simp only [Field.read, numeric] at done
  have number := (Field.isNumber_of_readNumber done).1
  rw [← List.take_append_drop taken text] at stop
  obtain ⟨free, digits, signed, -⟩ := number.signed proper stop
  exact ⟨free, digits, signed⟩

/-- Two tokens of a text that is read, one directly after the other, are read one after the
other. -/
theorem exists_read_pair {f : Format} {text : String} {values : FieldValues}
    (done : f.read locale text = .ok values) {before after : List Token} {next : Token}
    (split : f.tokens = before ++ t :: next :: after) :
    ∃ (reached : Reading) (first entry : Option (Kind × Int)) (taken length : Nat),
      t.read locale reached.position reached.rest = .ok (first, taken) ∧
      readFrom locale 0 [] (before ++ [t]) text.toList =
        .ok ⟨reached.values.putEntry first, reached.position + taken, reached.rest.drop taken⟩ ∧
      next.read locale (reached.position + taken) (reached.rest.drop taken) =
        .ok (entry, length) := by
  obtain ⟨reading, whole, -⟩ := bind_eq_ok.mp done
  rw [split, readFrom_append] at whole
  obtain ⟨reached, front, back⟩ := bind_eq_ok.mp whole
  obtain ⟨⟨first, taken⟩, here, back⟩ := bind_eq_ok.mp back
  obtain ⟨⟨entry, length⟩, there, -⟩ := bind_eq_ok.mp back
  refine ⟨reached, first, entry, taken, length, here, ?_, there⟩
  rw [readFrom_append, front]
  change readFrom locale reached.position reached.values [t] reached.rest = _
  rw [readFrom, here]
  rfl

/-- **A number directly after another is read with a sign**, so neither has a fixed width. -/
theorem signed_of_adjacent {f : Format} {text : String} {values : FieldValues}
    (formed : Formed f.tokens) (numeric : Numeric f.tokens)
    (done : f.read locale text = .ok values) {before after : List Token} {h : Field}
    (split : f.tokens = before ++ .field g :: .field h :: after) :
    h.fixed = false ∧ ∃ reached n taken digits,
      readFrom locale 0 [] (before ++ [.field g]) text.toList = .ok reached ∧
      h.read locale reached.position reached.rest = .ok (n, taken) ∧
      reached.rest.take taken = '-' :: digits := by
  obtain ⟨reached, first, entry, taken, length, here, front, there⟩ := exists_read_pair done split
  rw [split] at formed numeric
  have fits := formed.of_append
  have free : g.fixed = false := fits.1.2.2
  have stop := stop_of_read (numeric g (by simp)) free here
  obtain ⟨n, inner, -⟩ := Token.read_field_eq_ok.mp there
  obtain ⟨unfixed, digits, signed⟩ := signed_of_read (numeric h (by simp)) fits.2.1.1 stop inner
  exact ⟨unfixed, _, n, _, digits, front, inner, signed⟩

/-- **Only formats of acceptable tokens read a text.** -/
theorem acceptable_of_read {f : Format} {text : String} {values : FieldValues}
    (formed : Formed f.tokens) (numeric : Numeric f.tokens)
    (done : f.read locale text = .ok values) : Acceptable f.tokens where
  free _ _ _ _ split := (signed_of_adjacent formed numeric done split).1
  stop before g literal after split last := by
    obtain ⟨reached, first, entry, taken, length, here, -, there⟩ := exists_read_pair done split
    rw [split] at formed numeric
    have fits := formed.of_append
    have free : g.fixed = false := by
      rw [fits.1.2.2]
      cases after with
      | nil => rfl
      | cons next after =>
        cases next with
        | literal other => rfl
        | field h => exact absurd List.mem_cons_self (last h)
    have stop := stop_of_read (numeric g (by simp)) free here
    obtain ⟨⟨rest, whole⟩, -⟩ := Token.read_literal_eq_ok.mp there
    rwa [← whole, Text.opens_append fits.2.1.1] at stop

/-- The sign of a number directly after another stands in the text. -/
theorem minus_mem_of_adjacent {f : Format} {text : String} {values : FieldValues}
    (formed : Formed f.tokens) (numeric : Numeric f.tokens)
    (done : f.read locale text = .ok values) {before after : List Token} {h : Field}
    (split : f.tokens = before ++ .field g :: .field h :: after) : '-' ∈ text.toList := by
  rw [read_of_numeric numeric locale (.ok Locale.english)] at done
  obtain ⟨-, reached, -, taken, digits, front, -, signed⟩ :=
    signed_of_adjacent formed numeric done split
  obtain ⟨-, -, left⟩ := takesUpTo_of_readFrom front
  have mem : '-' ∈ reached.rest.take taken := by
    rw [signed]
    exact List.mem_cons_self
  rw [left] at mem
  exact List.mem_of_mem_drop (List.mem_of_mem_take mem)

/-- **Which formats of numbers read any text.** A compiled format of numbers, with no fixed width
that is more than the digits that are read, reads some text exactly if no field of fixed width is
directly after another field and the literal directly after the last field does not begin with a
digit. And whatever text it reads, a field directly after another is read from a piece that begins
with a minus sign, so that the text is not without one. -/
theorem exists_read_iff {pattern : String} {f : Format} (compiled : compile pattern = .ok f)
    (numeric : ∀ g ∈ f.fields, g.isWord = false)
    (narrow : ∀ g ∈ f.fields, g.fixed = true → g.width ≤ digitLimit)
    (locale : Except Error Locale) :
    ((∃ text values, f.read locale text = .ok values) ↔ Acceptable f.tokens) ∧
    ∀ text values, f.read locale text = .ok values → ∀ before g h after,
      f.tokens = before ++ .field g :: .field h :: after →
        '-' ∈ text.toList ∧ ∃ reached n taken digits,
          readFrom locale 0 [] (before ++ [.field g]) text.toList = .ok reached ∧
          h.read locale reached.position reached.rest = .ok (n, taken) ∧
          reached.rest.take taken = '-' :: digits := by
  have formed := (wellFormed_of_compile compiled).formed
  have numbers : Numeric f.tokens := fun g mem =>
    Field.isWord_eq_false.mp (numeric g (mem_fields.mpr mem))
  refine ⟨⟨?_, ?_⟩, ?_⟩
  · rintro ⟨text, values, done⟩
    exact acceptable_of_read formed numbers done
  · intro acceptable
    have cut : Pieces Locale.english f.tokens (f.tokens.map Token.specimen) [] :=
      acceptable.pieces_specimen formed numbers fun g mem => narrow g (mem_fields.mpr mem)
    obtain ⟨text, whole⟩ : ∃ text : String,
        (f.tokens.map Token.specimen).flatten = text.toList := ⟨_, String.toList_ofList.symm⟩
    have done := read_of_split formed ⟨whole, cut⟩
    rw [read_of_numeric numbers (.ok Locale.english) locale] at done
    exact ⟨text, _, done⟩
  · intro text values done before g h after split
    exact ⟨minus_mem_of_adjacent formed numbers done split,
      (signed_of_adjacent formed numbers done split).2⟩

/-- Year, month and day without literals are read, but only with signs between them. With a literal
before the day, the month is of fixed width and takes no sign, and nothing is read at all. -/
theorem exists_read_iff_dense : ∃ f g, compile "yyyymmdd" = .ok f ∧ compile "yyyymm-dd" = .ok g ∧
    Acceptable f.tokens ∧
    (∀ text values, f.read (.ok Locale.english) text = .ok values → '-' ∈ text.toList) ∧
    ¬∃ text values, g.read (.ok Locale.english) text = .ok values := by
  let f : Format := ⟨"yyyymmdd", [.field ⟨.year, 4, false⟩, .field ⟨.month, 2, false⟩,
    .field ⟨.day, 2, false⟩]⟩
  let g : Format := ⟨"yyyymm-dd", [.field ⟨.year, 4, false⟩, .field ⟨.month, 2, true⟩,
    .literal ['-'], .field ⟨.day, 2, false⟩]⟩
  have dense : compile "yyyymmdd" = .ok f := rfl
  have pinned : compile "yyyymm-dd" = .ok g := rfl
  have done : f.read (.ok Locale.english) "2018-3-5" =
      .ok [(.year, 2018), (.month, -3), (.day, -5)] := rfl
  obtain ⟨accepts, signed⟩ :=
    exists_read_iff dense (by decide) (by decide) (.ok Locale.english)
  refine ⟨f, g, dense, pinned, accepts.mp ⟨_, _, done⟩, ?_, ?_⟩
  · intro text values done
    exact (signed text values done [] _ _ _ rfl).1
  · intro some
    have acceptable := (exists_read_iff pinned (by decide) (by decide) _).1.mp some
    cases acceptable.free [] _ _ _ rfl

end Format

end PeriodText
