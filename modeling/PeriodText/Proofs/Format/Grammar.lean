import PeriodText.Locale.Builtin
import PeriodText.Proofs.Answer
import PeriodText.Proofs.FieldValues
import PeriodText.Proofs.Format.Canonical
import PeriodText.Proofs.Numeral.Digits

/-!
# The grammar of a format

What a text has to look like to be read in a format, said without the reader. The text is cut into
pieces, one for each token, and a piece has to suit its token and what follows it: a literal is
itself, a fixed number has exactly its width of digits, any other number takes every digit that
there is, and a name takes every letter up to its width and is known to the locale.

The reader takes exactly the pieces (`Token.read_of_isPiece`, `Token.isPiece_of_read`), and so
accepts exactly the texts that have such a cut: `read_iff_split`. As the reader leaves no choice,
there is at most one.
-/

set_option autoImplicit false

namespace PeriodText

open Numeral (isDigit digitLimit ofDigits isDigit_minus)
open Text (opens isLetter)

/-- The integer that a numeric piece stands for. -/
def Numeral.ofPiece : List Char → Int
  | '-' :: digits => -(ofDigits digits : Int)
  | digits => ofDigits digits

namespace Field

/-- The text is a number that the field takes when the other text follows. -/
def IsNumber (f : Field) (piece after : List Char) : Prop :=
  if f.fixed then
    piece.length = f.width ∧ (∀ c ∈ piece, isDigit c = true) ∧ piece.length ≤ digitLimit
  else
    ∃ digits, (piece = digits ∨ piece = '-' :: digits) ∧ digits ≠ [] ∧
      (∀ c ∈ digits, isDigit c = true) ∧ opens isDigit after = false ∧
      digits.length ≤ digitLimit

/-- The text is a name of the style that the field takes when the other text follows. -/
def IsName (f : Field) (l : Locale) (style : NameStyle) (piece after : List Char) : Prop :=
  piece ≠ [] ∧ (∀ c ∈ piece, isLetter c = true) ∧
    (opens isLetter after = true → f.fixed = true ∧ piece.length = f.width) ∧
    (f.fixed = true → piece.length ≤ f.width) ∧ (l.month? style piece).isSome

/-- The text is what the field takes when the other text follows. -/
def IsPiece (f : Field) (l : Locale) (piece after : List Char) : Prop :=
  match f.specifier.style? with
  | some style => f.IsName l style piece after
  | none => f.IsNumber piece after

/-- The value of the field that a piece gives. -/
def pieceValue (f : Field) (l : Locale) (piece : List Char) : Int :=
  match f.specifier.style? with
  | some style => ((l.month? style piece).getD 0 : Nat)
  | none => Numeral.ofPiece piece

end Field

namespace Token

/-- The text is what the token takes when the other text follows. -/
def IsPiece (l : Locale) : Token → (piece after : List Char) → Prop
  | field f, piece, after => f.IsPiece l piece after
  | literal text, piece, _ => piece = text

/-- What a piece says of a field, if its token is one. -/
def entry (l : Locale) : Token → List Char → Option (Kind × Int)
  | field f, piece => some (f.kind, f.pieceValue l piece)
  | literal _, _ => none

end Token

namespace Format

/-- The pieces are what the tokens take, one after another, when the other text follows them. -/
def Pieces (l : Locale) : List Token → List (List Char) → (after : List Char) → Prop
  | [], [], _ => True
  | t :: tokens, piece :: pieces, after =>
    t.IsPiece l piece (pieces.flatten ++ after) ∧ Pieces l tokens pieces after
  | [], _ :: _, _ => False
  | _ :: _, [], _ => False

/-- The pieces are a cut of the whole text into what the tokens take. -/
def Split (l : Locale) (tokens : List Token) (pieces : List (List Char)) (text : List Char) :
    Prop :=
  pieces.flatten = text ∧ Pieces l tokens pieces []

/-- What the pieces say of the fields, in order. -/
def entries (l : Locale) (tokens : List Token) (pieces : List (List Char)) : List (Kind × Int) :=
  (tokens.zip pieces).filterMap fun (t, piece) => t.entry l piece

end Format

/-! ## Numbers -/

namespace Field

/-- A text that begins with a digit has no sign to take. -/
theorem takesSign_of_opens {f : Field} {text : List Char} (digit : opens isDigit text = true) :
    f.takesSign text = false := by
  cases text with
  | nil => cases digit
  | cons c rest =>
    have unsigned : c ≠ '-' := by
      rintro rfl
      exact absurd digit (by simp [isDigit_minus])
    unfold takesSign startsSigned
    split
    · next first => exact absurd (List.cons.inj first).1 unsigned
    · exact Bool.and_false _

/-- A sign before a digit is taken unless the width is fixed. -/
theorem takesSign_minus {f : Field} {digits : List Char} (free : f.fixed = false)
    (digit : opens isDigit digits = true) : f.takesSign ('-' :: digits) = true := by
  cases digits with
  | nil => cases digit
  | cons c rest =>
    rw [takesSign, free]
    exact digit

/-- A sign is taken only from in front of a digit, and only if the width is not fixed. -/
theorem of_takesSign {f : Field} {text : List Char} (sign : f.takesSign text = true) :
    f.fixed = false ∧ ∃ rest, text = '-' :: rest ∧ opens isDigit rest = true := by
  obtain ⟨free, starts⟩ := Bool.and_eq_true_iff.mp sign
  refine ⟨by simpa using free, ?_⟩
  unfold startsSigned at starts
  split at starts
  · exact ⟨_, rfl, starts⟩
  · cases starts

/-- The number of a text that begins with digits. -/
theorem ofPiece_of_opens {piece : List Char} (digit : opens isDigit piece = true) :
    Numeral.ofPiece piece = ofDigits piece := by
  unfold Numeral.ofPiece
  split
  · exact absurd digit (by simp [isDigit_minus])
  · rfl

/-- **A number is read as the integer it stands for.** -/
theorem readNumber_of_isNumber {f : Field} {piece after : List Char} (proper : 1 ≤ f.width)
    (number : f.IsNumber piece after) (position : Nat) :
    f.readNumber position (piece ++ after) = .ok (Numeral.ofPiece piece, piece.length) := by
  cases fixed : f.fixed with
  | true =>
    rw [IsNumber, if_pos fixed] at number
    obtain ⟨length, inside, short⟩ := number
    have present : piece ≠ [] := by
      rintro rfl
      exact absurd length (by simp; omega)
    have unsigned : f.takesSign (piece ++ after) = false :=
      takesSign_of_opens (Text.opens_run inside present after)
    have digits : f.digits (piece ++ after) = piece := by
      rw [Field.digits, unsigned, if_neg Bool.false_ne_true, within, if_pos fixed, ← length,
        List.take_left, Text.takeWhile_eq_self inside]
    have opening : opens isDigit piece = true := Text.opens_of_run inside present
    have enough : ¬(f.fixed && decide (piece.length < f.width)) = true := by simp [length]
    simp only [readNumber, digits, unsigned, if_neg enough, List.isEmpty_iff, if_neg present,
      if_neg (Nat.not_lt.mpr short), if_neg Bool.false_ne_true, ofPiece_of_opens opening]
  | false =>
    rw [IsNumber, if_neg (by simp [fixed])] at number
    obtain ⟨digits, shape, present, inside, stop, short⟩ := number
    have enough : ¬(f.fixed && decide (digits.length < f.width)) = true := by simp [fixed]
    have opening (rest : List Char) : opens isDigit (digits ++ rest) = true :=
      Text.opens_run inside present rest
    have taken : f.digits (piece ++ after) = digits := by
      rw [Field.digits, within, if_neg (by simp [fixed])]
      rcases shape with rfl | rfl
      · rw [takesSign_of_opens (opening after), if_neg Bool.false_ne_true,
          Text.takeWhile_run inside stop]
      · rw [List.cons_append, takesSign_minus fixed (opening after), if_pos rfl, List.drop_one,
          List.tail_cons, Text.takeWhile_run inside stop]
    simp only [readNumber, taken, if_neg enough, List.isEmpty_iff, if_neg present,
      if_neg (Nat.not_lt.mpr short)]
    rcases shape with rfl | rfl
    · rw [takesSign_of_opens (opening after), if_neg Bool.false_ne_true,
        ofPiece_of_opens (Text.opens_of_run inside present)]
    · rw [List.cons_append, takesSign_minus fixed (opening after), if_pos rfl]
      rfl

/-- **Only a number is read.** -/
theorem isNumber_of_readNumber {f : Field} {position taken : Nat} {text : List Char} {n : Int}
    (read : f.readNumber position text = .ok (n, taken)) :
    f.IsNumber (text.take taken) (text.drop taken) ∧ n = Numeral.ofPiece (text.take taken) ∧
      taken ≤ text.length := by
  unfold readNumber at read
  dsimp only at read
  split at read
  · cases read
  next enough =>
  split at read
  · cases read
  next present =>
  split at read
  · cases read
  next short =>
  rw [List.isEmpty_iff] at present
  have inside : ∀ c ∈ f.digits text, isDigit c = true := fun _ => Text.of_mem_takeWhile
  split at read
  · next sign =>
    obtain ⟨free, rest, rfl, -⟩ := of_takesSign sign
    have digits : f.digits ('-' :: rest) = rest.takeWhile isDigit := by
      rw [Field.digits, sign, if_pos rfl, within, if_neg (by simp [free]), List.drop_one,
        List.tail_cons]
    rw [digits] at read present short inside
    obtain ⟨rfl, rfl⟩ := Prod.mk.inj (Except.ok.inj read)
    rw [List.take_succ_cons, List.drop_succ_cons, Text.take_length_takeWhile,
      Text.drop_length_takeWhile]
    refine ⟨?_, rfl, Nat.succ_le_succ (List.takeWhile_prefix isDigit).length_le⟩
    rw [IsNumber, if_neg (by simp [free])]
    exact ⟨_, .inr rfl, present, inside, Text.opens_dropWhile rest, Nat.not_lt.mp short⟩
  · next unsigned =>
    have digits : f.digits text = (f.within text).takeWhile isDigit := by
      rw [Field.digits, if_neg unsigned]
    have first : f.digits text <+: text := by
      rw [digits, within]
      split
      · exact (List.takeWhile_prefix isDigit).trans (List.take_prefix f.width text)
      · exact List.takeWhile_prefix isDigit
    obtain ⟨rfl, rfl⟩ := Prod.mk.inj (Except.ok.inj read)
    rw [← List.prefix_iff_eq_take.mp first]
    have opening : opens isDigit (f.digits text) = true := Text.opens_of_run inside present
    refine ⟨?_, (ofPiece_of_opens opening).symm, first.length_le⟩
    rw [IsNumber]
    split
    · next fixed =>
      refine ⟨?_, inside, Nat.not_lt.mp short⟩
      have most : (f.digits text).length ≤ f.width := by
        rw [digits, within, if_pos fixed]
        exact Nat.le_trans (List.takeWhile_prefix isDigit).length_le
          (List.length_take_le f.width text)
      have least : f.width ≤ (f.digits text).length := by simpa [fixed] using enough
      exact Nat.le_antisymm most least
    · next free =>
      refine ⟨_, .inl rfl, present, inside, ?_, Nat.not_lt.mp short⟩
      rw [digits, within, if_neg free, Text.drop_length_takeWhile]
      exact Text.opens_dropWhile text

/-- A number is at least one digit, perhaps behind a minus sign if its width is not fixed. -/
theorem IsNumber.digits {f : Field} {piece after : List Char} (proper : 1 ≤ f.width)
    (number : f.IsNumber piece after) :
    ∃ digits, (piece = digits ∨ piece = '-' :: digits ∧ f.fixed = false) ∧ digits ≠ [] ∧
      (∀ c ∈ digits, isDigit c = true) ∧ digits.length ≤ digitLimit := by
  rw [IsNumber] at number
  split at number
  · obtain ⟨length, inside, short⟩ := number
    refine ⟨piece, .inl rfl, ?_, inside, short⟩
    rintro rfl
    rw [List.length_nil] at length
    omega
  · next free =>
    obtain ⟨digits, shape, present, inside, -, short⟩ := number
    refine ⟨digits, ?_, present, inside, short⟩
    rcases shape with plain | signed
    · exact .inl plain
    · exact .inr ⟨signed, by simpa using free⟩

/-- A number takes something. -/
theorem IsNumber.ne_nil {f : Field} {piece after : List Char} (proper : 1 ≤ f.width)
    (number : f.IsNumber piece after) : piece ≠ [] := by
  obtain ⟨digits, plain | signed, present, -, -⟩ := number.digits proper
  · rwa [plain]
  · rw [signed.1]
    exact List.cons_ne_nil _ _

/-- A number that is not fixed takes every digit. -/
theorem IsNumber.stop {f : Field} {piece after : List Char} (number : f.IsNumber piece after)
    (free : f.fixed = false) : opens isDigit after = false := by
  rw [IsNumber, if_neg (by simp [free])] at number
  obtain ⟨_, -, -, -, stop, -⟩ := number
  exact stop

/-- A number from a text that does not begin with a digit has a sign, so its width is not fixed. -/
theorem IsNumber.signed {f : Field} {piece after : List Char} (proper : 1 ≤ f.width)
    (number : f.IsNumber piece after) (stop : opens isDigit (piece ++ after) = false) :
    f.fixed = false ∧ ∃ digits, piece = '-' :: digits ∧ ∀ c ∈ digits, isDigit c = true := by
  obtain ⟨digits, shape, present, inside, -⟩ := number.digits proper
  rcases shape with rfl | ⟨rfl, free⟩
  · rw [Text.opens_run inside present after] at stop
    cases stop
  · exact ⟨free, digits, rfl, inside⟩

/-! ## Names -/

/-- The letters that the field takes from a name and what follows it are the name. -/
theorem word_of_isName {f : Field} {l : Locale} {style : NameStyle} {piece after : List Char}
    (name : f.IsName l style piece after) : f.word (piece ++ after) = piece := by
  obtain ⟨-, inside, bound, short, -⟩ := name
  cases fixed : f.fixed with
  | false =>
    have stop : opens isLetter after = false := by
      refine Bool.eq_false_iff.mpr fun letter => ?_
      rw [fixed] at bound
      cases (bound letter).1
    rw [word, within, if_neg (by simp [fixed]), Text.takeWhile_run inside stop]
  | true =>
    rw [word, within, if_pos fixed, List.take_append, List.take_of_length_le (short fixed)]
    rcases Nat.eq_or_lt_of_le (short fixed) with full | less
    · rw [full, Nat.sub_self, List.take_zero, List.append_nil, Text.takeWhile_eq_self inside]
    · have stop : opens isLetter after = false :=
        Bool.eq_false_iff.mpr fun letter => absurd (bound letter).2 (Nat.ne_of_lt less)
      rw [Text.takeWhile_run inside]
      rw [Text.opens_take (Nat.sub_pos_of_lt less), stop]

/-- The letters that the field takes are the front of the text. -/
theorem word_prefix (f : Field) (text : List Char) : f.word text <+: text := by
  rw [word, within]
  split
  · exact (List.takeWhile_prefix isLetter).trans (List.take_prefix f.width text)
  · exact List.takeWhile_prefix isLetter

/-- The field leaves no letter, unless it has taken as many as it may. -/
theorem opens_after_word {f : Field} {text : List Char}
    (letter : opens isLetter (text.drop (f.word text).length) = true) :
    f.fixed = true ∧ (f.word text).length = f.width := by
  cases fixed : f.fixed with
  | false =>
    rw [word, within, if_neg (by simp [fixed]), Text.drop_length_takeWhile,
      Text.opens_dropWhile] at letter
    cases letter
  | true =>
    refine ⟨rfl, ?_⟩
    rw [word, within, if_pos fixed] at letter ⊢
    have most : ((text.take f.width).takeWhile isLetter).length ≤ f.width :=
      Nat.le_trans (List.takeWhile_prefix isLetter).length_le (List.length_take_le f.width text)
    rcases Nat.eq_or_lt_of_le most with full | less
    · exact full
    · rw [← Text.opens_take (Nat.sub_pos_of_lt less), ← List.drop_take,
        Text.drop_length_takeWhile, Text.opens_dropWhile] at letter
      cases letter

/-- **A name is read as the month that it names.** -/
theorem readMonth_of_isName {f : Field} {l : Locale} {style : NameStyle} {piece after : List Char}
    (name : f.IsName l style piece after) (position : Nat) :
    f.readMonth style (.ok l) position (piece ++ after) =
      .ok (((l.month? style piece).getD 0 : Nat), piece.length) := by
  obtain ⟨month, known⟩ := Option.isSome_iff_exists.mp name.2.2.2.2
  simp only [readMonth, word_of_isName name, List.isEmpty_iff, if_neg name.1, known]
  change (do
    let month ← l.readMonth style piece (some ⟨f.label, position⟩)
    return ((month : Int), piece.length)) = _
  rw [Locale.readMonth, known]
  rfl

/-- **Only a name is read.** -/
theorem isName_of_readMonth {f : Field} {l : Locale} {style : NameStyle} {position taken : Nat}
    {text : List Char} {n : Int}
    (read : f.readMonth style (.ok l) position text = .ok (n, taken)) :
    f.IsName l style (text.take taken) (text.drop taken) ∧
      n = ((l.month? style (text.take taken)).getD 0 : Nat) ∧ taken ≤ text.length := by
  unfold readMonth at read
  dsimp only at read
  split at read
  · cases read
  next present =>
  obtain ⟨_, ⟨⟩, read⟩ := bind_eq_ok.mp read
  obtain ⟨month, known, read⟩ := bind_eq_ok.mp read
  obtain ⟨rfl, rfl⟩ := Prod.mk.inj (Except.ok.inj read)
  have listed : l.month? style (f.word text) = some month := by
    unfold Locale.readMonth at known
    split at known
    · next found =>
      cases known
      exact found
    · cases known
  rw [← List.prefix_iff_eq_take.mp (f.word_prefix text), listed]
  refine ⟨⟨by simpa using present, fun _ => Text.of_mem_takeWhile, opens_after_word, ?_, ?_⟩, rfl,
    (f.word_prefix text).length_le⟩
  · intro fixed
    rw [word, within, if_pos fixed]
    exact Nat.le_trans (List.takeWhile_prefix isLetter).length_le
      (List.length_take_le f.width text)
  · rw [listed]
    rfl

/-! ## Fields and tokens -/

/-- The field is read from its piece. -/
theorem read_of_isPiece {f : Field} {l : Locale} {piece after : List Char} (proper : 1 ≤ f.width)
    (suits : f.IsPiece l piece after) (position : Nat) :
    f.read (.ok l) position (piece ++ after) = .ok (f.pieceValue l piece, piece.length) := by
  cases style : f.specifier.style? with
  | some style =>
    simp only [Field.read, IsPiece, pieceValue, style] at suits ⊢
    exact readMonth_of_isName suits position
  | none =>
    simp only [Field.read, IsPiece, pieceValue, style] at suits ⊢
    exact readNumber_of_isNumber proper suits position

/-- The field is only read from a piece. -/
theorem isPiece_of_read {f : Field} {l : Locale} {position taken : Nat} {text : List Char}
    {n : Int} (read : f.read (.ok l) position text = .ok (n, taken)) :
    f.IsPiece l (text.take taken) (text.drop taken) ∧ n = f.pieceValue l (text.take taken) ∧
      taken ≤ text.length := by
  cases style : f.specifier.style? with
  | some style =>
    simp only [Field.read, IsPiece, pieceValue, style] at read ⊢
    exact isName_of_readMonth read
  | none =>
    simp only [Field.read, IsPiece, pieceValue, style] at read ⊢
    exact isNumber_of_readNumber read

end Field

namespace Token

/-- A literal is read where it stands, and says nothing. -/
theorem read_literal_eq_ok {expected text : List Char} {locale : Except Error Locale}
    {position taken : Nat} {entry : Option (Kind × Int)} :
    (literal expected).read locale position text = .ok (entry, taken) ↔
      expected <+: text ∧ entry = none ∧ taken = expected.length := by
  rw [← List.isPrefixOf_iff_prefix, read]
  split
  · next present => simp [present, eq_comm]
  · next absent => simp [absent]

/-- A field is read as a value of its kind. -/
theorem read_field_eq_ok {f : Field} {text : List Char} {locale : Except Error Locale}
    {position taken : Nat} {entry : Option (Kind × Int)} :
    (field f).read locale position text = .ok (entry, taken) ↔
      ∃ n, f.read locale position text = .ok (n, taken) ∧ entry = some (f.kind, n) := by
  rw [read, bind_eq_ok]
  constructor
  · rintro ⟨⟨n, length⟩, inner, outer⟩
    obtain ⟨rfl, rfl⟩ := Prod.mk.inj (Except.ok.inj outer)
    exact ⟨n, inner, rfl⟩
  · rintro ⟨n, inner, rfl⟩
    exact ⟨(n, taken), inner, rfl⟩

/-- The token is read from its piece. -/
theorem read_of_isPiece {t : Token} {l : Locale} {piece after : List Char} {rest : List Token}
    (fits : t.Fits rest) (suits : t.IsPiece l piece after) (position : Nat) :
    t.read (.ok l) position (piece ++ after) = .ok (t.entry l piece, piece.length) := by
  cases t with
  | literal text =>
    obtain rfl : piece = text := suits
    exact read_literal_eq_ok.mpr ⟨List.prefix_append piece after, rfl, rfl⟩
  | field f =>
    exact read_field_eq_ok.mpr ⟨_, Field.read_of_isPiece fits.1 suits position, rfl⟩

/-- The token is only read from a piece. -/
theorem isPiece_of_read {t : Token} {l : Locale} {position taken : Nat} {text : List Char}
    {entry : Option (Kind × Int)} (read : t.read (.ok l) position text = .ok (entry, taken)) :
    t.IsPiece l (text.take taken) (text.drop taken) ∧ entry = t.entry l (text.take taken) ∧
      taken ≤ text.length := by
  cases t with
  | literal expected =>
    obtain ⟨first, rfl, rfl⟩ := read_literal_eq_ok.mp read
    exact ⟨(List.prefix_iff_eq_take.mp first).symm, rfl, first.length_le⟩
  | field f =>
    obtain ⟨n, inner, rfl⟩ := read_field_eq_ok.mp read
    obtain ⟨suits, rfl, short⟩ := Field.isPiece_of_read inner
    exact ⟨suits, rfl, short⟩

end Token

/-! ## Formats -/

namespace Format

/-- No tokens take nothing. -/
theorem pieces_nil {l : Locale} {pieces : List (List Char)} {after : List Char} :
    Pieces l [] pieces after ↔ pieces = [] := by
  cases pieces with
  | nil => exact iff_of_true trivial rfl
  | cons piece pieces => exact iff_of_false id (List.cons_ne_nil _ _)

/-- Tokens take a piece for the first of them before the pieces for the others. -/
theorem pieces_cons {l : Locale} {t : Token} {tokens : List Token} {pieces : List (List Char)}
    {after : List Char} :
    Pieces l (t :: tokens) pieces after ↔ ∃ piece others, pieces = piece :: others ∧
      t.IsPiece l piece (others.flatten ++ after) ∧ Pieces l tokens others after := by
  constructor
  · intro cut
    cases pieces with
    | nil => cases cut
    | cons piece others => exact ⟨piece, others, rfl, cut⟩
  · rintro ⟨piece, others, rfl, cut⟩
    exact cut

/-- Pieces of tokens and then of others are the two kinds of pieces one after another. -/
theorem pieces_append {l : Locale} {tokens others : List Token} {pieces : List (List Char)}
    {after : List Char} :
    Pieces l (tokens ++ others) pieces after ↔ ∃ first second, pieces = first ++ second ∧
      Pieces l tokens first (second.flatten ++ after) ∧ Pieces l others second after := by
  induction tokens generalizing pieces with
  | nil =>
    constructor
    · intro cut
      exact ⟨[], pieces, rfl, trivial, cut⟩
    · rintro ⟨first, second, rfl, none, cut⟩
      obtain rfl := pieces_nil.mp none
      exact cut
  | cons t tokens ih =>
    constructor
    · intro cut
      obtain ⟨piece, pieces, rfl, suits, cut⟩ := pieces_cons.mp cut
      obtain ⟨first, second, rfl, cutFirst, cutSecond⟩ := ih.mp cut
      rw [List.flatten_append, List.append_assoc] at suits
      exact ⟨piece :: first, second, rfl, ⟨suits, cutFirst⟩, cutSecond⟩
    · rintro ⟨first, second, rfl, cutFirst, cutSecond⟩
      obtain ⟨piece, first, rfl, suits, cutFirst⟩ := pieces_cons.mp cutFirst
      rw [← List.append_assoc, ← List.flatten_append] at suits
      exact ⟨suits, ih.mpr ⟨first, second, rfl, cutFirst, cutSecond⟩⟩

/-- What the pieces of the tokens say of the fields, those of the first token first. -/
theorem entries_cons (l : Locale) (t : Token) (tokens : List Token) (piece : List Char)
    (pieces : List (List Char)) :
    entries l (t :: tokens) (piece :: pieces) =
      (t.entry l piece).toList ++ entries l tokens pieces := by
  rw [entries, List.zip_cons_cons, List.filterMap_cons]
  cases said : t.entry l piece with
  | none =>
    simp only [said]
    rfl
  | some e =>
    simp only [said]
    rfl

/-- Putting what a token says is putting a list of at most one entry. -/
theorem putAll_entry (values : FieldValues) (entry : Option (Kind × Int))
    (others : List (Kind × Int)) :
    values.putAll (entry.toList ++ others) = (values.putEntry entry).putAll others := by
  cases entry <;> rfl

/-- **The tokens are read from their pieces, whatever follows.** -/
theorem readFrom_of_pieces {l : Locale} {tokens : List Token} {pieces : List (List Char)}
    {after : List Char} (formed : Formed tokens) (cut : Pieces l tokens pieces after)
    (position : Nat) (values : FieldValues) :
    readFrom (.ok l) position values tokens (pieces.flatten ++ after) =
      .ok ⟨values.putAll (entries l tokens pieces), position + pieces.flatten.length, after⟩ := by
  induction tokens generalizing pieces position values with
  | nil =>
    obtain rfl := pieces_nil.mp cut
    rfl
  | cons t tokens ih =>
    obtain ⟨piece, pieces, rfl, suits, cut⟩ := pieces_cons.mp cut
    have first := Token.read_of_isPiece formed.1 suits position
    have others := ih formed.2 cut (position + piece.length) (values.putEntry (t.entry l piece))
    rw [List.flatten_cons, List.append_assoc, readFrom, first]
    change readFrom (.ok l) (position + piece.length) (values.putEntry (t.entry l piece)) tokens
      ((piece ++ (pieces.flatten ++ after)).drop piece.length) = _
    rw [List.drop_left, others, entries_cons, putAll_entry, List.length_append, Nat.add_assoc]

/-- **Tokens are only read from pieces.** -/
theorem pieces_of_readFrom {l : Locale} {tokens : List Token} {position : Nat}
    {values : FieldValues} {text : List Char} {reading : Reading}
    (read : readFrom (.ok l) position values tokens text = .ok reading) :
    ∃ pieces, Pieces l tokens pieces reading.rest ∧ text = pieces.flatten ++ reading.rest := by
  induction tokens generalizing position values text with
  | nil =>
    cases read
    exact ⟨[], trivial, rfl⟩
  | cons t tokens ih =>
    obtain ⟨⟨entry, taken⟩, first, others⟩ := bind_eq_ok.mp read
    obtain ⟨suits, -, -⟩ := Token.isPiece_of_read first
    obtain ⟨pieces, cut, rest⟩ := ih others
    rw [rest] at suits
    refine ⟨text.take taken :: pieces, ⟨suits, cut⟩, ?_⟩
    rw [List.flatten_cons, List.append_assoc, ← rest, List.take_append_drop]

/-- A cut of the text is read as what its pieces say. -/
theorem read_of_split {f : Format} {l : Locale} {text : String} {pieces : List (List Char)}
    (formed : Formed f.tokens) (cut : Split l f.tokens pieces text.toList) :
    f.read (.ok l) text = .ok (FieldValues.ofList (entries l f.tokens pieces)) := by
  have whole := readFrom_of_pieces formed cut.2 0 []
  rw [List.append_nil, cut.1] at whole
  rw [read, whole]
  rfl

/-- A text is only read if it has a cut. -/
theorem split_of_read {f : Format} {l : Locale} {text : String} {values : FieldValues}
    (done : f.read (.ok l) text = .ok values) :
    ∃ pieces, Split l f.tokens pieces text.toList := by
  obtain ⟨reading, first, last⟩ := bind_eq_ok.mp done
  obtain ⟨pieces, cut, whole⟩ := pieces_of_readFrom first
  have finished : reading.rest = [] := by
    split at last
    · next rest => simpa using rest
    · cases last
  rw [finished] at cut whole
  exact ⟨pieces, by simpa using whole.symm, cut⟩

/-- There is only one way to cut a text into pieces and a rest. -/
theorem pieces_unique {l : Locale} {tokens : List Token} (formed : Formed tokens)
    {pieces others : List (List Char)} {after rest : List Char}
    (cut : Pieces l tokens pieces after) (again : Pieces l tokens others rest)
    (same : pieces.flatten ++ after = others.flatten ++ rest) : pieces = others := by
  induction tokens generalizing pieces others with
  | nil => rw [pieces_nil.mp cut, pieces_nil.mp again]
  | cons t tokens ih =>
    obtain ⟨piece, pieces, rfl, suits, cutRest⟩ := pieces_cons.mp cut
    obtain ⟨other, others, rfl, suitsToo, againRest⟩ := pieces_cons.mp again
    have first := Token.read_of_isPiece formed.1 suits 0
    have second := Token.read_of_isPiece formed.1 suitsToo 0
    rw [List.flatten_cons, List.flatten_cons, List.append_assoc, List.append_assoc] at same
    rw [same, second] at first
    have length : other.length = piece.length := (Prod.mk.inj (Except.ok.inj first)).2
    obtain ⟨rfl, tail⟩ := List.append_inj same length.symm
    rw [ih formed.2 cutRest againRest tail]

/-- **The reader accepts exactly the grammar.** A text is read in a compiled format exactly if it
can be cut into what the tokens take; it can be cut in one way at most; and what is read maps each
kind to what the last piece of a field of it says, and no other kind to anything. -/
theorem read_iff_split {pattern : String} {f : Format} (compiled : compile pattern = .ok f)
    (l : Locale) (text : String) :
    ((∃ values, f.read (.ok l) text = .ok values) ↔
      ∃ pieces, Split l f.tokens pieces text.toList) ∧
    (∀ pieces others, Split l f.tokens pieces text.toList →
      Split l f.tokens others text.toList → pieces = others) ∧
    (∀ values pieces, f.read (.ok l) text = .ok values →
      Split l f.tokens pieces text.toList →
      values.kinds.Nodup ∧
        ∀ kind, values.get? kind = FieldValues.lastOf kind (entries l f.tokens pieces)) := by
  have formed := (wellFormed_of_compile compiled).formed
  refine ⟨⟨fun ⟨values, done⟩ => split_of_read done, fun ⟨pieces, cut⟩ => ?_⟩, ?_, ?_⟩
  · exact ⟨_, read_of_split formed cut⟩
  · intro pieces others cut again
    refine pieces_unique formed cut.2 again.2 ?_
    rw [cut.1, again.1]
  · intro values pieces done cut
    rw [read_of_split formed cut] at done
    cases done
    exact ⟨FieldValues.nodup_kinds_ofList _, FieldValues.get?_ofList _⟩

/-- Three numbers that only their signs keep apart are read, and of two months the last counts. -/
theorem read_iff_split_signs :
    ∃ f values, compile "mqm" = .ok f ∧ f.read (.ok Locale.english) "3-5-7" = .ok values ∧
      values.get? .month = some (-7) ∧ values.get? .quarter = some (-5) := by
  have compiled : compile "mqm" = .ok ⟨"mqm", [.field ⟨.month, 1, false⟩,
    .field ⟨.quarter, 1, false⟩, .field ⟨.month, 1, false⟩]⟩ := rfl
  obtain ⟨accepted, -, mapping⟩ := read_iff_split compiled Locale.english "3-5-7"
  have cut : Split Locale.english [.field ⟨.month, 1, false⟩, .field ⟨.quarter, 1, false⟩,
      .field ⟨.month, 1, false⟩] [['3'], ['-', '5'], ['-', '7']] "3-5-7".toList :=
    ⟨rfl, ⟨['3'], .inl rfl, by decide, List.forall_mem_singleton.mpr rfl, rfl, by decide⟩,
      ⟨['5'], .inr rfl, by decide, List.forall_mem_singleton.mpr rfl, rfl, by decide⟩,
      ⟨['7'], .inr rfl, by decide, List.forall_mem_singleton.mpr rfl, rfl, by decide⟩, trivial⟩
  obtain ⟨values, done⟩ := accepted.mpr ⟨_, cut⟩
  have found := (mapping values _ done cut).2
  exact ⟨_, values, compiled, done, found .month, found .quarter⟩

end Format

end PeriodText
