import PeriodText.Proofs.Failures
import PeriodText.Proofs.Format.RoundTrip
import PeriodText.Proofs.Lossless

/-!
# Reading normalises

What is read from a text and written again is the text in a normal form. In a plain format, one of
numbers only that stand apart and are of different kinds, every field but the last one is of fixed
width, so its number is written as it was read. The last number may have been read from too few or
too many digits, or from a zero with a sign: it is written as it was read exactly if it is normal
(`Field.paddedText_ofPiece_iff`).

Whatever its form, what is written is cut like the text that was read and says the same
(`pieces_normal`, `entries_normal`), so reading it gives the same period again:
`Request.parsePeriod_normalises`.
-/

set_option autoImplicit false

namespace PeriodText

open Numeral (digitLimit isDigit magnitude ofDigits paddedText)
open Text (opens)

/-! ## Numbers -/

namespace Numeral

/-- The digits of a number, its sign aside. -/
def pieceDigits : List Char → List Char
  | '-' :: digits => digits
  | digits => digits

/-- A number has the form in which it is written when its digits are filled up to the width. -/
structure IsNormal (width : Nat) (piece : List Char) : Prop where
  /-- The digits fill the width. -/
  enough : width ≤ (pieceDigits piece).length
  /-- There is no zero in front of more digits than that. -/
  unpadded : width < (pieceDigits piece).length → (pieceDigits piece).head? ≠ some '0'
  /-- There is no sign in front of zeros. -/
  signed : piece.head? = some '-' → ∃ c ∈ pieceDigits piece, c ≠ '0'

/-- A piece that begins with a digit has no sign. -/
theorem head?_of_opens {piece : List Char} (digit : opens isDigit piece = true) :
    piece.head? ≠ some '-' := by
  intro sign
  obtain ⟨rest, rfl⟩ := List.head?_eq_some_iff.mp sign
  rw [Text.opens_cons, isDigit_minus] at digit
  cases digit

/-- A piece that begins with a digit is its digits. -/
theorem pieceDigits_of_opens {piece : List Char} (digit : opens isDigit piece = true) :
    pieceDigits piece = piece := by
  unfold pieceDigits
  split
  · exact absurd rfl (head?_of_opens digit)
  · rfl

end Numeral

namespace Field

variable {f : Field} {piece after : List Char}

/-- **Which numbers are written as they were read.** -/
theorem paddedText_ofPiece_iff (proper : 1 ≤ f.width) (number : f.IsNumber piece after) :
    paddedText f.width (Numeral.ofPiece piece) = piece ↔ Numeral.IsNormal f.width piece := by
  obtain ⟨digits, shape, present, inside, -⟩ := number.digits proper
  have opening : opens isDigit digits = true := Text.opens_of_run inside present
  rcases shape with rfl | ⟨rfl, -⟩
  · have own := Numeral.pieceDigits_of_opens opening
    have unsigned := Numeral.head?_of_opens opening
    rw [ofPiece_of_opens opening, Numeral.paddedText_of_nonneg (Int.natCast_nonneg _), magnitude,
      Int.natAbs_natCast, Numeral.padded_digitsOf_iff proper inside]
    constructor
    · rintro ⟨enough, unpadded⟩
      exact ⟨by rwa [own], by rwa [own], fun sign => absurd sign unsigned⟩
    · rintro ⟨enough, unpadded, -⟩
      rw [own] at enough unpadded
      exact ⟨enough, unpadded⟩
  · show paddedText f.width (-(ofDigits digits : Int)) = '-' :: digits ↔ _
    have zero := Numeral.ofDigits_eq_zero_iff inside
    by_cases none : ofDigits digits = 0
    · -- Zero is written without a sign.
      have written := Numeral.opens_isDigit_paddedText f.width 0 []
      rw [List.append_nil] at written
      rw [none, Int.natCast_zero, Int.neg_zero]
      constructor
      · intro same
        rw [same] at written
        cases written
      · intro normal
        obtain ⟨c, mem, other⟩ := normal.signed rfl
        exact absurd (zero.mp none c mem) other
    · have negative : -(ofDigits digits : Int) < 0 := by omega
      rw [Numeral.paddedText_of_neg negative, magnitude, Int.natAbs_neg, Int.natAbs_natCast,
        List.cons.injEq, and_iff_right rfl, Numeral.padded_digitsOf_iff proper inside]
      constructor
      · rintro ⟨enough, unpadded⟩
        refine ⟨enough, unpadded, fun _ => ?_⟩
        by_contra others
        refine none (zero.mpr fun c mem => ?_)
        by_contra other
        exact others ⟨c, mem, other⟩
      · intro normal
        exact ⟨normal.enough, normal.unpadded⟩

/-- A number of fixed width is written as it was read. -/
theorem paddedText_of_fixed (proper : 1 ≤ f.width) (fixed : f.fixed = true)
    (number : f.IsNumber piece after) :
    paddedText f.width (Numeral.ofPiece piece) = piece := by
  rw [paddedText_ofPiece_iff proper number]
  have present := number.ne_nil proper
  rw [IsNumber, if_pos fixed] at number
  obtain ⟨length, inside, -⟩ := number
  have opening : opens isDigit piece = true := Text.opens_of_run inside present
  refine ⟨?_, ?_, ?_⟩
  · rw [Numeral.pieceDigits_of_opens opening, length]
  · rw [Numeral.pieceDigits_of_opens opening, length]
    exact fun more => absurd more (Nat.lt_irrefl _)
  · exact fun sign => absurd sign (Numeral.head?_of_opens opening)

/-- **What is written is read again**, before the same text. -/
theorem isNumber_paddedText (proper : 1 ≤ f.width)
    (narrow : f.fixed = false → f.width ≤ digitLimit) (number : f.IsNumber piece after) :
    f.IsNumber (paddedText f.width (Numeral.ofPiece piece)) after := by
  cases fixed : f.fixed with
  | true => rwa [paddedText_of_fixed proper fixed number]
  | false =>
    obtain ⟨digits, shape, present, inside, short⟩ := number.digits proper
    have value : (Numeral.ofPiece piece).natAbs = ofDigits digits := by
      rcases shape with rfl | ⟨rfl, -⟩
      · rw [ofPiece_of_opens (Text.opens_of_run inside present), Int.natAbs_natCast]
      · rw [Numeral.ofPiece, Int.natAbs_neg, Int.natAbs_natCast]
    have few : (Numeral.digitsOf (ofDigits digits)).length ≤ digits.length :=
      (Numeral.length_digitsOf_le_iff (List.length_pos_iff.mpr present)).mpr
        (Numeral.ofDigits_lt_pow inside)
    rw [IsNumber, if_neg (by simp [fixed])]
    refine ⟨magnitude f.width (Numeral.ofPiece piece), ?_, Numeral.magnitude_ne_nil _ _,
      fun _ => Numeral.isDigit_of_mem_magnitude, number.stop fixed, ?_⟩
    · by_cases negative : Numeral.ofPiece piece < 0
      · exact .inr (Numeral.paddedText_of_neg negative)
      · exact .inl (Numeral.paddedText_of_nonneg (Int.not_lt.mp negative))
    · rw [magnitude, Numeral.length_padded, value]
      exact Nat.max_le.mpr ⟨narrow fixed, Nat.le_trans few short⟩

end Field

/-! ## Tokens -/

/-- What is written of a piece that was read for the token. -/
def Token.normal : Token → (piece : List Char) → List Char
  | .field f, piece => paddedText f.width (Numeral.ofPiece piece)
  | .literal _, piece => piece

namespace Format

/-- No field is directly after another. -/
def Spaced (tokens : List Token) : Prop :=
  tokens.IsChain fun t next => ∀ g h, t = .field g → next ≠ .field h

/-- The tokens have no field that is a name. -/
def Numeric (tokens : List Token) : Prop :=
  ∀ g, .field g ∈ tokens → g.specifier.style? = none

/-- A format of numbers of different kinds that stand apart, none of them too wide to be read. -/
structure IsPlain (f : Format) : Prop where
  numeric : ∀ g ∈ f.fields, g.isWord = false
  distinct : (f.fields.map Field.kind).Nodup
  spaced : Spaced f.tokens
  narrow : ∀ g ∈ f.fields, g.fixed = false → g.width ≤ digitLimit

/-- The fields among tokens, each with its piece. -/
def fieldPieces (tokens : List Token) (pieces : List (List Char)) : List (Field × List Char) :=
  (tokens.zip pieces).filterMap fun
    | (.field g, piece) => some (g, piece)
    | (.literal _, _) => none

variable {l : Locale} {g : Field} {tokens : List Token} {piece after : List Char}
  {pieces : List (List Char)}

/-- A field that is not fixed is the last one. -/
theorem rest_of_free (formed : Formed (.field g :: tokens)) (spaced : Spaced (.field g :: tokens))
    (free : g.fixed = false) : tokens = [] ∨ ∃ text, tokens = [.literal text] := by
  have anchor : anchors tokens = false := by rw [← formed.1.2.2, free]
  cases tokens with
  | nil => exact .inl rfl
  | cons t rest =>
    cases t with
    | field h => exact absurd rfl ((List.isChain_cons_cons.mp spaced).1 g h rfl)
    | literal text =>
      cases rest with
      | nil => exact .inr ⟨text, rfl⟩
      | cons t rest =>
        cases t with
        | field h => cases anchor
        | literal other => cases formed.2.1.2

/-- What follows a field that is not fixed is written as it was read, and has no field. -/
theorem normal_of_free (formed : Formed (.field g :: tokens)) (spaced : Spaced (.field g :: tokens))
    (free : g.fixed = false) (cut : Pieces l tokens pieces after) :
    List.zipWith Token.normal tokens pieces = pieces ∧ fieldPieces tokens pieces = [] := by
  rcases rest_of_free formed spaced free with rfl | ⟨text, rfl⟩
  · obtain rfl := pieces_nil.mp cut
    exact ⟨rfl, rfl⟩
  · obtain ⟨piece, others, rfl, -, none⟩ := pieces_cons.mp cut
    obtain rfl := pieces_nil.mp none
    exact ⟨rfl, rfl⟩

/-- What follows a field of fixed width has a field. -/
theorem fieldPieces_of_fixed (formed : Formed (.field g :: tokens)) (fixed : g.fixed = true)
    (cut : Pieces l tokens pieces after) : fieldPieces tokens pieces ≠ [] := by
  obtain ⟨text, h, rest, rfl⟩ := literal_of_fixed formed fixed
  obtain ⟨literal, others, rfl, -, cut⟩ := pieces_cons.mp cut
  obtain ⟨piece, others, rfl, -, -⟩ := pieces_cons.mp cut
  exact List.cons_ne_nil (h, piece) _

/-- **The normal pieces are read** like the pieces that they are made from. -/
theorem pieces_normal (formed : Formed tokens) (spaced : Spaced tokens) (numeric : Numeric tokens)
    (narrow : ∀ g, .field g ∈ tokens → g.fixed = false → g.width ≤ digitLimit)
    (cut : Pieces l tokens pieces after) :
    Pieces l tokens (List.zipWith Token.normal tokens pieces) after := by
  induction tokens generalizing pieces with
  | nil =>
    obtain rfl := pieces_nil.mp cut
    trivial
  | cons t tokens ih =>
    obtain ⟨piece, pieces, rfl, suits, cutRest⟩ := pieces_cons.mp cut
    have others := ih formed.2 (List.isChain_cons.mp spaced).2
      (fun g mem => numeric g (.tail _ mem)) (fun g mem => narrow g (.tail _ mem)) cutRest
    refine ⟨?_, others⟩
    cases t with
    | literal text => exact suits
    | field g =>
      have proper : 1 ≤ g.width := formed.1.1
      simp only [Token.IsPiece, Field.IsPiece, numeric g List.mem_cons_self, Token.normal]
        at suits ⊢
      cases fixed : g.fixed with
      | true =>
        -- A fixed width does not depend on what follows, which may be written otherwise.
        rw [Field.paddedText_of_fixed proper fixed suits]
        rw [Field.IsNumber, if_pos fixed] at suits ⊢
        exact suits
      | false =>
        rw [(normal_of_free formed spaced fixed cutRest).1]
        exact Field.isNumber_paddedText proper (narrow g List.mem_cons_self) suits

/-- What the pieces say is what the fields read from them. -/
theorem entries_eq_map (l : Locale) (tokens : List Token) (pieces : List (List Char)) :
    entries l tokens pieces =
      (fieldPieces tokens pieces).map fun (g, piece) => (g.kind, g.pieceValue l piece) := by
  rw [entries, fieldPieces, List.map_filterMap]
  apply List.filterMap_congr
  rintro ⟨t, piece⟩ -
  cases t <;> rfl

/-- The fields of pieces are the fields of the tokens. -/
theorem map_fieldPieces {f : Format} (cut : Pieces l f.tokens pieces after) :
    (fieldPieces f.tokens pieces).map (·.1) = f.fields := by
  unfold fields
  generalize f.tokens = tokens at cut
  induction tokens generalizing pieces with
  | nil => rfl
  | cons t tokens ih =>
    obtain ⟨piece, pieces, rfl, -, cutRest⟩ := pieces_cons.mp cut
    have others := ih cutRest
    cases t with
    | literal text => exact others
    | field g => exact congrArg (g :: ·) others

/-- **The normal pieces say the same.** -/
theorem entries_normal (numeric : Numeric tokens) (pieces : List (List Char)) :
    entries l tokens (List.zipWith Token.normal tokens pieces) = entries l tokens pieces := by
  induction tokens generalizing pieces with
  | nil => rfl
  | cons t tokens ih =>
    cases pieces with
    | nil => rfl
    | cons piece pieces =>
      rw [List.zipWith_cons_cons, entries_cons, entries_cons,
        ih (fun g mem => numeric g (.tail _ mem))]
      cases t with
      | literal text => rfl
      | field g =>
        simp only [Token.entry, Field.pieceValue, numeric g List.mem_cons_self, Token.normal,
          Numeral.ofPiece_paddedText]

/-- **The normal pieces are written** for a value whose fields are what the pieces say. -/
theorem written_normal {locale : Except Error Locale} {v : Value} (numeric : Numeric tokens)
    (cut : Pieces l tokens pieces after)
    (said : ∀ kind n, (kind, n) ∈ entries l tokens pieces →
      v.field kind = .ok n ∧ Numeral.isWritable n = true) :
    Written locale v tokens (List.zipWith Token.normal tokens pieces) := by
  induction tokens generalizing pieces with
  | nil => exact .nil
  | cons t tokens ih =>
    obtain ⟨piece, pieces, rfl, suits, cutRest⟩ := pieces_cons.mp cut
    rw [entries_cons] at said
    refine .cons ?_ (ih (fun g mem => numeric g (.tail _ mem)) cutRest
      fun kind n mem => said kind n (List.mem_append_right _ mem))
    cases t with
    | literal text =>
      obtain rfl : piece = text := suits
      rfl
    | field g =>
      have number : g.specifier.style? = none := numeric g List.mem_cons_self
      have value : g.pieceValue l piece = Numeral.ofPiece piece := by
        rw [Field.pieceValue, number]
      obtain ⟨given, short⟩ := said g.kind (g.pieceValue l piece) List.mem_cons_self
      rw [value] at given short
      exact (Field.render_number number).mpr ⟨_, given, short, rfl⟩

/-- **The pieces are normal exactly if the last number is.** -/
theorem normal_eq_iff (formed : Formed tokens) (spaced : Spaced tokens) (numeric : Numeric tokens)
    (cut : Pieces l tokens pieces after)
    (last : (fieldPieces tokens pieces).getLast? = some (g, piece)) :
    List.zipWith Token.normal tokens pieces = pieces ↔ Numeral.IsNormal g.width piece := by
  induction tokens generalizing pieces with
  | nil => cases last
  | cons t tokens ih =>
    obtain ⟨first, pieces, rfl, suits, cutRest⟩ := pieces_cons.mp cut
    have others := ih formed.2 (List.isChain_cons.mp spaced).2
      (fun g mem => numeric g (.tail _ mem)) cutRest
    rw [List.zipWith_cons_cons, List.cons.injEq]
    cases t with
    | literal text =>
      rw [← others last]
      exact and_iff_right rfl
    | field h =>
      have proper : 1 ≤ h.width := formed.1.1
      have split : fieldPieces (.field h :: tokens) (first :: pieces) =
        (h, first) :: fieldPieces tokens pieces := rfl
      rw [split] at last
      simp only [Token.IsPiece, Field.IsPiece, numeric h List.mem_cons_self] at suits
      cases fixed : h.fixed with
      | true =>
        -- The last field is a later one.
        obtain ⟨next, later, more⟩ :=
          List.exists_cons_of_ne_nil (fieldPieces_of_fixed formed fixed cutRest)
        rw [more, List.getLast?_cons_cons, ← more] at last
        rw [← others last]
        exact and_iff_right (Field.paddedText_of_fixed proper fixed suits)
      | false =>
        obtain ⟨same, none⟩ := normal_of_free formed spaced fixed cutRest
        rw [none] at last
        cases last
        rw [and_iff_left same]
        exact Field.paddedText_ofPiece_iff proper suits

end Format

/-! ## Values -/

namespace FieldValues

variable {values : FieldValues} {target : Option Kind} {r : Resolved}

/-- **A period has the values that it was made from** for its fields. -/
theorem field_of_resolve (done : values.resolve target = .ok r) {kind : Kind} {n : Int}
    (place : kind ≠ .undated) (given : values.get? kind = some n) :
    r.toValue.field kind = .ok n := by
  rcases resolve_cases values (dated_of_resolve done) with
    ⟨only, m, rfl, bare⟩ | ⟨whole, -, date⟩ | none
  · rw [bare] at done
    obtain ⟨p, counted, rfl⟩ := map_eq_ok.mp done
    obtain ⟨c, made, rfl⟩ := map_eq_ok.mp counted
    rw [get?_cons] at given
    split at given
    · next same =>
      cases given
      rw [Resolved.toValue, Value.field, if_pos same.symm]
      exact congrArg Except.ok (Count.ofInt_eq_ok.mp made)
    · cases given
  · rw [date] at done
    obtain ⟨d, read, rfl⟩ := map_eq_ok.mp done
    obtain ⟨-, -, -, chain, -, each⟩ := toDate_eq_ok.mp read
    have same := each kind place
    rw [given, Option.some_or] at same
    obtain ⟨c, stored, rfl⟩ := Option.map_eq_some_iff.mp same
    exact Value.field_of_stored stored
  · cases none.symm.trans done

end FieldValues

/-! ## Texts -/

namespace Format

variable {f : Format}

theorem IsPlain.numericTokens (plain : f.IsPlain) : Numeric f.tokens := fun g mem =>
  Field.isWord_eq_false.mp (plain.numeric g (mem_fields.mpr mem))

/-- Numbers are read without a locale. -/
theorem readFrom_of_numeric {tokens : List Token} (numeric : Numeric tokens)
    (locale other : Except Error Locale) (position : Nat) (values : FieldValues)
    (text : List Char) :
    readFrom locale position values tokens text = readFrom other position values tokens text := by
  induction tokens generalizing position values text with
  | nil => rfl
  | cons t tokens ih =>
    have first : t.read locale position text = t.read other position text := by
      cases t with
      | literal expected => rfl
      | field g => simp only [Token.read, Field.read, numeric g List.mem_cons_self]
    rw [readFrom, readFrom, first]
    cases t.read other position text with
    | error e => rfl
    | ok answer => exact ih (fun g mem => numeric g (.tail _ mem)) _ _ _

/-- So is a text of them. -/
theorem read_of_numeric (numeric : Numeric f.tokens) (locale other : Except Error Locale)
    (text : String) : f.read locale text = f.read other text := by
  rw [read, read, readFrom_of_numeric numeric locale other]

/-- Where no kind comes twice, what the pieces say are fields of the period that they resolve to, and
can be written. -/
theorem said_of_resolve {l : Locale} {pieces : List (List Char)} {text : List Char}
    {target : Option Kind} {r : Resolved} (distinct : (f.fields.map Field.kind).Nodup)
    (cut : Split l f.tokens pieces text)
    (readable : (FieldValues.ofList (entries l f.tokens pieces)).Readable)
    (resolved : (FieldValues.ofList (entries l f.tokens pieces)).resolve target = .ok r)
    (kind : Kind) (n : Int) (mem : (kind, n) ∈ entries l f.tokens pieces) :
    r.toValue.field kind = .ok n ∧ Numeral.isWritable n = true := by
  have keys : ((entries l f.tokens pieces).map (·.1)).Nodup := by
    rw [← map_fieldPieces cut.2, List.map_map] at distinct
    rw [entries_eq_map, List.map_map]
    exact distinct
  have given : (FieldValues.ofList (entries l f.tokens pieces)).get? kind = some n := by
    rw [FieldValues.get?_ofList, FieldValues.lastOf_of_mem keys mem]
  obtain ⟨place, short⟩ := readable kind n given
  exact ⟨FieldValues.field_of_resolve resolved place given, short⟩

/-- **Reading a text in a plain format and writing what was read** gives a text that is read as the
same, and is the text itself exactly if the last number of it is normal. -/
theorem parse_normalises {pattern : String} (compiled : compile pattern = .ok f)
    (plain : f.IsPlain) (l : Locale) {locale : Except Error Locale} {target : Option Kind}
    {text : String} {r : Resolved} (parsed : f.parse locale target text = .ok r) :
    ∃ written, f.render locale r.toValue = .ok written ∧ f.parse locale target written = .ok r ∧
      ∃ pieces g piece, Split l f.tokens pieces text.toList ∧
        (fieldPieces f.tokens pieces).getLast? = some (g, piece) ∧
        (written = text ↔ Numeral.IsNormal g.width piece) := by
  have formed := (wellFormed_of_compile compiled).formed
  have numeric := plain.numericTokens
  have narrow (g : Field) (mem : .field g ∈ f.tokens) := plain.narrow g (mem_fields.mpr mem)
  have alike := read_of_numeric numeric locale (.ok l)
  obtain ⟨values, done, resolved⟩ := bind_eq_ok.mp parsed
  rw [alike] at done
  obtain ⟨pieces, cut⟩ := split_of_read done
  have readable := readable_of_read done
  rw [read_of_split formed cut] at done
  obtain rfl := Except.ok.inj done
  have said := said_of_resolve plain.distinct cut readable resolved
  have wrote : Written locale r.toValue f.tokens (List.zipWith Token.normal f.tokens pieces) :=
    written_normal numeric cut.2 said
  obtain ⟨written, whole⟩ : ∃ written : String,
      written.toList = (List.zipWith Token.normal f.tokens pieces).flatten :=
    ⟨_, String.toList_ofList⟩
  have again : Split l f.tokens (List.zipWith Token.normal f.tokens pieces) written.toList :=
    ⟨whole.symm, pieces_normal formed plain.spaced numeric narrow cut.2⟩
  have present : fieldPieces f.tokens pieces ≠ [] := by
    intro none
    apply FieldValues.ne_nil_of_resolve resolved
    rw [entries_eq_map, none]
    rfl
  obtain ⟨⟨g, piece⟩, last⟩ : ∃ entry, (fieldPieces f.tokens pieces).getLast? = some entry :=
    ⟨_, List.getLast?_eq_some_getLast present⟩
  refine ⟨written, render_eq_ok.mpr ⟨_, wrote, whole⟩, ?_, pieces, g, piece, cut, last, ?_⟩
  · rw [parse, alike, read_of_split formed again, entries_normal numeric]
    exact resolved
  · rw [← normal_eq_iff formed plain.spaced numeric cut.2 last]
    constructor
    · rintro rfl
      apply pieces_unique formed again.2 cut.2
      rw [again.1, cut.1]
    · intro same
      apply String.toList_inj.mp
      rw [whole, same, cut.1]

end Format

/-- What a text resolves to is equal to itself. -/
theorem Resolved.equal_self (r : Resolved) : r.toValue.equal r.toValue = true := by
  cases r <;> simp [toValue, Value.equal]

namespace Request

/-- **Reading normalises.** Whatever period a text is in a plain format, the period can be written in
the format, and what is written is read as the same period. It is the text itself exactly if in the
text the last field's number fills its width, has no zero in front of more digits than that, and no
sign in front of zeros. -/
theorem parsePeriod_normalises {pattern : String} {f : Format}
    (compiled : Format.compile pattern = .ok f) (plain : f.IsPlain) (l : Locale) (s : Session)
    (argument : LocaleArgument) (kind : KindArgument) {text : String} {r : Resolved}
    (parsed : (parsePeriod (.text text) (.compiled f) kind argument).answer s = .ok r) :
    ∃ written, (formatValue r.toValue (.compiled f) argument).answer s = .ok written ∧
      (roundTrip r.toValue (.compiled f) kind argument).answer s = .ok ⟨written, .ok r, true⟩ ∧
      ∃ pieces g piece, Format.Split l f.tokens pieces text.toList ∧
        (Format.fieldPieces f.tokens pieces).getLast? = some (g, piece) ∧
        (written = text ↔ Numeral.IsNormal g.width piece) := by
  obtain ⟨target, asked, parsed⟩ := (answer_parsePeriod_eq_ok f argument s).mp parsed
  obtain ⟨written, rendered, again, last⟩ := Format.parse_normalises compiled plain l parsed
  refine ⟨written, ?_, ?_, last⟩
  · rw [answer_formatValue, rendered]
  · rw [answer_roundTrip f _ argument s asked rendered, again]
    simp only [Except.toOption, Option.any_some, r.equal_self]

/-- A month that is given by one digit is written with two. -/
theorem parsePeriod_normalises_march : ∃ f r, Format.compile "yyyy-mm" = .ok f ∧
    (parsePeriod (.text "2018-3") (.compiled f) (.datum .absent) .default).answer {} = .ok r ∧
    (roundTrip r.toValue (.compiled f) (.datum .absent) .default).answer {} =
      .ok ⟨"2018-03", .ok r, true⟩ := by
  let f : Format :=
    ⟨"yyyy-mm", [.field ⟨.year, 4, true⟩, .literal ['-'], .field ⟨.month, 2, false⟩]⟩
  let d : PeriodDate :=
    ⟨.month, { year := some ⟨2018, by decide⟩, month := some ⟨3, by decide⟩ }, rfl⟩
  have plain : f.IsPlain := by
    refine ⟨by decide, by decide, ?_, by decide⟩
    refine List.isChain_cons_cons.mpr ⟨?_, List.isChain_cons_cons.mpr ⟨?_, .singleton _⟩⟩
    · intro g h _ next
      cases next
    · intro g h first
      cases first
  have compiled : Format.compile "yyyy-mm" = .ok f := rfl
  have parsed : (parsePeriod (.text "2018-3") (.compiled f) (.datum .absent) .default).answer {} =
      .ok (.date d) := rfl
  obtain ⟨written, rendered, again, -⟩ :=
    parsePeriod_normalises compiled plain Locale.english {} .default (.datum .absent) parsed
  obtain rfl : "2018-03" = written := Except.ok.inj rendered
  exact ⟨f, .date d, compiled, parsed, again⟩

end Request

end PeriodText
