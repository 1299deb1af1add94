import PeriodText.Proofs.Format.OutOfStep

/-!
# Written values read back

When is the text of a value read as the fields of that value? Exactly when each of its pieces was
written in step. One direction is `pieces_of_inStep`. For the other, whatever the reader takes for
the first token is what was written for it (`number_inStep`, `name_inStep`): both end where no more
characters of their class follow, and a text is a run before such a place in one way only. That no
digit follows what was written holds because otherwise the rest would not be read.

So a text that is read at all is read as what was written: `read_of_render`.
-/

set_option autoImplicit false

namespace PeriodText

open Numeral (digitLimit isDigit magnitude paddedText)
open Text (opens isLetter)

namespace Format

variable {l : Locale} {v : Value} {f : Field} {tokens : List Token}
  {pieces written : List (List Char)}

/-! ## Where the reader stops -/

/-- What is read for tokens that begin with a literal begins like the literal. -/
theorem opens_pieces_literal {p : Char → Bool} {text : List Char} (formed : Formed tokens)
    (first : tokens.head? = some (.literal text)) (cut : Pieces l tokens pieces []) :
    opens p pieces.flatten = opens p text := by
  cases tokens with
  | nil => cases first
  | cons t tokens =>
    obtain rfl : t = .literal text := Option.some.inj first
    obtain ⟨piece, pieces, rfl, suits, -⟩ := pieces_cons.mp cut
    obtain rfl : piece = text := suits
    exact Text.opens_append formed.1.1 pieces.flatten

/-- What is read for tokens that begin with a name begins with a letter. -/
theorem opens_pieces_name {g : Field} (named : g.isWord = true)
    (first : tokens.head? = some (.field g)) (cut : Pieces l tokens pieces []) :
    opens isLetter pieces.flatten = true := by
  cases tokens with
  | nil => cases first
  | cons t tokens =>
    obtain rfl : t = .field g := Option.some.inj first
    obtain ⟨piece, pieces, rfl, name, -⟩ := pieces_cons.mp cut
    obtain ⟨style, spelt⟩ := Option.isSome_iff_exists.mp named
    simp only [Token.IsPiece, Field.IsPiece, spelt] at name
    exact Text.opens_run name.2.1 name.1 pieces.flatten

/-- A literal and another field follow a field of fixed width. -/
theorem literal_of_fixed (formed : Formed (.field f :: tokens)) (fixed : f.fixed = true) :
    ∃ text g rest, tokens = .literal text :: .field g :: rest := by
  have anchor : anchors tokens = true := by rw [← formed.1.2.2, fixed]
  unfold anchors at anchor
  split at anchor
  · next text g rest => exact ⟨text, g, rest, rfl⟩
  · cases anchor

/-- After a number the reader has left no digit. -/
theorem stop_of_isNumber (formed : Formed (.field f :: tokens))
    (separated : Separated (.field f :: tokens)) (numeric : f.specifier.style? = none)
    {piece : List Char} (number : f.IsNumber piece pieces.flatten)
    (cut : Pieces l tokens pieces []) : opens isDigit pieces.flatten = false := by
  cases fixed : f.fixed with
  | false => exact number.stop fixed
  | true =>
    obtain ⟨text, g, rest, rfl⟩ := literal_of_fixed formed fixed
    rw [opens_pieces_literal formed.2 rfl cut]
    exact separated.number numeric text rfl

/-- After a name the reader has left no letter. -/
theorem stop_of_isName (formed : Formed (.field f :: tokens))
    (separated : Separated (.field f :: tokens)) {style : NameStyle}
    (named : f.specifier.style? = some style) {piece : List Char}
    (name : f.IsName l style piece pieces.flatten) (cut : Pieces l tokens pieces []) :
    opens isLetter pieces.flatten = false := by
  refine Bool.eq_false_iff.mpr fun letter => ?_
  obtain ⟨text, g, rest, rfl⟩ := literal_of_fixed formed (name.2.2.1 letter).1
  rw [opens_pieces_literal formed.2 rfl cut, separated.name named text rfl] at letter
  cases letter

/-! ## What is read was written in step -/

/-- A number that is read where another was written has the sign of that one, and its digits and
what follows them are the same text. -/
theorem digits_of_isNumber (proper : 1 ≤ f.width) {piece after rest : List Char} {n : Int}
    (number : f.IsNumber piece after) (same : piece ++ after = paddedText f.width n ++ rest) :
    ∃ digits, digits ++ after = magnitude f.width n ++ rest ∧
      (∀ c ∈ digits, isDigit c = true) ∧ digits.length ≤ digitLimit ∧
      (piece = digits ∧ 0 ≤ n ∨ piece = '-' :: digits ∧ n < 0 ∧ f.fixed = false) := by
  obtain ⟨digits, shape, present, inside, short⟩ := number.digits proper
  have opening := Numeral.opens_isDigit_paddedText f.width n rest
  rw [← same] at opening
  rcases shape with rfl | ⟨rfl, free⟩
  · rw [Text.opens_run inside present after] at opening
    have nonnegative : 0 ≤ n := of_decide_eq_true opening.symm
    rw [Numeral.paddedText_of_nonneg nonnegative] at same
    exact ⟨piece, same, inside, short, .inl ⟨rfl, nonnegative⟩⟩
  · rw [List.cons_append, Text.opens_cons, Numeral.isDigit_minus] at opening
    have negative : n < 0 := Int.not_le.mp (of_decide_eq_false opening.symm)
    rw [Numeral.paddedText_of_neg negative] at same
    exact ⟨digits, (List.cons.inj same).2, inside, short, .inr ⟨rfl, negative, free⟩⟩

/-- Where the reader has left no digit of a text, none was written there. -/
theorem stop_of_dropWhile (legible : l.Legible) (formed : Formed tokens)
    (separated : Separated tokens) (wrote : Written (.ok l) v tokens written)
    (apart : ∀ text, tokens.head? = some (.literal text) → opens isDigit text = false)
    (cut : Pieces l tokens pieces [])
    (same : pieces.flatten = written.flatten.dropWhile isDigit) :
    opens isDigit written.flatten = false := by
  refine Bool.eq_false_iff.mpr fun digit => ?_
  obtain ⟨g, m, first, numeric, given, nonnegative⟩ :=
    (opens_isDigit_iff legible wrote formed apart).mp digit
  cases wrote with
  | nil => cases first
  | @cons t piece tokens written here there =>
    obtain rfl : t = .field g := Option.some.inj first
    have style := Field.isWord_eq_false.mp numeric
    obtain ⟨n, given', -, rfl⟩ := (Field.render_number style).mp here
    cases given.symm.trans given'
    rw [List.flatten_cons, Numeral.paddedText_of_nonneg nonnegative, dropWhile_magnitude] at same
    have alone : ∀ f ∈ [g], f.specifier.style? = none := List.forall_mem_singleton.mpr style
    have shape : Token.field g :: tokens = [g].map .field ++ tokens := rfl
    rw [shape] at formed separated cut
    exact not_swallowed legible there formed separated (List.cons_ne_nil g []) alone cut same

/-- **A number that is read where another was written is that one, written in step.** -/
theorem number_inStep (legible : l.Legible) (formed : Formed (.field f :: tokens))
    (separated : Separated (.field f :: tokens)) (wrote : Written (.ok l) v tokens written)
    (numeric : f.specifier.style? = none) {piece : List Char} {n : Int}
    (number : f.IsNumber piece pieces.flatten) (cut : Pieces l tokens pieces [])
    (same : piece ++ pieces.flatten = paddedText f.width n ++ written.flatten) :
    piece = paddedText f.width n ∧ f.NumberInStep v n tokens.head? := by
  have proper := formed.1.1
  have apart := separated.number numeric
  have stop := stop_of_isNumber formed separated numeric number cut
  obtain ⟨digits, whole, inside, short, shape⟩ := digits_of_isNumber proper number same
  have magnitudeInside : ∀ c ∈ magnitude f.width n, isDigit c = true := fun _ =>
    Numeral.isDigit_of_mem_magnitude
  have left : pieces.flatten = written.flatten.dropWhile isDigit := by
    rw [← Text.dropWhile_run inside stop, whole, dropWhile_magnitude]
  have writtenStop := stop_of_dropWhile legible formed.2 (List.isChain_cons.mp separated).2 wrote
    apart cut left
  obtain ⟨rfl, -⟩ := Text.run_unique inside stop magnitudeInside writtenStop whole
  refine ⟨?_, ?_, short, ?_⟩
  · rcases shape with ⟨rfl, nonnegative⟩ | ⟨rfl, negative, -⟩
    · exact (Numeral.paddedText_of_nonneg nonnegative).symm
    · exact (Numeral.paddedText_of_neg negative).symm
  · intro fixed
    rcases shape with ⟨rfl, nonnegative⟩ | ⟨-, -, free⟩
    · rw [Field.IsNumber, if_pos fixed] at number
      have small := (Numeral.length_magnitude_eq_iff proper).mp number.1
      exact ⟨nonnegative, (Numeral.natAbs_lt_pow_iff nonnegative).mp small⟩
    · rw [fixed] at free
      cases free
  · intro g m next other given
    refine Int.not_le.mp fun nonnegative => ?_
    have digit := (opens_isDigit_iff legible wrote formed.2 apart).mpr
      ⟨g, m, next, other, given, nonnegative⟩
    rw [writtenStop] at digit
    cases digit

/-- **A name that is read where another was written is that one, written in step.** -/
theorem name_inStep (legible : l.Legible) (formed : Formed (.field f :: tokens))
    (separated : Separated (.field f :: tokens)) (wrote : Written (.ok l) v tokens written)
    {style : NameStyle} (named : f.specifier.style? = some style) {piece word : List Char}
    (present : word ≠ []) (letters : ∀ c ∈ word, isLetter c = true)
    (name : f.IsName l style piece pieces.flatten) (cut : Pieces l tokens pieces [])
    (same : piece ++ pieces.flatten = word ++ written.flatten) :
    piece = word ∧ f.NameInStep word tokens.head? := by
  have stop := stop_of_isName formed separated named name cut
  have apart : ∀ g, tokens.head? = some (.field g) → g.isWord = false := by
    intro g next
    refine Bool.eq_false_iff.mpr fun other => ?_
    rw [opens_pieces_name other next cut] at stop
    cases stop
  have writtenStop : opens isLetter written.flatten = false := by
    refine Bool.eq_false_iff.mpr fun letter => ?_
    obtain ⟨g, next, other⟩ :=
      (opens_isLetter_iff legible wrote formed.2 (separated.name named)).mp letter
    rw [apart g next] at other
    cases other
  obtain ⟨rfl, -⟩ := Text.run_unique name.2.1 stop letters writtenStop same
  exact ⟨rfl, name.2.2.2.1, apart⟩

/-- **A value whose text is read was written in step.** -/
theorem inStep_of_pieces (legible : l.Legible) (formed : Formed tokens)
    (separated : Separated tokens) (wrote : Written (.ok l) v tokens written)
    (cut : Pieces l tokens pieces []) (same : pieces.flatten = written.flatten) :
    InStep l v tokens := by
  induction wrote generalizing pieces with
  | nil => trivial
  | @cons t own tokens written first others ih =>
    obtain ⟨piece, pieces, rfl, suits, cutRest⟩ := pieces_cons.mp cut
    rw [List.append_nil] at suits
    rw [List.flatten_cons, List.flatten_cons] at same
    suffices piece = own ∧ t.InStep l v tokens.head? by
      obtain ⟨rfl, step⟩ := this
      have rest := ih formed.2 (List.isChain_cons.mp separated).2 cutRest
        (List.append_cancel_left same)
      exact ⟨step, rest⟩
    cases t with
    | literal text =>
      cases first
      exact ⟨suits, trivial⟩
    | field f =>
      cases style : f.specifier.style? with
      | none =>
        obtain ⟨n, given, -, rfl⟩ := (Field.render_number style).mp first
        simp only [Token.IsPiece, Field.IsPiece, style] at suits
        rw [Token.inStep_number style given]
        exact number_inStep legible formed separated others style suits cutRest same
      | some style' =>
        obtain ⟨n, name, given, known, rfl⟩ := (Field.render_name style).mp first
        obtain ⟨present, letters⟩ := legible.word_of_monthName known
        simp only [Token.IsPiece, Field.IsPiece, style] at suits
        rw [Token.inStep_name style given known]
        exact name_inStep legible formed separated others style present letters suits cutRest same

end Format

/-! ## What the written pieces say -/

/-- A written number stands for itself. -/
theorem Numeral.ofPiece_paddedText (width : Nat) (n : Int) :
    Numeral.ofPiece (paddedText width n) = n := by
  by_cases negative : n < 0
  · rw [paddedText_of_neg negative, Numeral.ofPiece, ofDigits_magnitude]
    omega
  · have nonnegative := Int.not_lt.mp negative
    have digit := opens_isDigit_paddedText width n []
    rw [List.append_nil, decide_eq_true nonnegative] at digit
    rw [Field.ofPiece_of_opens digit, paddedText_of_nonneg nonnegative, ofDigits_magnitude]
    omega

/-- What is written for a field stands for the field's value. -/
theorem Field.pieceValue_of_render {l : Locale} (legible : l.Legible) {f : Field} {v : Value}
    {piece : List Char} (written : f.render (.ok l) v = .ok piece) :
    v.field f.kind = .ok (f.pieceValue l piece) := by
  cases style : f.specifier.style? with
  | none =>
    obtain ⟨n, given, -, rfl⟩ := (Field.render_number style).mp written
    rw [Field.pieceValue, style, given]
    exact congrArg Except.ok (Numeral.ofPiece_paddedText f.width n).symm
  | some style' =>
    obtain ⟨n, name, given, known, rfl⟩ := (Field.render_name style).mp written
    obtain ⟨i, rfl, -⟩ := Locale.monthName_eq_ok.mp known
    rw [Field.pieceValue, style, given]
    simp only [legible.month?_of_monthName known]
    rfl

namespace Format

variable {l : Locale} {v : Value} {tokens : List Token} {pieces : List (List Char)}

/-- What the written pieces say are fields of the value. -/
theorem field_of_mem_entries (legible : l.Legible) (wrote : Written (.ok l) v tokens pieces)
    {kind : Kind} {n : Int} (mem : (kind, n) ∈ entries l tokens pieces) :
    v.field kind = .ok n := by
  induction wrote with
  | nil => cases mem
  | @cons t piece tokens pieces first others ih =>
    rw [entries_cons] at mem
    rcases List.mem_append.mp mem with here | there
    · cases t with
      | literal text => cases here
      | field f =>
        cases List.mem_singleton.mp here
        exact Field.pieceValue_of_render legible first
    · exact ih there

/-- The written pieces say something of the kinds of the fields. -/
theorem mem_kinds_entries (wrote : Written (.ok l) v tokens pieces) {kind : Kind} :
    kind ∈ (entries l tokens pieces).map (·.1) ↔ ∃ f, .field f ∈ tokens ∧ f.kind = kind := by
  induction wrote with
  | nil => simp [entries]
  | @cons t piece tokens pieces first others ih =>
    rw [entries_cons, List.map_append, List.mem_append, ih]
    cases t with
    | literal text => simp [Token.entry]
    | field g => simp [Token.entry, eq_comm]

/-- What the written pieces say are the fields of the value that the format has. -/
theorem areFieldsOf_entries (legible : l.Legible) {f : Format}
    (wrote : Written (.ok l) v f.tokens pieces) :
    (FieldValues.ofList (entries l f.tokens pieces)).AreFieldsOf v f.kinds where
  distinct := FieldValues.nodup_kinds_ofList _
  mem_kinds := by
    intro kind
    rw [FieldValues.mem_kinds_ofList, mem_kinds_entries wrote, mem_kinds]
  given := by
    intro kind n found
    rw [FieldValues.get?_ofList] at found
    exact field_of_mem_entries legible wrote (FieldValues.mem_of_lastOf found)

/-! ## The round trip -/

/-- **What is read back.** The text of a value, written in a compiled and separated format with the
names of a legible locale, is read as exactly the value's fields if it is written in step, and not
at all otherwise: it is never read as anything else. -/
theorem read_of_render {pattern : String} {f : Format} (compiled : compile pattern = .ok f)
    (separated : Separated f.tokens) {l : Locale} (legible : l.Legible) {v : Value}
    {text : String} (written : f.render (.ok l) v = .ok text) :
    (InStep l v f.tokens →
      ∃ values, f.read (.ok l) text = .ok values ∧ values.AreFieldsOf v f.kinds) ∧
    (¬InStep l v f.tokens → ∃ e, f.read (.ok l) text = .error e) := by
  have formed := (wellFormed_of_compile compiled).formed
  obtain ⟨pieces, wrote, whole⟩ := render_eq_ok.mp written
  constructor
  · intro step
    have cut := pieces_of_inStep legible formed separated wrote step
    exact ⟨_, read_of_split formed ⟨whole.symm, cut⟩, areFieldsOf_entries legible wrote⟩
  · intro outOfStep
    cases answer : f.read (.ok l) text with
    | error e => exact ⟨e, rfl⟩
    | ok values =>
      obtain ⟨others, same, cut⟩ := split_of_read answer
      rw [whole] at same
      exact absurd (inStep_of_pieces legible formed separated wrote cut same) outOfStep

/-- A day that is written as its year and the name of its month is read back. -/
theorem read_of_render_march : ∃ f values, compile "yyyy-uuu" = .ok f ∧
    f.render (.ok Locale.english) (.moment ⟨.day, 2018, 3, 5, 0, 0, 0⟩) = .ok "2018-Mar" ∧
    f.read (.ok Locale.english) "2018-Mar" = .ok values ∧
    values.AreFieldsOf (.moment ⟨.day, 2018, 3, 5, 0, 0, 0⟩) f.kinds := by
  have compiled : compile "yyyy-uuu" = .ok ⟨"yyyy-uuu", [.field ⟨.year, 4, true⟩,
    .literal ['-'], .field ⟨.monthAbbreviation, 3, false⟩]⟩ := rfl
  have separated : Separated [.field ⟨.year, 4, true⟩, .literal ['-'],
      .field ⟨.monthAbbreviation, 3, false⟩] :=
    List.isChain_cons_cons.mpr ⟨rfl, List.isChain_cons_cons.mpr ⟨trivial, .singleton _⟩⟩
  have step : InStep Locale.english (.moment ⟨.day, 2018, 3, 5, 0, 0, 0⟩)
      [.field ⟨.year, 4, true⟩, .literal ['-'], .field ⟨.monthAbbreviation, 3, false⟩] := by
    refine ⟨(Token.inStep_number rfl rfl).mpr ⟨fun _ => by decide, by decide, ?_⟩, trivial,
      (Token.inStep_name rfl rfl rfl).mpr ⟨?_, ?_⟩, trivial⟩
    · intro g m next
      cases next
    · intro fixed
      cases fixed
    · intro g next
      cases next
  obtain ⟨values, answer, fields⟩ :=
    (read_of_render compiled separated Locale.legible_english rfl).1 step
  exact ⟨_, values, compiled, rfl, answer, fields⟩

end Format

end PeriodText
