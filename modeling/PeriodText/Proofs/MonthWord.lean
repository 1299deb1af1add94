import PeriodText.Proofs.Format.Grammar
import PeriodText.Proofs.MonthLookup
import PeriodText.Proofs.Resolution
import PeriodText.Proofs.Session.Refinement

/-!
# Months in words

A pattern of the letter of month names alone takes a word as far as it consists of letters, and
looks the word up as it stands. So a word is read as a month exactly if the locale knows it and it
consists of letters (`Format.read_word_eq_ok`), and the month is the one that the word names:
`Request.parsePeriod_word`. A locale may know names that are no such words, with a full stop at the
end for one; these are not read.
-/

set_option autoImplicit false

namespace PeriodText

open Text (isLetter)

variable {l : Locale} {style : NameStyle}

/-! ## Patterns of one letter -/

/-- The specifier of names of the style. -/
def NameStyle.specifier : NameStyle → Specifier
  | .abbreviated => .monthAbbreviation
  | .full => .monthName

/-- The pattern of a name of the style and nothing else. -/
def NameStyle.pattern : NameStyle → String
  | .abbreviated => "u"
  | .full => "U"

/-- The format of a name of the style and nothing else. -/
def NameStyle.format (style : NameStyle) : Format :=
  ⟨style.pattern, [.field ⟨style.specifier, 1, false⟩]⟩

/-- It is the format of the pattern. -/
theorem NameStyle.compile_pattern (style : NameStyle) :
    Format.compile style.pattern = .ok style.format := by
  cases style <;> rfl

/-- The specifier names a month in the style. -/
theorem NameStyle.style?_specifier (style : NameStyle) :
    style.specifier.style? = some style ∧ style.specifier.kind = .month := by
  cases style <;> exact ⟨rfl, rfl⟩

/-! ## Words -/

namespace Format

/-- The only cut of a text is the text as a whole, if it consists of letters and is known. -/
theorem split_word_iff {pieces : List (List Char)} {text : List Char} :
    Split l style.format.tokens pieces text ↔ pieces = [text] ∧ text ≠ [] ∧
      (∀ c ∈ text, isLetter c = true) ∧ (l.month? style text).isSome = true := by
  have isPiece (word : List Char) :
      (Token.field ⟨style.specifier, 1, false⟩).IsPiece l word [] ↔ word ≠ [] ∧
        (∀ c ∈ word, isLetter c = true) ∧ (l.month? style word).isSome = true := by
    simp [Token.IsPiece, Field.IsPiece, Field.IsName, style.style?_specifier.1]
  constructor
  · rintro ⟨rfl, cut⟩
    obtain ⟨word, others, rfl, suits, rest⟩ := pieces_cons.mp cut
    obtain rfl := pieces_nil.mp rest
    rw [List.flatten_singleton]
    exact ⟨rfl, (isPiece word).mp suits⟩
  · rintro ⟨rfl, word⟩
    exact ⟨List.flatten_singleton, (isPiece text).mpr word, trivial⟩

/-- **A word is read as a month** if it consists of letters and the locale knows it, and nothing
else is. -/
theorem read_word_eq_ok {text : String} {values : FieldValues} :
    style.format.read (.ok l) text = .ok values ↔
      text.toList ≠ [] ∧ (∀ c ∈ text.toList, isLetter c = true) ∧
        ∃ month : Nat, l.month? style text.toList = some month ∧
          values = [(Kind.month, (month : Int))] := by
  have formed := (wellFormed_of_compile style.compile_pattern).formed
  have said {month : Nat} (known : l.month? style text.toList = some month) :
      entries l style.format.tokens [text.toList] = [(Kind.month, (month : Int))] := by
    simp [entries, NameStyle.format, Token.entry, Field.kind, Field.pieceValue,
      style.style?_specifier, known]
  constructor
  · intro done
    obtain ⟨pieces, cut⟩ := split_of_read done
    obtain ⟨rfl, present, letters, known⟩ := split_word_iff.mp cut
    obtain ⟨month, known⟩ := Option.isSome_iff_exists.mp known
    rw [read_of_split formed cut, said known] at done
    exact ⟨present, letters, month, known, (Except.ok.inj done).symm⟩
  · rintro ⟨present, letters, month, known, rfl⟩
    have cut := split_word_iff.mpr
      ⟨rfl, present, letters, Option.isSome_iff_exists.mpr ⟨month, known⟩⟩
    rw [read_of_split formed cut, said known]
    rfl

/-- What a word is read as is the bare month. -/
theorem parse_word_eq_ok {text : String} {r : Resolved} :
    style.format.parse (.ok l) none text = .ok r ↔
      text.toList ≠ [] ∧ (∀ c ∈ text.toList, isLetter c = true) ∧
        ∃ (month : Nat) (p : Period), l.month? style text.toList = some month ∧ r = .period p ∧
          p.kind = .month ∧ p.value = month := by
  rw [parse, bind_eq_ok]
  constructor
  · rintro ⟨values, read, done⟩
    obtain ⟨present, letters, month, known, rfl⟩ := read_word_eq_ok.mp read
    obtain ⟨p, rfl, counts⟩ := FieldValues.resolve_singleton_eq_ok.mp done
    exact ⟨present, letters, month, p, known, rfl, counts⟩
  · rintro ⟨present, letters, month, p, known, rfl, counts⟩
    exact ⟨_, read_word_eq_ok.mpr ⟨present, letters, month, known, rfl⟩,
      FieldValues.resolve_singleton_eq_ok.mpr ⟨p, rfl, counts⟩⟩

end Format

/-! ## Requests -/

namespace Request

variable {s : Session} {argument : LocaleArgument}

/-- A word is read in the format of its style. -/
theorem answer_parsePeriod_word (faithful : s.cache.Faithful Format.compile)
    (known : s.locale argument = .ok l) (style : NameStyle) (word : String) :
    (parsePeriod (.text word) (.datum (.text style.pattern)) (.datum .absent) argument).answer s =
      style.format.parse (.ok l) none word := by
  have look := computes_formatOf (.datum (.text style.pattern))
  rw [(computes_parsePeriod look (.text word) (.datum .absent) argument).answer_eq faithful]
  have same : s.locales.get argument = .ok l := known
  simp only [Stateless.parsePeriod, Stateless.formatOf, style.compile_pattern, same]
  rfl

/-- **Every word that the locale knows is read as its month**, in the pattern of its style, if it
consists of letters; and a text that is read in that pattern is a word that the locale knows as the
month. What was done in the session before makes no difference. -/
theorem parsePeriod_word {environment : Option String} {ops : List Operation}
    (known : (Session.after { environment } ops).locale argument = .ok l) (style : NameStyle)
    (word : String) :
    let s := Session.after { environment } ops
    let month := (readMonth style (.text word) argument).answer s
    let parsed :=
      (parsePeriod (.text word) (.datum (.text style.pattern)) (.datum .absent) argument).answer s
    (word ≠ "" → (∀ c ∈ word.toList, isLetter c = true) → ∀ m, month = .ok m →
      ∃ p, parsed = .ok (.period p) ∧ p.kind = .month ∧ p.value = m) ∧
    ∀ r, parsed = .ok r → ∃ m p, month = .ok m ∧ r = .period p ∧ p.kind = .month ∧
      p.value = m := by
  intro s month parsed
  obtain ⟨-, -, faithful⟩ := Session.refines_run ops (s := { environment })
    (RecentMap.faithful_empty _)
  have looked : month = l.readMonth style word.toList none := answer_readMonth known style _
  have read : parsed = style.format.parse (.ok l) none word :=
    answer_parsePeriod_word faithful known style word
  rw [looked, read]
  constructor
  · intro present letters m named
    have listed := Locale.readMonth_eq_ok.mp named
    obtain ⟨first, last⟩ := Locale.month?_bounds listed
    refine ⟨⟨.month, m, Count.fits_of_le (by omega) (by omega)⟩, ?_, rfl, rfl⟩
    exact Format.parse_word_eq_ok.mpr
      ⟨by simpa using present, letters, m, _, listed, rfl, rfl, rfl⟩
  · intro r done
    obtain ⟨-, -, m, p, listed, rfl, counts⟩ := Format.parse_word_eq_ok.mp done
    exact ⟨m, p, Locale.readMonth_eq_ok.mpr listed, rfl, counts⟩

/-- A French name is read in capitals too. -/
theorem parsePeriod_word_february : ∃ p,
    ({} : Session).locale (.named "french") = .ok Locale.french ∧
    (readMonth .full (.text "FÉVRIER") (.named "french")).answer {} = .ok 2 ∧
    (parsePeriod (.text "FÉVRIER") (.datum (.text "U")) (.datum .absent) (.named "french")).answer
      {} = .ok (.period p) ∧ p.kind = .month ∧ p.value = 2 := by
  have known : (Session.after {} []).locale (.named "french") = .ok Locale.french := rfl
  have named : (readMonth .full (.text "FÉVRIER") (.named "french")).answer {} = .ok 2 := by
    decide +kernel
  have letters : "FÉVRIER".toList.all isLetter = true := by decide +kernel
  obtain ⟨p, parsed, month, two⟩ :=
    (parsePeriod_word known .full "FÉVRIER").1 (by decide) (List.all_eq_true.mp letters)
      2 named
  exact ⟨p, known, named, parsed, month, two⟩

/-- **A name with a full stop is known, but not read**: it is no word. -/
theorem parsePeriod_word_dotted : ∃ l : Locale,
    l.abbreviations = ["janv.", "févr.", "mars", "avr.", "mai", "juin", "juil.", "août", "sept.",
      "oct.", "nov.", "déc."] ∧
    Text.strip "janv.".toList = "janv.".toList ∧
    (readMonth .abbreviated (.text "janv.") (.given l)).answer {} = .ok 1 ∧
    ¬∃ r, (parsePeriod (.text "janv.") (.datum (.text "u")) (.datum .absent) (.given l)).answer
      {} = .ok r := by
  let l : Locale := ⟨"dotted", Locale.french.months, ["janv.", "févr.", "mars", "avr.", "mai",
    "juin", "juil.", "août", "sept.", "oct.", "nov.", "déc."], rfl, rfl⟩
  have known : ({} : Session).locale (.given l) = .ok l := rfl
  have parsed := answer_parsePeriod_word (RecentMap.faithful_empty _) known .abbreviated "janv."
  refine ⟨l, rfl, by decide +kernel, by decide +kernel, ?_⟩
  rintro ⟨r, done⟩
  obtain ⟨-, letters, -⟩ := Format.parse_word_eq_ok.mp (parsed.symm.trans done)
  exact absurd (letters '.' (by decide)) (by decide +kernel)

end Request

end PeriodText
