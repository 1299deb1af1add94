import PeriodText.Format.Standard
import PeriodText.Proofs.Normalisation

/-!
# Texts that tell the numbers

What a value is written as need not be read back: a number may be negative or too long for its
fixed width. It can be told from the text all the same where the numbers are `Delimited`, each from
the next one by a literal that does not begin with a digit. For then a number ends where its digits
end, so that the text tells the number, whatever zeros were filled in, and what follows it
(`Numeral.paddedText_append_inj`).

So values that are written alike have the same numbers, and dates of one kind that differ in a
field of its chain are not written alike: `Format.render_injective`.
-/

set_option autoImplicit false

namespace PeriodText

open Numeral (isDigit isWritable magnitude ofDigits paddedText)
open Text (opens)

/-! ## Numbers -/

/-- **A written number and what follows it can be told** if that does not begin with a digit. -/
theorem Numeral.paddedText_append_inj {width width' : Nat} {n m : Int} {rest after : List Char}
    (stop : opens isDigit rest = false) (otherStop : opens isDigit after = false)
    (same : paddedText width n ++ rest = paddedText width' m ++ after) : n = m ∧ rest = after := by
  have sign : 0 ≤ n ↔ 0 ≤ m := by
    rw [← decide_eq_decide, ← opens_isDigit_paddedText width n rest, same,
      opens_isDigit_paddedText]
  have runs : magnitude width n ++ rest = magnitude width' m ++ after := by
    by_cases negative : n < 0
    · have other : m < 0 := Int.not_le.mp (mt sign.mpr (Int.not_le.mpr negative))
      rw [paddedText_of_neg negative, paddedText_of_neg other] at same
      exact (List.cons.inj same).2
    · have nonnegative : 0 ≤ n := Int.not_lt.mp negative
      rwa [paddedText_of_nonneg nonnegative, paddedText_of_nonneg (sign.mp nonnegative)] at same
  obtain ⟨digits, left⟩ := Text.run_unique (fun _ => isDigit_of_mem_magnitude) stop
    (fun _ => isDigit_of_mem_magnitude) otherStop runs
  have value := congrArg ofDigits digits
  rw [ofDigits_magnitude, ofDigits_magnitude] at value
  exact ⟨by omega, left⟩

/-! ## Tokens -/

namespace Format

/-- All fields are numbers, and what is directly after one is a literal that does not begin with a
digit, or nothing. -/
structure Delimited (tokens : List Token) : Prop where
  numeric : Numeric tokens
  spaced : Spaced tokens
  separated : Separated tokens

variable {locale other : Except Error Locale} {v w : Value} {g : Field} {t : Token}
  {tokens : List Token} {pieces others : List (List Char)}

/-- So are fewer of them. -/
theorem Delimited.tail (delimited : Delimited (t :: tokens)) : Delimited tokens where
  numeric g mem := delimited.numeric g (.tail _ mem)
  spaced := (List.isChain_cons.mp delimited.spaced).2
  separated := (List.isChain_cons.mp delimited.separated).2

/-- A number alone is delimited. -/
theorem delimited_singleton (numeric : g.specifier.style? = none) : Delimited [.field g] where
  numeric := by
    intro h mem
    cases List.mem_singleton.mp mem
    exact numeric
  spaced := .singleton _
  separated := .singleton _

/-- A number and a literal may be put before what is delimited. -/
theorem Delimited.cons {h : Field} {text : List Char} (numeric : g.specifier.style? = none)
    (stop : opens isDigit text = false) (delimited : Delimited (.field h :: tokens)) :
    Delimited (.field g :: .literal text :: .field h :: tokens) where
  numeric := by
    intro k mem
    rcases List.mem_cons.mp mem with same | mem
    · cases same
      exact numeric
    · rcases List.mem_cons.mp mem with impossible | mem
      · cases impossible
      · exact delimited.numeric k mem
  spaced := by
    refine .cons_cons (fun _ _ _ => nofun) (.cons_cons ?_ delimited.spaced)
    intro _ _ impossible
    cases impossible
  separated := by
    refine .cons_cons ?_ (.cons_cons trivial delimited.separated)
    rwa [Token.Apart, Field.isWord_eq_false.mpr numeric, if_neg Bool.false_ne_true]

/-- What is written after a number does not begin with a digit. -/
theorem Delimited.opens_written (delimited : Delimited (.field g :: tokens))
    (formed : Formed (.field g :: tokens)) (wrote : Written locale v tokens pieces) :
    opens isDigit pieces.flatten = false := by
  cases wrote with
  | nil => rfl
  | @cons t piece tokens pieces first _ =>
    cases t with
    | field h => exact absurd rfl ((List.isChain_cons_cons.mp delimited.spaced).1 g h rfl)
    | literal text =>
      obtain rfl : text = piece := Except.ok.inj first
      rw [List.flatten_cons, Text.opens_append formed.2.1.1]
      exact delimited.separated.number (delimited.numeric g List.mem_cons_self) text rfl

/-- **Two values that are written alike have the same numbers**, as their first numbers are, and
what is written after these is alike again. -/
theorem Delimited.fields_of_written (delimited : Delimited tokens) (formed : Formed tokens)
    (wrote : Written locale v tokens pieces) (again : Written other w tokens others)
    (same : pieces.flatten = others.flatten) (mem : .field g ∈ tokens) :
    ∃ n, v.field g.kind = .ok n ∧ w.field g.kind = .ok n := by
  -- The induction is on what is written for one value; what is written for the other follows it.
  induction wrote generalizing others with
  | nil => cases mem
  | @cons t piece tokens pieces first rest ih =>
    obtain ⟨piece', others, second, restToo, rfl⟩ := List.forall₂_cons_left_iff.mp again
    rw [List.flatten_cons, List.flatten_cons] at same
    cases t with
    | literal text =>
      obtain rfl : text = piece := Except.ok.inj first
      obtain rfl : text = piece' := Except.ok.inj second
      have later : .field g ∈ tokens := (List.mem_cons.mp mem).resolve_left nofun
      exact ih delimited.tail formed.2 restToo (List.append_cancel_left same) later
    | field h =>
      have numeric : h.specifier.style? = none := delimited.numeric h List.mem_cons_self
      obtain ⟨n, given, -, rfl⟩ := (Field.render_number numeric).mp first
      obtain ⟨m, givenToo, -, rfl⟩ := (Field.render_number numeric).mp second
      obtain ⟨rfl, left⟩ := Numeral.paddedText_append_inj (delimited.opens_written formed rest)
        (delimited.opens_written formed restToo) same
      rcases List.mem_cons.mp mem with here | later
      · cases here
        exact ⟨n, given, givenToo⟩
      · exact ih delimited.tail formed.2 restToo left later

/-- Two values that are written alike in a format have the same fields of its kinds. -/
theorem Delimited.fields_of_render {f : Format} (delimited : Delimited f.tokens)
    (formed : Formed f.tokens) {text : String} (first : f.render locale v = .ok text)
    (second : f.render other w = .ok text) {kind : Kind} (mem : kind ∈ f.kinds) :
    ∃ n, v.field kind = .ok n ∧ w.field kind = .ok n := by
  obtain ⟨pieces, wrote, whole⟩ := render_eq_ok.mp first
  obtain ⟨others, again, wholeToo⟩ := render_eq_ok.mp second
  obtain ⟨g, listed, rfl⟩ := mem_kinds.mp mem
  exact delimited.fields_of_written formed wrote again (whole.symm.trans wholeToo) listed

/-- Numbers are written for a value that has them, if they are not too long. -/
theorem exists_written_numeric (locale : Except Error Locale) (numeric : Numeric tokens)
    (short : ∀ g, .field g ∈ tokens → ∃ n, v.field g.kind = .ok n ∧ isWritable n = true) :
    ∃ pieces, Written locale v tokens pieces := by
  refine exists_written.mpr fun t mem => ?_
  cases t with
  | literal text => exact ⟨text, rfl⟩
  | field g =>
    obtain ⟨n, given, writable⟩ := short g mem
    exact ⟨_, (Field.render_number (numeric g mem)).mpr ⟨n, given, writable, rfl⟩⟩

end Format

/-! ## Dates -/

/-- The standard format of a kind has the fields of its chain, and their numbers are delimited. -/
theorem Kind.standardFormat?_of_chain {kind : Kind} {chain : List Kind}
    (found : kind.chain? = some chain) :
    ∃ pattern f, Format.compile pattern = .ok f ∧ kind.standardFormat? = some f ∧
      Format.Delimited f.tokens ∧ f.kinds = chain := by
  have alone (g : Field) (numeric : g.specifier.style? = none) := Format.delimited_singleton numeric
  cases kind <;> cases found
  · exact ⟨"yyyy", ⟨_, [.field ⟨.year, 4, false⟩]⟩, rfl, rfl, alone _ rfl, rfl⟩
  · exact ⟨"yyyy-Ss", ⟨_, [.field ⟨.year, 4, true⟩, .literal ['-', 'S'],
      .field ⟨.semester, 1, false⟩]⟩, rfl, rfl, .cons rfl rfl (alone _ rfl), rfl⟩
  · exact ⟨"yyyy-Qq", ⟨_, [.field ⟨.year, 4, true⟩, .literal ['-', 'Q'],
      .field ⟨.quarter, 1, false⟩]⟩, rfl, rfl, .cons rfl rfl (alone _ rfl), rfl⟩
  · exact ⟨"yyyy-mm", ⟨_, [.field ⟨.year, 4, true⟩, .literal ['-'],
      .field ⟨.month, 2, false⟩]⟩, rfl, rfl, .cons rfl rfl (alone _ rfl), rfl⟩
  · exact ⟨"yyyy-Www", ⟨_, [.field ⟨.year, 4, true⟩, .literal ['-', 'W'],
      .field ⟨.week, 2, false⟩]⟩, rfl, rfl, .cons rfl rfl (alone _ rfl), rfl⟩
  · exact ⟨"yyyy-mm-dd", ⟨_, [.field ⟨.year, 4, true⟩, .literal ['-'],
      .field ⟨.month, 2, true⟩, .literal ['-'], .field ⟨.day, 2, false⟩]⟩, rfl, rfl,
      .cons rfl rfl (.cons rfl rfl (alone _ rfl)), rfl⟩

/-- The standard format of a date is that of its kind. -/
theorem Value.standardFormat_date {d : PeriodDate} {f : Format}
    (standard : d.kind.standardFormat? = some f) : Value.standardFormat (.date d) = .ok f := by
  unfold Value.standardFormat
  rw [Value.kind?, Option.bind_some, standard]

/-- A date has a text, in the standard format of its kind. -/
theorem PeriodDate.exists_text (d : PeriodDate) {f : Format}
    (standard : d.kind.standardFormat? = some f) (numeric : Format.Numeric f.tokens)
    (set : ∀ kind ∈ f.kinds, (d.fields.get kind).isSome = true) :
    ∃ text, d.text = .ok text ∧ f.render (.ok Locale.english) (.date d) = .ok text := by
  have short (g : Field) (mem : .field g ∈ f.tokens) :
      ∃ n, Value.field (.date d) g.kind = .ok n ∧ isWritable n = true := by
    obtain ⟨c, stored⟩ := Option.isSome_iff_exists.mp
      (set g.kind (Format.mem_kinds.mpr ⟨g, mem, rfl⟩))
    exact ⟨c.toInt, Value.field_of_stored stored, Count.isWritable_of_fits c.fits⟩
  obtain ⟨pieces, wrote⟩ := Format.exists_written_numeric (.ok Locale.english) numeric short
  have written := Format.render_eq_ok.mpr ⟨pieces, wrote, String.toList_ofList⟩
  refine ⟨_, ?_, written⟩
  rw [PeriodDate.text, Value.standardFormat_date standard]
  exact written

namespace Format

/-- **Values that are written alike have the same fields**, where the numbers of a format are
delimited, whatever their sign and their length. So the texts of two dates of one kind differ as
soon as one field of its chain does. -/
theorem render_injective :
    (∀ pattern f, compile pattern = .ok f → Delimited f.tokens →
      ∀ locale other v w text, f.render locale v = .ok text → f.render other w = .ok text →
        ∀ kind ∈ f.kinds, ∃ n, v.field kind = .ok n ∧ w.field kind = .ok n) ∧
    ∀ d e : PeriodDate, d.kind = e.kind → ∃ text other, d.text = .ok text ∧ e.text = .ok other ∧
      (text = other → ∀ chain, d.kind.chain? = some chain →
        ∀ kind ∈ chain, d.fields.get kind = e.fields.get kind) := by
  constructor
  · intro pattern f compiled delimited locale other v w text first second kind mem
    have formed := (wellFormed_of_compile compiled).formed
    exact delimited.fields_of_render formed first second mem
  · intro d e same
    obtain ⟨chain, found, set⟩ := d.exists_chain
    obtain ⟨chainToo, foundToo, setToo⟩ := e.exists_chain
    obtain rfl : chain = chainToo :=
      Option.some.inj (found.symm.trans (same ▸ foundToo))
    obtain ⟨pattern, f, compiled, standard, delimited, rfl⟩ := Kind.standardFormat?_of_chain found
    obtain ⟨text, own, first⟩ := d.exists_text standard delimited.numeric set
    obtain ⟨other, ownToo, second⟩ := e.exists_text (same ▸ standard) delimited.numeric setToo
    refine ⟨text, other, own, ownToo, ?_⟩
    rintro rfl chain again kind mem
    cases found.symm.trans again
    have formed := (wellFormed_of_compile compiled).formed
    obtain ⟨n, given, givenToo⟩ := delimited.fields_of_render formed first second mem
    obtain ⟨c, stored⟩ := Option.isSome_iff_exists.mp (set kind mem)
    obtain ⟨c', storedToo⟩ := Option.isSome_iff_exists.mp (setToo kind mem)
    rw [Value.field_of_stored stored] at given
    rw [Value.field_of_stored storedToo] at givenToo
    rw [stored, storedToo, Count.ext (Except.ok.inj (given.trans givenToo.symm))]

/-- A month out of range of a negative year is not read back, but its text tells it: no record that
is written alike has another month. And the month after it has another text. -/
theorem render_injective_month : ∃ (f : Format) (d e : PeriodDate),
    compile "yyyy-mm" = .ok f ∧ d.kind = .month ∧ e.kind = .month ∧
    f.render (.ok Locale.english) (.date d) = .ok "-12345-100" ∧
    (¬∃ values, f.read (.ok Locale.english) "-12345-100" = .ok values) ∧
    (∀ r, f.render (.ok Locale.english) (.record r) = .ok "-12345-100" →
      Value.field (.record r) .month = .ok 100) ∧
    d.text ≠ e.text := by
  let f : Format := ⟨"yyyy-mm", [.field ⟨.year, 4, true⟩, .literal ['-'],
    .field ⟨.month, 2, false⟩]⟩
  let d : PeriodDate :=
    ⟨.month, { year := some ⟨-12345, by decide⟩, month := some ⟨100, by decide⟩ }, rfl⟩
  let e : PeriodDate :=
    ⟨.month, { year := some ⟨-12345, by decide⟩, month := some ⟨101, by decide⟩ }, rfl⟩
  have delimited : Delimited f.tokens := .cons rfl rfl (delimited_singleton rfl)
  have written : f.render (.ok Locale.english) (.date d) = .ok "-12345-100" := rfl
  have unread : ¬∃ values, f.read (.ok Locale.english) "-12345-100" = .ok values := by
    rintro ⟨values, done⟩
    cases done
  refine ⟨f, d, e, rfl, rfl, rfl, written, unread, ?_, ?_⟩
  · intro r again
    obtain ⟨n, given, givenToo⟩ :=
      render_injective.1 "yyyy-mm" f rfl delimited _ _ _ _ _ written again .month (by decide)
    cases given
    exact givenToo
  · obtain ⟨text, other, first, second, tells⟩ := render_injective.2 d e rfl
    rw [first, second]
    intro same
    have months := tells (Except.ok.inj same) _ rfl .month (by decide)
    exact absurd months (by decide)

end Format
end PeriodText
