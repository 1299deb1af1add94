import PeriodText.Proofs.Answer
import PeriodText.Proofs.RecentMap
import PeriodText.Proofs.Session.Computes
import PeriodText.Series

/-!
# Answers without a session

What requests answer as functions of their arguments, with a pattern compiled afresh each time and
the locales of the moment. As long as the cache is faithful, the requests compute these functions:
`Request.computes_formatValue`, `Request.computes_parsePeriod`, `Request.computes_formatSeries`
and `Request.computes_parseSeries`.
-/

set_option autoImplicit false

namespace PeriodText

/-- What becomes of the answer for a cell: only errors of reading are skipped. -/
def CellErrors.settle {α : Type} : CellErrors → Except Error (Option α) → Except Error (Option α)
  | skip, .error (.read _) => .ok none
  | _, answer => answer

/-- What is left of the answer for a cell once errors of reading are told apart. -/
def Stateless.skimmed {α : Type} : Except Error α → Except Error (Except ReadError α)
  | .ok a => .ok (.ok a)
  | .error (.read cause) => .ok (.error cause)
  | .error e => .error e

/-! ## The functions -/

namespace Stateless

/-- The format of a pattern. -/
def format : Datum → Except Error Format
  | .text p => Format.compile p
  | .list items => .error (.type (.unhashable (Datum.list items).typeName))
  | d => .error (.type (.pattern d.typeName))

/-- The format that an argument stands for. -/
def formatOf : FormatArgument → Except Error Format
  | .compiled f => .ok f
  | .datum (.text p) => Format.compile p
  | .datum d => .error (.type (.format d.typeName))

variable (e : Locales)

/-- A value as text, in the standard format of its kind if none is given. -/
def formatValue (v : Value) (format : FormatArgument) (argument : LocaleArgument) :
    Except Error String := do
  let f ← match format with
    | .datum .absent => v.standardFormat
    | _ => formatOf format
  f.render (e.get argument) v

/-- The period that a text is. -/
def parsePeriod (source : Datum) (format : FormatArgument) (kind : KindArgument)
    (argument : LocaleArgument) : Except Error Resolved :=
  match source with
  | .text text => do
    let f ← formatOf format
    let target ← kind.resolve
    f.parse (e.get argument) target text
  | d => .error (.type (.source d.typeName))

/-- A cell as text, in a format or in the standard one. -/
def formatCell (format : Option Format) (argument : LocaleArgument) (v : Value) :
    Except Error (Option String) := do
  if ← v.isMissing then return none
  else
    let f := match format with
      | some f => FormatArgument.compiled f
      | none => .datum .absent
    let text ← formatValue e v f argument
    return some text

/-- A series as text. -/
def formatSeries (column : Series Value) (format : FormatArgument) (argument : LocaleArgument) :
    Except Error (Series (Option String)) := do
  let f ← match format with
    | .datum .absent => pure none
    | _ => some <$> formatOf format
  let texts ← column.values.mapM (formatCell e f argument)
  return column.withValues texts

/-- The period that a cell is. -/
def parseCell (f : Format) (kind : Option Kind) (argument : LocaleArgument) (v : Value) :
    Except Error (Option Resolved) := do
  if ← v.isMissing then return none
  else
    let text ← v.plain
    let resolved ← f.parse (e.get argument) kind text
    return some resolved

/-- The periods that a series is. -/
def parseSeries (column : Series Value) (format : FormatArgument) (kind : KindArgument)
    (argument : LocaleArgument) (errors : Datum) : Except Error (Series (Option Resolved)) := do
  let mode ← CellErrors.ofDatum errors
  let f ← formatOf format
  let target ← kind.resolve
  let periods ← column.values.mapM fun v => mode.settle (parseCell e f target argument v)
  return column.withValues periods

end Stateless

/-! ## Cells in messages -/

namespace Datum

theorem numeral_of_integerText {n : Int} {e : Error} (refused : integerText n = .error e) :
    ∃ refusal, e = .numeral refusal := by
  unfold integerText at refused
  split at refused
  · cases refused
  · cases refused
    exact ⟨_, rfl⟩

mutual

/-- Only a number that is too long to write cannot be shown. -/
theorem numeral_of_shown {e : Error} :
    (d : Datum) → d.shown = .error e → ∃ refusal, e = .numeral refusal
  | absent, refused => by cases refused
  | flag _, refused => by cases refused
  | integer _, refused => numeral_of_integerText refused
  | real _, refused => by cases refused
  | text _, refused => by cases refused
  | list items, refused => by
    rw [shown] at refused
    rcases bind_eq_error.mp refused with inside | ⟨parts, -, impossible⟩
    · exact numeral_of_shownAll items inside
    · cases impossible

/-- So it is in a list. -/
theorem numeral_of_shownAll {e : Error} :
    (items : List Datum) → shownAll items = .error e → ∃ refusal, e = .numeral refusal
  | [], refused => by cases refused
  | item :: rest, refused => by
    rw [shownAll] at refused
    rcases bind_eq_error.mp refused with first | ⟨part, -, others⟩
    · exact numeral_of_shown item first
    · rcases bind_eq_error.mp others with later | ⟨parts, -, impossible⟩
      · exact numeral_of_shownAll rest later
      · cases impossible

end

end Datum

/-- Only of a list may it be unclear whether it is missing. -/
theorem Value.ambiguous_of_isMissing {v : Value} {e : Error} (refused : v.isMissing = .error e) :
    ∃ size, e = .ambiguousCell size := by
  cases v with
  | datum d =>
    cases d with
    | list items =>
      unfold isMissing at refused
      dsimp only at refused
      split at refused
      · split at refused <;> cases refused
      · cases refused
        exact ⟨_, rfl⟩
    | real value => cases value <;> cases refused
    | absent | flag | integer | text => cases refused
  | period | date | moment | noTime | span | record => cases refused

/-- A value that a text is made of, or that is no text for a reason of reading, can be shown. -/
theorem Value.exists_shown {v : Value}
    (plain : (∃ text, v.plain = .ok text) ∨ ∃ cause, v.plain = .error (.read cause)) :
    ∃ shown, v.shown = .ok shown := by
  cases v with
  | datum d =>
    cases d with
    | text value => exact ⟨_, rfl⟩
    | absent | flag | integer | real | list =>
      rcases plain with done | ⟨cause, refused⟩
      · exact done
      · obtain ⟨refusal, impossible⟩ := Datum.numeral_of_shown _ refused
        cases impossible
  | period | date | moment | noTime | span | record => exact ⟨_, rfl⟩

/-! ## The requests -/

namespace Request

variable {P : RecentMap String Format → Prop}

theorem computes_render (f : Format) (v : Value) (argument : LocaleArgument) :
    Computes P (render f v argument) fun e => f.render (e.get argument) v :=
  fun s held => ⟨_, run_render f v argument s, rfl, held⟩

theorem computes_parse (f : Format) (kind : Option Kind) (text : String)
    (argument : LocaleArgument) :
    Computes P (parse f kind text argument) fun e => f.parse (e.get argument) kind text :=
  fun s held => ⟨_, run_parse f argument s kind text, rfl, held⟩

/-- **A format that is looked up is the format of its pattern**, as long as the cache is
faithful. -/
theorem computes_format (pattern : Datum) :
    Computes (RecentMap.Faithful Format.compile) (format pattern)
      fun _ => Stateless.format pattern := by
  intro s faithful
  cases pattern with
  | text p =>
    obtain ⟨answer, still⟩ := faithful.fetch cacheBound p
    refine ⟨((format (.text p)).run s).2, ?_, rfl, still⟩
    exact congrArg (·, _) answer
  | list items => exact ⟨s, rfl, rfl, faithful⟩
  | absent | flag | integer | real => exact ⟨_, rfl, rfl, faithful⟩

theorem computes_formatOf (format : FormatArgument) :
    Computes (RecentMap.Faithful Format.compile) (formatOf format)
      fun _ => Stateless.formatOf format := by
  cases format with
  | compiled f => exact computes_pure f
  | datum d =>
    cases d with
    | text p => exact computes_format (.text p)
    | absent | flag | integer | real | list => exact computes_throw _

variable {format : FormatArgument}
  (look : Computes P (formatOf format) fun _ => Stateless.formatOf format)
include look

theorem computes_formatValue (v : Value) (argument : LocaleArgument) :
    Computes P (formatValue v format argument)
      fun e => Stateless.formatValue e v format argument := by
  cases format with
  | compiled f => exact look.bind fun f => computes_render f v argument
  | datum d =>
    cases d with
    | absent => exact (computes_ofExcept _).bind fun f => computes_render f v argument
    | flag | integer | real | text | list =>
      exact look.bind fun f => computes_render f v argument

theorem computes_parsePeriod (source : Datum) (kind : KindArgument) (argument : LocaleArgument) :
    Computes P (parsePeriod source format kind argument)
      fun e => Stateless.parsePeriod e source format kind argument := by
  cases source with
  | text text =>
    exact look.bind fun f => (computes_ofExcept _).bind fun target =>
      computes_parse f target text argument
  | absent | flag | integer | real | list => exact computes_throw _

omit look

/-- Without a format there is none to look up. -/
theorem computes_formatCell (f : Option Format) (argument : LocaleArgument) (v : Value) :
    Computes P (formatCell f argument v) fun e => Stateless.formatCell e f argument v := by
  refine (computes_ofExcept _).bind fun missing => ?_
  cases missing with
  | true => exact computes_pure none
  | false =>
    refine Computes.bind ?_ fun text => computes_pure (some text)
    cases f with
    | some f => exact computes_formatValue (computes_pure f) v argument
    | none => exact computes_formatValue (computes_throw _) v argument

theorem computes_parseCell (f : Format) (kind : Option Kind) (argument : LocaleArgument)
    (v : Value) :
    Computes P (parseCell f kind argument v) fun e => Stateless.parseCell e f kind argument v := by
  refine (computes_ofExcept _).bind fun missing => ?_
  cases missing with
  | true => exact computes_pure none
  | false =>
    exact (computes_ofExcept _).bind fun text => (computes_parse f kind text argument).bind
      fun resolved => computes_pure (some resolved)

/-- A cell that is not read can be shown. -/
theorem exists_shown_of_parseCell {e : Locales} {f : Format} {kind : Option Kind}
    {argument : LocaleArgument} {v : Value} {cause : ReadError}
    (refused : Stateless.parseCell e f kind argument v = .error (.read cause)) :
    ∃ shown, v.shown = .ok shown := by
  rcases bind_eq_error.mp refused with odd | ⟨missing, -, read⟩
  · obtain ⟨size, impossible⟩ := Value.ambiguous_of_isMissing odd
    cases impossible
  · cases missing with
    | true => cases read
    | false =>
      refine Value.exists_shown ?_
      rcases bind_eq_error.mp read with first | ⟨text, plain, -⟩
      · exact .inr ⟨cause, first⟩
      · exact .inl ⟨text, plain⟩

/-- A cell is skimmed if it is read or not read for a reason of reading. -/
theorem computes_skimCell (f : Format) (kind : Option Kind) (argument : LocaleArgument)
    (v : Value) :
    Computes P (skimCell f kind argument v)
      fun e => Stateless.skimmed (Stateless.parseCell e f kind argument v) := by
  change Computes P _ fun e => Except.ok (Stateless.parseCell e f kind argument v) >>=
    fun answer => Stateless.skimmed answer
  refine (computes_parseCell f kind argument v).attempt.bind_of fun answer given => ?_
  cases answer with
  | ok resolved => exact computes_pure _
  | error e =>
    cases e with
    | read cause =>
      obtain ⟨e, read⟩ := given
      obtain ⟨shown, plain⟩ := exists_shown_of_parseCell (Except.ok.inj read)
      dsimp only
      rw [plain]
      exact (computes_ofExcept _).bind fun _ => (computes_note _).bind fun _ => computes_pure _
    | _ => exact computes_throw _

theorem settle_eq {α : Type} (answer : Except Error (Option α)) :
    CellErrors.skip.settle answer =
      (Stateless.skimmed answer).map fun skimmed => skimmed.toOption.join := by
  cases answer with
  | ok a => rfl
  | error e => cases e <;> rfl

include look

theorem computes_formatSeries (column : Series Value) (argument : LocaleArgument) :
    Computes P (formatSeries column format argument)
      fun e => Stateless.formatSeries e column format argument := by
  have texts (f : Option Format) :=
    (Computes.mapM (computes_formatCell (P := P) f argument) column.values).bind
      fun texts => computes_pure (column.withValues texts)
  cases format with
  | compiled f => exact (look.bind fun f => computes_pure (some f)).bind texts
  | datum d =>
    cases d with
    | absent => exact (computes_pure none).bind texts
    | flag | integer | real | text | list =>
      exact (look.bind fun f => computes_pure (some f)).bind texts

theorem computes_parseSeries (column : Series Value) (kind : KindArgument)
    (argument : LocaleArgument) (errors : Datum) :
    Computes P (parseSeries column format kind argument errors)
      fun e => Stateless.parseSeries e column format kind argument errors := by
  refine (computes_ofExcept _).bind fun mode => look.bind fun f =>
    (computes_ofExcept _).bind fun target => ?_
  cases mode with
  | fail =>
    exact (Computes.mapM (computes_parseCell f target argument) column.values).bind
      fun periods => computes_pure (column.withValues periods)
  | skip =>
    have cells := Computes.mapM (computes_skimCell (P := P) f target argument) column.values
    have told (answers : List (Except ReadError (Option Resolved))) (skipped : Nat) :
        Computes P (do
          if 0 < skipped then note [.cellsSkipped skipped column.values.length]
          return column.withValues (answers.map fun answer => answer.toOption.join))
          fun _ => .ok (column.withValues (answers.map fun answer => answer.toOption.join)) := by
      split
      · exact (computes_note _).bind fun _ => computes_pure _
      · exact computes_pure _
    refine (cells.bind fun answers => told answers _).congr fun e => ?_
    simp only [settle_eq, mapM_map]
    cases column.values.mapM fun v => Stateless.skimmed (Stateless.parseCell e f target argument v)
      <;> rfl

end Request

end PeriodText
