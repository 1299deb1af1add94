import PeriodText.Proofs.Failures
import PeriodText.Proofs.Session.Stateless

/-!
# Cells that cannot be read

A series that is read leniently skips the cells that are refused by an error of reading, and those
alone. A cell whose number is no count, or has too many digits to be read at all, is refused by
other errors, and these are the errors of the whole series: `Request.parseSeries_lenient`.
-/

set_option autoImplicit false

namespace PeriodText

/-- The cell is a text or missing. -/
def Value.IsCell (v : Value) : Prop :=
  (∃ text, v = .datum (.text text)) ∨ v.isMissing = .ok true

/-- The cell, read on its own, with nothing for what is missing or cannot be read. -/
def Value.readOr (read : String → Except Error Resolved) : Value → Option Resolved
  | .datum (.text text) => (read text).toOption
  | _ => none

/-- What is missing is no text. -/
theorem Value.readOr_of_missing {v : Value} (missing : v.isMissing = .ok true)
    (read : String → Except Error Resolved) : v.readOr read = none := by
  unfold readOr
  split
  · cases missing
  · rfl

/-- A cell is settled by its period, or by nothing if it is refused by an error of reading; any
other error stays. -/
theorem CellErrors.settle_cases (answer : Except Error Resolved) :
    ((∀ e, answer = .error e → ∃ cause, e = .read cause) ∧
      skip.settle (answer.map some) = .ok answer.toOption) ∨
    ∃ e, answer = .error e ∧ (¬∃ cause, e = .read cause) ∧
      skip.settle (answer.map some) = .error e := by
  cases answer with
  | ok r => exact .inl ⟨nofun, rfl⟩
  | error e =>
    cases e with
    | read cause => exact .inl ⟨fun e refused => ⟨cause, (Except.error.inj refused).symm⟩, rfl⟩
    | _ => exact .inr ⟨_, rfl, nofun, rfl⟩

/-- Nothing is skipped unless it is asked for. -/
theorem CellErrors.settle_fail {α : Type} (answer : Except Error (Option α)) :
    fail.settle answer = answer := by
  cases answer <;> rfl

namespace Stateless

variable (e : Locales) (f : Format) (target : Option Kind) (argument : LocaleArgument)

theorem parseCell_text (text : String) : parseCell e f target argument (.datum (.text text)) =
    (f.parse (e.get argument) target text).map some := by
  change f.parse (e.get argument) target text >>= (fun resolved => .ok (some resolved)) = _
  exact bind_ok_eq_map _ _

theorem parseCell_missing {v : Value} (missing : v.isMissing = .ok true) :
    parseCell e f target argument v = .ok none := by
  rw [parseCell, missing]
  rfl

/-- A series is read cell by cell, in the format and as the kind that are found for the
arguments. -/
theorem parseSeries_eq {e : Locales} {format : FormatArgument} {f : Format}
    (found : formatOf format = .ok f) {kind : KindArgument} {target : Option Kind}
    (asked : kind.resolve = .ok target) {errors : Datum} {mode : CellErrors}
    (named : CellErrors.ofDatum errors = .ok mode) (column : Series Value)
    (argument : LocaleArgument) :
    parseSeries e column format kind argument errors =
      (column.values.mapM fun v => mode.settle (parseCell e f target argument v)).map
        column.withValues := by
  simp only [parseSeries, named, found, asked]
  exact bind_ok_eq_map _ _

/-- A cell is settled as what it is read as, with nothing where it is missing or does not match, or
else it is a text that is refused by another error. -/
theorem settle_parseCell {v : Value} (cell : v.IsCell) :
    let read := f.parse (e.get argument) target
    let settled := CellErrors.skip.settle (parseCell e f target argument v)
    ((∀ text failure, v = .datum (.text text) → read text = .error failure →
        ∃ cause, failure = .read cause) ∧ settled = .ok (v.readOr read)) ∨
      ∃ text failure, v = .datum (.text text) ∧ read text = .error failure ∧
        (¬∃ cause, failure = .read cause) ∧ settled = .error failure := by
  intro read settled
  rcases cell with ⟨text, rfl⟩ | missing
  · have same : settled = CellErrors.skip.settle ((read text).map some) :=
      congrArg CellErrors.skip.settle (parseCell_text e f target argument text)
    rcases CellErrors.settle_cases (read text) with
      ⟨skipped, done⟩ | ⟨failure, refused, hard, stays⟩
    · refine .inl ⟨?_, same.trans done⟩
      rintro _ failure ⟨⟩ refused
      exact skipped failure refused
    · exact .inr ⟨text, failure, rfl, refused, hard, same.trans stays⟩
  · refine .inl ⟨?_, ?_⟩
    · rintro text failure rfl
      cases missing
    · rw [Value.readOr_of_missing missing]
      exact congrArg CellErrors.skip.settle (parseCell_missing e f target argument missing)

/-- Cells are settled one by one, or else a text that is refused by another error decides. -/
theorem settle_cells {cells : List Value} (each : ∀ v ∈ cells, v.IsCell) :
    let read := f.parse (e.get argument) target
    let settled := cells.mapM fun v => CellErrors.skip.settle (parseCell e f target argument v)
    ((∀ text failure, .datum (.text text) ∈ cells → read text = .error failure →
        ∃ cause, failure = .read cause) ∧ settled = .ok (cells.map (Value.readOr read))) ∨
      ∃ text failure, .datum (.text text) ∈ cells ∧ read text = .error failure ∧
        (¬∃ cause, failure = .read cause) ∧ settled = .error failure := by
  intro read settled
  cases outcome : settled with
  | ok periods =>
    have skipped (v) (mem : v ∈ cells) :=
      (settle_parseCell e f target argument (each v mem)).resolve_right (by
        rintro ⟨_, _, -, -, -, refused⟩
        obtain ⟨b, done⟩ := forall_of_mapM_eq_ok outcome v mem
        cases refused.symm.trans done)
    refine .inl ⟨fun text failure mem => (skipped _ mem).1 text failure rfl, ?_⟩
    exact outcome.symm.trans (mapM_eq_ok_map fun v mem => (skipped v mem).2)
  | error failure =>
    obtain ⟨v, mem, refused⟩ := exists_of_mapM_eq_error outcome
    rcases settle_parseCell e f target argument (each v mem) with
      ⟨-, done⟩ | ⟨text, other, rfl, failed, hard, stays⟩
    · cases done.symm.trans refused
    · cases stays.symm.trans refused
      exact .inr ⟨text, failure, mem, failed, hard, rfl⟩

end Stateless

namespace Request

/-- What a lenient series answers, cell by cell. -/
theorem answer_parseSeries_lenient (s : Session) (argument : LocaleArgument) (f : Format)
    {kind : KindArgument} {target : Option Kind} (asked : kind.resolve = .ok target)
    (column : Series Value) :
    (parseSeries column (.compiled f) kind argument (.text "coerce")).answer s =
      (column.values.mapM fun v => CellErrors.skip.settle
        (Stateless.parseCell s.locales f target argument v)).map column.withValues := by
  have look : Computes (fun _ => True) (formatOf (.compiled f))
    fun _ => Stateless.formatOf (.compiled f) := computes_pure f
  rw [(computes_parseSeries look column kind argument (.text "coerce")).answer_eq trivial]
  exact Stateless.parseSeries_eq rfl asked rfl column argument

/-- **What a lenient series answers.** Where every cell is a text or missing, the format is
compiled, the kind asked for has dates and the locale is known, either every text that is no period
is refused by an error of reading, and the series is answered with nothing for these and for the
missing cells; or some text overflows or has a number too long to be read, and its error is that of
the series. -/
theorem parseSeries_lenient (s : Session) (argument : LocaleArgument) (f : Format)
    {l : Locale} (known : s.locale argument = .ok l) {kind : KindArgument} {target : Option Kind}
    (asked : kind.resolve = .ok target) (dated : target ≠ some .undated)
    {column : Series Value} (cells : ∀ v ∈ column.values, v.IsCell) :
    let read text := (parsePeriod (.text text) (.compiled f) kind argument).answer s
    let answer := (parseSeries column (.compiled f) kind argument (.text "coerce")).answer s
    ((∀ text, .datum (.text text) ∈ column.values → ∀ e, read text = .error e →
        e.family.lineage.contains .reading = true) ∧
      answer = .ok (column.withValues (column.values.map (Value.readOr read)))) ∨
    ∃ text e, .datum (.text text) ∈ column.values ∧ read text = .error e ∧
      (e.family = .overflow ∨ ∃ digits, e = .numeral (.tooLongToRead digits)) ∧
      answer = .error e := by
  intro read answer
  have parsed : read = f.parse (s.locales.get argument) target :=
    funext fun text => answer_parsePeriod f argument s asked text
  have whole : answer = _ := answer_parseSeries_lenient s argument f asked column
  rw [whole, parsed]
  rcases Stateless.settle_cells s.locales f target argument cells with
    ⟨skipped, done⟩ | ⟨text, e, mem, failed, hard, stays⟩
  · refine .inl ⟨fun text mem e refused => ?_, ?_⟩
    · exact Error.mem_reading_iff.mpr (skipped text e mem refused)
    · rw [done]
      rfl
  · refine .inr ⟨text, e, mem, failed, ?_, ?_⟩
    · rw [show s.locales.get argument = .ok l from known] at failed
      rcases Format.parse_eq_error dated failed with
        (reading | ⟨-, long⟩) | ⟨_, -, -, _, _, -, -, rfl⟩
      · exact absurd reading hard
      · exact .inr long
      · exact .inl rfl
    · rw [stays]
      rfl

/-- A text without digits is skipped, and so is a missing cell. -/
theorem parseSeries_lenient_skips : ∃ f, Format.compile "yyyy" = .ok f ∧
    (parseSeries ⟨[.datum (.text "bad"), .datum .absent], [.integer 0, .integer 1], .absent⟩
      (.compiled f) (.datum .absent) .default (.text "coerce")).answer {} =
      .ok ⟨[none, none], [.integer 0, .integer 1], .absent⟩ := by
  let f : Format := ⟨"yyyy", [.field ⟨.year, 4, false⟩]⟩
  let column : Series Value :=
    ⟨[.datum (.text "bad"), .datum .absent], [.integer 0, .integer 1], .absent⟩
  have unasked : (KindArgument.datum .absent).resolve = .ok none := rfl
  have cells : ∀ v ∈ column.values, v.IsCell :=
    List.forall_mem_cons.mpr ⟨.inl ⟨"bad", rfl⟩, List.forall_mem_singleton.mpr (.inr rfl)⟩
  refine ⟨f, rfl, ?_⟩
  rcases parseSeries_lenient {} .default f rfl unasked (by decide) cells with ⟨-, answer⟩ | failed
  · exact answer
  · obtain ⟨text, e, mem, refused, hard, -⟩ := failed
    have same : text = "bad" := by simpa [column] using mem
    subst same
    cases refused
    rcases hard with overflow | ⟨digits, long⟩
    · cases overflow
    · cases long

/-- **A year of twenty digits is not skipped.** Its overflow is the error of the series. -/
theorem parseSeries_lenient_overflows : ∃ f e, Format.compile "yyyy" = .ok f ∧
    (parseSeries ⟨[.datum (.text "99999999999999999999")], [.integer 0], .absent⟩
      (.compiled f) (.datum .absent) .default (.text "coerce")).answer {} = .error e ∧
    e.family = .overflow :=
  ⟨_, _, rfl, rfl, rfl⟩

end Request

end PeriodText
