import PeriodText.Proofs.Locale.Registry
import PeriodText.Proofs.Session.Stateless

/-!
# Sessions refine their locales

Of all that a session keeps, only the locales are ever answered by. The specification is a machine
whose state is the locales alone: it compiles every pattern afresh, and only the two operations that
are meant to move the locales do. A session answers every operation as that machine does, and keeps
in step with it (`Operation.refines_step`); so it does in a run of any length
(`Session.refines_run`).
-/

set_option autoImplicit false

namespace PeriodText

/-! ## Operations -/

/-- An operation on a session. -/
inductive Operation where
  | getFormat (pattern : Datum)
  | clearCache
  | setEnvironment (name : Option String)
  | registerLocale (name : String) (months abbreviations : Datum)
  | formatPeriod (v : Value) (format : FormatArgument) (argument : LocaleArgument)
  | parsePeriod (source : Datum) (format : FormatArgument) (kind : KindArgument)
      (argument : LocaleArgument)
  | formatSeries (column : Series Value) (format : FormatArgument) (argument : LocaleArgument)
  | parseSeries (column : Series Value) (format : FormatArgument) (kind : KindArgument)
      (argument : LocaleArgument) (errors : Datum)

/-- What an operation answers. -/
inductive Reply where
  | done
  | format (f : Format)
  | locale (l : Locale)
  | text (s : String)
  | period (r : Resolved)
  | texts (column : Series (Option String))
  | periods (column : Series (Option Resolved))

/-- The argument, with a pattern that can be compiled replaced by its format. -/
def FormatArgument.precompiled : FormatArgument → FormatArgument
  | .datum (.text p) => match Format.compile p with
    | .ok f => .compiled f
    | .error _ => .datum (.text p)
  | argument => argument

namespace Operation

/-- The operation as a request to a session. -/
def request : Operation → Request Reply
  | getFormat pattern => do
    let f ← Request.format pattern
    return .format f
  | clearCache => do
    Request.clearCache
    return .done
  | setEnvironment name => do
    Request.setEnvironment name
    return .done
  | registerLocale name months abbreviations => do
    let l ← Request.registerLocale name months abbreviations
    return .locale l
  | formatPeriod v format argument => do
    let text ← Request.formatValue v format argument
    return .text text
  | parsePeriod source format kind argument => do
    let resolved ← Request.parsePeriod source format kind argument
    return .period resolved
  | formatSeries column format argument => do
    let texts ← Request.formatSeries column format argument
    return .texts texts
  | parseSeries column format kind argument errors => do
    let periods ← Request.parseSeries column format kind argument errors
    return .periods periods

/-- What the operation answers, as a function of its arguments and of the locales. -/
def reply (e : Locales) : Operation → Except Error Reply
  | getFormat pattern => (Stateless.format pattern).map .format
  | clearCache => .ok .done
  | setEnvironment _ => .ok .done
  | registerLocale name months abbreviations =>
    (Locale.ofData name months abbreviations).map .locale
  | formatPeriod v format argument => (Stateless.formatValue e v format argument).map .text
  | parsePeriod source format kind argument =>
    (Stateless.parsePeriod e source format kind argument).map .period
  | formatSeries column format argument =>
    (Stateless.formatSeries e column format argument).map .texts
  | parseSeries column format kind argument errors =>
    (Stateless.parseSeries e column format kind argument errors).map .periods

/-- The locales after the operation. A locale that cannot be registered leaves them as they are. -/
def next (e : Locales) : Operation → Locales
  | setEnvironment name => { e with environment := name }
  | registerLocale name months abbreviations =>
    match Locale.ofData name months abbreviations with
    | .ok l => { e with registry := e.registry.put l }
    | .error _ => e
  | _ => e

/-- The operation is one of those that may move the locales. -/
def movesLocales : Operation → Bool
  | setEnvironment _ => true
  | registerLocale .. => true
  | _ => false

/-- The operation with a format in place of a pattern that can be compiled. -/
def precompiled : Operation → Operation
  | formatPeriod v format argument => formatPeriod v format.precompiled argument
  | parsePeriod source format kind argument => parsePeriod source format.precompiled kind argument
  | formatSeries column format argument => formatSeries column format.precompiled argument
  | parseSeries column format kind argument errors =>
    parseSeries column format.precompiled kind argument errors
  | op => op

/-- The operation with another locale asked for, if it asks for one. -/
def withLocale (argument : LocaleArgument) : Operation → Operation
  | formatPeriod v format _ => formatPeriod v format argument
  | parsePeriod source format kind _ => parsePeriod source format kind argument
  | formatSeries column format _ => formatSeries column format argument
  | parseSeries column format kind _ errors => parseSeries column format kind argument errors
  | op => op

end Operation

/-! ## Runs -/

/-- What a session answers to operations one after another. -/
def Session.replies (s : Session) : List Operation → List (Except Error Reply)
  | [] => []
  | op :: ops => (op.request.run s).1 :: replies (op.request.run s).2 ops

/-- The session after operations. -/
def Session.after (s : Session) : List Operation → Session
  | [] => s
  | op :: ops => after (op.request.run s).2 ops

/-- What the locales alone answer to operations one after another. -/
def Locales.replies (e : Locales) : List Operation → List (Except Error Reply)
  | [] => []
  | op :: ops => op.reply e :: replies (op.next e) ops

/-- The locales after operations. -/
def Locales.after (e : Locales) : List Operation → Locales
  | [] => e
  | op :: ops => after (op.next e) ops

/-! ## One operation -/

namespace Operation

/-- **One operation** is answered as the locales alone answer it, moves the locales as it should,
and keeps the cache faithful. -/
theorem refines_step (op : Operation) {s : Session} (faithful : s.cache.Faithful Format.compile) :
    ∃ t, op.request.run s = (op.reply s.locales, t) ∧ t.locales = op.next s.locales ∧
      t.cache.Faithful Format.compile := by
  cases op with
  | getFormat pattern => exact (Request.computes_format pattern).map Reply.format s faithful
  | clearCache => exact ⟨_, rfl, rfl, RecentMap.faithful_empty _⟩
  | setEnvironment name => exact ⟨_, rfl, rfl, faithful⟩
  | registerLocale name months abbreviations =>
    simp only [request, reply, next, Request.registerLocale]
    cases Locale.ofData name months abbreviations with
    | error e => exact ⟨s, rfl, rfl, faithful⟩
    | ok l => exact ⟨_, rfl, rfl, faithful⟩
  | formatPeriod v format argument =>
    have look := Request.computes_formatOf format
    exact (Request.computes_formatValue look v argument).map Reply.text s faithful
  | parsePeriod source format kind argument =>
    have look := Request.computes_formatOf format
    exact (Request.computes_parsePeriod look source kind argument).map Reply.period s faithful
  | formatSeries column format argument =>
    have look := Request.computes_formatOf format
    exact (Request.computes_formatSeries look column argument).map Reply.texts s faithful
  | parseSeries column format kind argument errors =>
    have look := Request.computes_formatOf format
    have computes := Request.computes_parseSeries look column kind argument errors
    exact computes.map Reply.periods s faithful

theorem next_of_not_movesLocales {op : Operation} (still : op.movesLocales = false)
    (e : Locales) : op.next e = e := by
  cases op with
  | setEnvironment | registerLocale => cases still
  | getFormat | clearCache | formatPeriod | parsePeriod | formatSeries | parseSeries => rfl

/-- The name to fall back on stays registered. -/
theorem next_rooted (op : Operation) {e : Locales}
    (rooted : e.registry.has Registry.fallback = true) :
    (op.next e).registry.has Registry.fallback = true := by
  cases op with
  | registerLocale name months abbreviations =>
    simp only [next]
    cases Locale.ofData name months abbreviations with
    | error e => exact rooted
    | ok l => exact Registry.has_put rooted l
  | _ => exact rooted

end Operation

/-! ## What answers do not depend on -/

namespace Stateless

/-- A format stands for itself, so it does not matter whether a pattern has been compiled. -/
theorem formatOf_precompiled (format : FormatArgument) :
    formatOf format.precompiled = formatOf format := by
  unfold FormatArgument.precompiled
  split
  · next p =>
    split
    · next f compiled => exact compiled.symm
    · rfl
  · rfl

/-- A pattern is given where a format may be left out, and so is its format. -/
theorem precompiled_eq_or (format : FormatArgument) :
    format.precompiled = format ∨
      ∃ p f, format = .datum (.text p) ∧ format.precompiled = .compiled f := by
  unfold FormatArgument.precompiled
  split
  · next p =>
    split
    · next f compiled => exact .inr ⟨p, f, rfl, rfl⟩
    · exact .inl rfl
  · exact .inl rfl

/-- A cell is written for the locale that the argument stands for. -/
theorem formatCell_congr {e : Locales} {a b : LocaleArgument} (same : e.get a = e.get b)
    (f : Option Format) : formatCell e f a = formatCell e f b := by
  funext v
  simp only [formatCell, formatValue, same]

end Stateless

namespace Operation

/-- It does not matter for any operation whether a pattern has been compiled. -/
theorem reply_precompiled (op : Operation) (e : Locales) :
    op.precompiled.reply e = op.reply e := by
  cases op with
  | formatPeriod v format argument =>
    rcases Stateless.precompiled_eq_or format with same | ⟨p, f, rfl, compiled⟩
    · simp only [precompiled, same]
    · have look := Stateless.formatOf_precompiled (.datum (.text p))
      simp only [precompiled, reply, compiled, Stateless.formatValue] at look ⊢
      rw [look]
  | parsePeriod source format kind argument =>
    simp only [precompiled, reply, Stateless.parsePeriod, Stateless.formatOf_precompiled]
  | formatSeries column format argument =>
    rcases Stateless.precompiled_eq_or format with same | ⟨p, f, rfl, compiled⟩
    · simp only [precompiled, same]
    · have look := Stateless.formatOf_precompiled (.datum (.text p))
      simp only [precompiled, reply, compiled, Stateless.formatSeries] at look ⊢
      rw [look]
  | parseSeries column format kind argument errors =>
    simp only [precompiled, reply, Stateless.parseSeries, Stateless.formatOf_precompiled]
  | getFormat | clearCache | setEnvironment | registerLocale => rfl

/-- The locale argument counts only by the locale that it stands for. -/
theorem reply_withLocale (op : Operation) {e : Locales} {a b : LocaleArgument}
    (same : e.get a = e.get b) : (op.withLocale a).reply e = (op.withLocale b).reply e := by
  cases op with
  | formatPeriod => simp only [withLocale, reply, Stateless.formatValue, same]
  | parsePeriod => simp only [withLocale, reply, Stateless.parsePeriod, same]
  | formatSeries =>
    simp only [withLocale, reply, Stateless.formatSeries, Stateless.formatCell_congr same]
  | parseSeries => simp only [withLocale, reply, Stateless.parseSeries, Stateless.parseCell, same]
  | getFormat | clearCache | setEnvironment | registerLocale => rfl

end Operation

/-! ## Runs of any length -/

/-- **A session in any run** answers as its locales alone do, and keeps in step with them. -/
theorem Session.refines_run (ops : List Operation) {s : Session}
    (faithful : s.cache.Faithful Format.compile) :
    s.replies ops = s.locales.replies ops ∧ (s.after ops).locales = s.locales.after ops ∧
      (s.after ops).cache.Faithful Format.compile := by
  induction ops generalizing s with
  | nil => exact ⟨rfl, rfl, faithful⟩
  | cons op ops ih =>
    obtain ⟨t, run, moved, still⟩ := op.refines_step faithful
    obtain ⟨answered, inStep, faithful⟩ := ih still
    simp only [replies, after, Locales.replies, Locales.after, run]
    rw [← moved, answered]
    exact ⟨rfl, inStep, faithful⟩

/-- Only the operations that may move the locales do. -/
theorem Locales.after_filter (e : Locales) (ops : List Operation) :
    e.after (ops.filter Operation.movesLocales) = e.after ops := by
  induction ops generalizing e with
  | nil => rfl
  | cons op ops ih =>
    rw [after, List.filter_cons]
    split
    · exact ih _
    · next still =>
      rw [Operation.next_of_not_movesLocales (Bool.eq_false_iff.mpr still), ih]

/-- The name to fall back on stays registered. -/
theorem Locales.after_rooted (ops : List Operation) {e : Locales}
    (rooted : e.registry.has Registry.fallback = true) :
    (e.after ops).registry.has Registry.fallback = true := by
  induction ops generalizing e with
  | nil => exact rooted
  | cons op ops ih => exact ih (op.next_rooted rooted)

/-- An operation in a session with a faithful cache is answered as the locales alone answer it. -/
theorem Operation.answer_eq (op : Operation) {s : Session}
    (faithful : s.cache.Faithful Format.compile) : op.request.answer s = op.reply s.locales := by
  obtain ⟨t, run, -⟩ := op.refines_step faithful
  rw [Request.answer, run]

/-- The default locale is the one of the default name. -/
theorem Operation.answer_named (op : Operation) {s : Session}
    (faithful : s.cache.Faithful Format.compile) :
    Request.answer (do
        let name ← Request.defaultLocaleName
        (op.withLocale (.named name)).request) s = (op.withLocale .default).request.answer s := by
  -- Asking for the default locale leaves a notice and nothing else.
  have asked : (s.asked .default 1).cache.Faithful Format.compile := faithful
  rw [Request.answer_bind_ok (Request.run_defaultLocaleName _), answer_eq _ asked,
    answer_eq _ faithful]
  exact op.reply_withLocale rfl

/-- The default locale is the one that is given when the default is asked for. -/
theorem Operation.answer_given (op : Operation) {s : Session}
    (faithful : s.cache.Faithful Format.compile)
    (rooted : s.registry.has Registry.fallback = true) :
    Request.answer (do
        let l ← Request.locale .default
        (op.withLocale (.given l)).request) s = (op.withLocale .default).request.answer s := by
  obtain ⟨l, found⟩ := Registry.exists_get_default rooted s.environment
  have asked : (s.asked .default 1).cache.Faithful Format.compile := faithful
  have answer := Request.run_locale .default s
  rw [show s.locale .default = .ok l from found] at answer
  rw [Request.answer_bind_ok answer, answer_eq _ asked, answer_eq _ faithful]
  exact op.reply_withLocale found.symm

/-- **Sessions refine a stateless specification.** In whatever environment a session begins, and
whatever operations it runs, it answers each as the locales of the moment alone answer it, with
every pattern compiled afresh. So an operation is answered as it would be with its pattern compiled
and with none but the changes of the locales before it. And the default locale is the one of the
default name, and the one that is given when the default is asked for. -/
theorem Session.refines_locales (environment : Option String) (ops : List Operation)
    (op : Operation) :
    let s : Session := { environment }
    s.replies ops = s.locales.replies ops ∧
    op.request.answer (s.after ops) =
      op.precompiled.request.answer (s.after (ops.filter Operation.movesLocales)) ∧
    Request.answer (do
        let name ← Request.defaultLocaleName
        (op.withLocale (.named name)).request) (s.after ops) =
      (op.withLocale .default).request.answer (s.after ops) ∧
    Request.answer (do
        let l ← Request.locale .default
        (op.withLocale (.given l)).request) (s.after ops) =
      (op.withLocale .default).request.answer (s.after ops) := by
  intro s
  have faithful : s.cache.Faithful Format.compile := RecentMap.faithful_empty _
  have rooted : Registry.builtin.has Registry.fallback = true := by decide +kernel
  obtain ⟨answered, moved, still⟩ := refines_run ops faithful
  obtain ⟨-, movedAlone, stillAlone⟩ := refines_run (ops.filter Operation.movesLocales) faithful
  have kept : (s.after ops).locales.registry.has Registry.fallback = true := by
    rw [moved]
    exact s.locales.after_rooted ops rooted
  refine ⟨answered, ?_, op.answer_named still, op.answer_given still kept⟩
  rw [op.answer_eq still, Operation.answer_eq _ stillAlone, moved, movedAlone,
    Locales.after_filter, Operation.reply_precompiled]

end PeriodText
