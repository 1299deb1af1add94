import PeriodText.Proofs.Series
import PeriodText.Proofs.Session.Refinement

/-!
# Series are answered cell by cell

A series is written, and read if nothing is to be skipped, as its cells are. Where every cell that is
not missing is answered, so is the series, with nothing for the missing cells; the first cell that is
refused decides the error. So it makes no difference whether cells are picked before or after, or
whether a series is taken apart and put together again: `Series.Lifts`, `Request.series_lifts`.
-/

set_option autoImplicit false

namespace PeriodText

/-! ## Parts of series -/

namespace Series

variable {α β : Type}

/-- The cells at some places, each with its index, in the order of the places. -/
def pick (s : Series α) (places : List Nat) : Series α :=
  ⟨places.filterMap (s.values[·]?), places.filterMap (s.index[·]?), s.name⟩

/-- The first cells. -/
def take (s : Series α) (count : Nat) : Series α :=
  ⟨s.values.take count, s.index.take count, s.name⟩

/-- What the first cells leave. -/
def drop (s : Series α) (count : Nat) : Series α :=
  ⟨s.values.drop count, s.index.drop count, s.name⟩

/-- The cells of two series one after the other, under the name of the first. -/
def append (s t : Series α) : Series α := ⟨s.values ++ t.values, s.index ++ t.index, s.name⟩

theorem pick_withValues (s : Series α) (values : List β) (places : List Nat) :
    (s.withValues values).pick places =
      (s.pick places).withValues (places.filterMap (values[·]?)) := rfl

theorem append_take_drop (s : Series α) (front back : List β) (count : Nat) :
    ((s.take count).withValues front).append ((s.drop count).withValues back) =
      s.withValues (front ++ back) := by
  simp only [append, withValues, take, drop, List.take_append_drop]

/-- Places picked in two lists that agree item by item agree. -/
theorem forall₂_pick {r : α → β → Prop} {as : List α} {bs : List β}
    (agree : List.Forall₂ r as bs) (places : List Nat) :
    List.Forall₂ r (places.filterMap (as[·]?)) (places.filterMap (bs[·]?)) := by
  obtain ⟨length, item⟩ := List.forall₂_iff_get.mp agree
  induction places with
  | nil => exact .nil
  | cons i places ih =>
    by_cases inside : i < as.length
    · have insideToo : i < bs.length := length ▸ inside
      rw [List.filterMap_cons_some (List.getElem?_eq_getElem inside),
        List.filterMap_cons_some (List.getElem?_eq_getElem insideToo)]
      exact .cons (item i inside insideToo) ih
    · have outside := Nat.le_of_not_lt inside
      rw [List.filterMap_cons_none (List.getElem?_eq_none outside),
        List.filterMap_cons_none (List.getElem?_eq_none (length ▸ outside))]
      exact ih

end Series

/-! ## Cells -/

/-- It is clear whether the value is missing: it is no list, or it is a list of one item. -/
def Value.IsDecided (v : Value) : Prop := ∃ missing, v.isMissing = .ok missing

/-- The answer to a cell: nothing if it is missing, and else what the value is answered. -/
inductive Value.Settled {β : Type} (scalar : Value → Except Error β) (v : Value) :
    Option β → Prop where
  | missing (nothing : v.isMissing = .ok true) : Settled scalar v none
  | answered (present : v.isMissing = .ok false) {b : β} (answer : scalar v = .ok b) :
    Settled scalar v (some b)

namespace Series

variable {β : Type} {cell : Value → Prop} {scalar : Value → Except Error β}
  {whole : Series Value → Except Error (Series (Option β))}

/-- Series of cells of a sort are answered as their cells are: `scalar` answers one value, `whole`
a series. -/
structure Lifts (cell : Value → Prop) (scalar : Value → Except Error β)
    (whole : Series Value → Except Error (Series (Option β))) : Prop where
  /-- The series is answered exactly if all cells that are not missing are, and then with their
  answers in their places. -/
  answered_iff (column : Series Value) (cells : ∀ v ∈ column.values, cell v)
    (answer : Series (Option β)) : whole column = .ok answer ↔
      ∃ answers, List.Forall₂ (Value.Settled scalar) column.values answers ∧
        answer = column.withValues answers
  /-- If one is not, the error is that of the first cell that is refused. -/
  refused (column : Series Value) (cells : ∀ v ∈ column.values, cell v)
    (before : List Value) (v : Value) (after : List Value)
    (split : column.values = before ++ v :: after)
    (earlier : ∀ u ∈ before, u.isMissing = .ok false → ∃ b, scalar u = .ok b)
    (present : v.isMissing = .ok false) (e : Error) (here : scalar v = .error e) :
    whole column = .error e
  /-- Cells of a series that is answered may be picked before or after, in any order. -/
  picked (column : Series Value) (cells : ∀ v ∈ column.values, cell v)
    (answer : Series (Option β)) (done : whole column = .ok answer) (places : List Nat) :
    whole (column.pick places) = .ok (answer.pick places)
  /-- A series may be taken apart at any place, and its parts be put together again. -/
  parts (column : Series Value) (cells : ∀ v ∈ column.values, cell v) (count : Nat) :
    whole column = do
      let front ← whole (column.take count)
      let back ← whole (column.drop count)
      return front.append back

/-- A cell of the sort is answered by nothing if it is missing, and else as its value is. -/
structure AnswersCells (cell : Value → Prop) (scalar : Value → Except Error β)
    (answer : Value → Except Error (Option β)) : Prop where
  decided : ∀ v, cell v → v.IsDecided
  missing : ∀ v, cell v → v.isMissing = .ok true → answer v = .ok none
  present : ∀ v, cell v → v.isMissing = .ok false → answer v = (scalar v).map some

namespace AnswersCells

variable {answer : Value → Except Error (Option β)} {v : Value} {values : List Value}

/-- The answers to a cell. -/
theorem eq_ok_iff (cells : AnswersCells cell scalar answer) (sort : cell v) {b : Option β} :
    answer v = .ok b ↔ Value.Settled scalar v b := by
  constructor
  · intro done
    obtain ⟨absent, clear⟩ := cells.decided v sort
    cases absent with
    | true =>
      rw [cells.missing v sort clear] at done
      cases done
      exact .missing clear
    | false =>
      rw [cells.present v sort clear] at done
      obtain ⟨b, given, rfl⟩ := map_eq_ok.mp done
      exact .answered clear given
  · intro done
    cases done with
    | missing clear => exact cells.missing v sort clear
    | answered clear given =>
      rw [cells.present v sort clear, given]
      rfl

/-- A cell is answered if it is missing or its value is answered. -/
theorem exists_answer (cells : AnswersCells cell scalar answer) (sort : cell v)
    (done : v.isMissing = .ok false → ∃ b, scalar v = .ok b) : ∃ b, answer v = .ok b := by
  obtain ⟨absent, clear⟩ := cells.decided v sort
  cases absent with
  | true => exact ⟨none, cells.missing v sort clear⟩
  | false =>
    obtain ⟨b, given⟩ := done clear
    exact ⟨some b, (cells.eq_ok_iff sort).mpr (.answered clear given)⟩

/-- Cells are answered by an answer for each. -/
theorem mapM_iff (cells : AnswersCells cell scalar answer) (sorts : ∀ v ∈ values, cell v)
    {answers : List (Option β)} : values.mapM answer = .ok answers ↔
      List.Forall₂ (Value.Settled scalar) values answers := by
  rw [mapM_eq_ok_iff]
  constructor
  · intro all
    exact ((List.forall₂_and_left _ _).mpr ⟨sorts, all⟩).imp fun _ _ both =>
      (cells.eq_ok_iff both.1).mp both.2
  · intro all
    exact ((List.forall₂_and_left _ _).mpr ⟨sorts, all⟩).imp fun _ _ both =>
      (cells.eq_ok_iff both.1).mpr both.2

/-- **A series is answered as its cells are if its answer is made of their answers.** -/
theorem lifts (cells : AnswersCells cell scalar answer)
    (each : ∀ column : Series Value,
      whole column = (column.values.mapM answer).map column.withValues) :
    Lifts cell scalar whole := by
  constructor
  case answered_iff =>
    intro column sorts given
    rw [each, map_eq_ok]
    simp only [cells.mapM_iff sorts, eq_comm]
  case refused =>
    intro column sorts before v after split earlier clear e here
    rw [each, split]
    rw [split, List.forall_mem_append, List.forall_mem_cons] at sorts
    have failed : answer v = .error e := by
      rw [cells.present v sorts.2.1 clear, here]
      rfl
    have answered : ∀ u ∈ before, ∃ b, answer u = .ok b :=
      fun u mem => cells.exists_answer (sorts.1 u mem) (earlier u mem)
    rw [mapM_eq_error_of_first answered failed]
    rfl
  case picked =>
    intro column sorts given done places
    rw [each] at done ⊢
    obtain ⟨answers, outcome, rfl⟩ := map_eq_ok.mp done
    have agree := forall₂_pick (mapM_eq_ok_iff.mp outcome) places
    rw [pick_withValues, show (column.pick places).values.mapM answer = .ok _ from
      mapM_eq_ok_iff.mpr agree]
    rfl
  case parts =>
    intro column sorts count
    have first : whole (column.take count) =
        ((column.values.take count).mapM answer).map (column.take count).withValues := each _
    have second : whole (column.drop count) =
        ((column.values.drop count).mapM answer).map (column.drop count).withValues := each _
    rw [each, first, second]
    conv_lhs => rw [← List.take_append_drop count column.values, List.mapM_append]
    cases (column.values.take count).mapM answer with
    | error e => rfl
    | ok front =>
      cases (column.values.drop count).mapM answer with
      | error e => rfl
      | ok back => exact congrArg Except.ok (append_take_drop column front back count).symm

end AnswersCells

end Series

/-! ## Cells that are written -/

namespace Stateless

/-- The format that is found for an argument, or that there is none to be found. -/
inductive Chooses : FormatArgument → Option Format → Prop where
  | none : Chooses (.datum .absent) none
  | some {format : FormatArgument} {f : Format} (found : formatOf format = .ok f) :
    Chooses format (some f)

variable {e : Locales} {format : FormatArgument} {chosen : Option Format}
  {argument : LocaleArgument}

/-- A value is written in the format that is found for the argument. -/
theorem formatValue_of_formatOf {f : Format} (found : formatOf format = .ok f) (v : Value) :
    formatValue e v format argument = f.render (e.get argument) v := by
  cases format with
  | compiled g =>
    cases found
    rfl
  | datum d =>
    cases d with
    | text p =>
      simp only [formatValue, found]
      rfl
    | absent | flag | integer | real | list => cases found

/-- A series is written cell by cell in the format that is found for the argument. -/
theorem formatSeries_eq (chooses : Chooses format chosen) (column : Series Value) :
    formatSeries e column format argument =
      (column.values.mapM (formatCell e chosen argument)).map column.withValues := by
  cases chooses with
  | none => exact bind_ok_eq_map _ _
  | some found =>
    cases format with
    | compiled g =>
      cases found
      exact bind_ok_eq_map _ _
    | datum d =>
      cases d with
      | text p =>
        simp only [formatSeries, found]
        exact bind_ok_eq_map _ _
      | absent | flag | integer | real | list => cases found

theorem formatCell_missing {v : Value} (missing : v.isMissing = .ok true) :
    formatCell e chosen argument v = .ok none := by
  simp only [formatCell, missing]
  rfl

/-- A cell that is not missing is written as its value. -/
theorem formatCell_present (chooses : Chooses format chosen) {v : Value}
    (present : v.isMissing = .ok false) :
    formatCell e chosen argument v = (formatValue e v format argument).map some := by
  simp only [formatCell, present]
  cases chooses with
  | none => exact bind_ok_eq_map _ _
  | @some _ f found =>
    have same : formatValue e v (.compiled f) argument = formatValue e v format argument := by
      rw [formatValue_of_formatOf found, formatValue_of_formatOf rfl]
    rw [← same]
    exact bind_ok_eq_map _ _

end Stateless

/-! ## Cells that are read -/

/-- A text or a missing cell is no list. -/
theorem Value.IsCell.isDecided {v : Value} (cell : v.IsCell) : v.IsDecided := by
  rcases cell with ⟨text, rfl⟩ | missing
  · exact ⟨false, rfl⟩
  · exact ⟨true, missing⟩

namespace Request

/-- Read a value as a period. Only a text is read. -/
def parseValue (v : Value) (format : FormatArgument) (kind : KindArgument)
    (argument : LocaleArgument) : Request Resolved :=
  match v with
  | .datum d => parsePeriod d format kind argument
  | v => throw (.type (.source v.typeName))

variable {s : Session}

/-- Series are written cell by cell, in the format that is found or in the standard ones. -/
theorem lifts_formatSeries (faithful : s.cache.Faithful Format.compile) {format : FormatArgument}
    {chosen : Option Format} (chooses : Stateless.Chooses format chosen)
    (argument : LocaleArgument) :
    Series.Lifts Value.IsDecided (fun v => (formatValue v format argument).answer s)
      fun column => (formatSeries column format argument).answer s := by
  have look := computes_formatOf format
  have scalar (v : Value) := (computes_formatValue look v argument).answer_eq faithful
  have cells : Series.AnswersCells Value.IsDecided
      (fun v => (formatValue v format argument).answer s)
      (Stateless.formatCell s.locales chosen argument) := by
    constructor
    case decided =>
      intro v decided
      exact decided
    case missing =>
      intro v _ missing
      exact Stateless.formatCell_missing missing
    case present =>
      intro v _ present
      rw [scalar]
      exact Stateless.formatCell_present chooses present
  refine cells.lifts fun column => ?_
  rw [(computes_formatSeries look column argument).answer_eq faithful]
  exact Stateless.formatSeries_eq chooses column

/-- Series are read cell by cell if nothing is to be skipped. -/
theorem lifts_parseSeries (faithful : s.cache.Faithful Format.compile) {format : FormatArgument}
    {f : Format} (found : Stateless.formatOf format = .ok f) {kind : KindArgument}
    {target : Option Kind} (asked : kind.resolve = .ok target) (argument : LocaleArgument) :
    Series.Lifts Value.IsCell (fun v => (parseValue v format kind argument).answer s)
      fun column => (parseSeries column format kind argument (.text "raise")).answer s := by
  have look := computes_formatOf format
  have scalar (text : String) :
      (parseValue (.datum (.text text)) format kind argument).answer s =
        f.parse (s.locales.get argument) target text := by
    change (parsePeriod (.text text) format kind argument).answer s = _
    rw [(computes_parsePeriod look (.text text) kind argument).answer_eq faithful]
    simp only [Stateless.parsePeriod, found, asked]
    rfl
  have cells : Series.AnswersCells Value.IsCell
      (fun v => (parseValue v format kind argument).answer s)
      (Stateless.parseCell s.locales f target argument) := by
    constructor
    case decided =>
      intro v cell
      exact cell.isDecided
    case missing =>
      intro v _ missing
      exact Stateless.parseCell_missing s.locales f target argument missing
    case present =>
      rintro v (⟨text, rfl⟩ | missing) present
      · rw [scalar, Stateless.parseCell_text]
      · cases missing.symm.trans present
  refine cells.lifts fun column => ?_
  rw [(computes_parseSeries look column kind argument _).answer_eq faithful]
  have strict : CellErrors.ofDatum (.text "raise") = .ok .fail := rfl
  rw [Stateless.parseSeries_eq found asked strict]
  simp only [CellErrors.settle_fail]

/-- **Series are answered cell by cell**, whatever was done in the session before. They are written
so in a format that can be had, or in the standard one of each value, if of no cell it is unclear
whether it is missing; and they are read so, with nothing to be skipped, in a format that can be had
and as a kind that can be asked for, if every cell is a text or missing. -/
theorem series_lifts (environment : Option String) (ops : List Operation)
    (argument : LocaleArgument) :
    let s := Session.after { environment } ops
    (∀ format, (format = .datum .absent ∨ ∃ f, (formatOf format).answer s = .ok f) →
      Series.Lifts Value.IsDecided (fun v => (formatValue v format argument).answer s)
        fun column => (formatSeries column format argument).answer s) ∧
    ∀ format kind, (∃ f, (formatOf format).answer s = .ok f) →
      (∃ target, kind.resolve = .ok target) →
      Series.Lifts Value.IsCell (fun v => (parseValue v format kind argument).answer s)
        fun column => (parseSeries column format kind argument (.text "raise")).answer s := by
  intro s
  have empty : ({ environment } : Session).cache.Faithful Format.compile :=
    RecentMap.faithful_empty _
  have faithful := (Session.refines_run ops empty).2.2
  have found (format : FormatArgument) {f : Format} (given : (formatOf format).answer s = .ok f) :
      Stateless.formatOf format = .ok f :=
    ((computes_formatOf format).answer_eq faithful).symm.trans given
  constructor
  · rintro format (rfl | ⟨f, given⟩)
    · exact lifts_formatSeries faithful .none argument
    · exact lifts_formatSeries faithful (.some (found format given)) argument
  · rintro format kind ⟨f, given⟩ ⟨target, asked⟩
    exact lifts_parseSeries faithful (found format given) asked argument

/-- Three cells of different kinds, one of them missing, are written in their standard formats, and
in another order too; and of four cells that are read, the third one decides the error. -/
theorem series_lifts_mixed : ∃ (quarter : PeriodDate) (year : Period) (f : Format) (e : Error),
    quarter.kind = .quarter ∧ year.kind = .year ∧ Format.compile "yyyy-Qq" = .ok f ∧
    (formatSeries ⟨[.period year, .datum .absent, .date quarter],
        [.text "c", .text "b", .text "a"], .absent⟩ (.datum .absent) .default).answer {} =
      .ok ⟨[some "2018", none, some "2018-Q2"], [.text "c", .text "b", .text "a"], .absent⟩ ∧
    (parsePeriod (.text "2018") (.compiled f) (.datum .absent) .default).answer {} = .error e ∧
    (parseSeries ⟨[.datum (.text "2018-Q2"), .noTime, .datum (.text "2018"), .datum (.text "")],
        [.integer 0, .integer 1, .integer 2, .integer 3], .absent⟩ (.compiled f) (.datum .absent)
        .default (.text "raise")).answer {} = .error e := by
  obtain ⟨written, read⟩ := series_lifts none [] .default
  let quarter : PeriodDate :=
    ⟨.quarter, { year := some ⟨2018, by decide⟩, quarter := some ⟨2, by decide⟩ }, rfl⟩
  let year : Period := ⟨.year, ⟨2018, by decide⟩⟩
  let f : Format :=
    ⟨"yyyy-Qq", [.field ⟨.year, 4, true⟩, .literal ['-', 'Q'], .field ⟨.quarter, 1, false⟩]⟩
  refine ⟨quarter, year, f, .read (.literalMismatch "-Q" 4 ""), rfl, rfl, by rfl, ?_, by rfl, ?_⟩
  · let column : Series Value := ⟨[.date quarter, .datum .absent, .period year],
      [.text "a", .text "b", .text "c"], .absent⟩
    have cells : ∀ v ∈ column.values, v.IsDecided := by
      simp only [column, List.forall_mem_cons, Value.IsDecided]
      exact ⟨⟨false, rfl⟩, ⟨true, rfl⟩, ⟨false, rfl⟩, List.forall_mem_nil _⟩
    have first : (formatValue (.date quarter) (.datum .absent) .default).answer {} =
        .ok "2018-Q2" := by decide +kernel
    have last : (formatValue (.period year) (.datum .absent) .default).answer {} =
        .ok "2018" := by decide +kernel
    have lifts := written (.datum .absent) (.inl rfl)
    have done := (lifts.answered_iff column cells _).mpr
      ⟨_, .cons (.answered rfl first) (.cons (.missing rfl) (.cons (.answered rfl last) .nil)), rfl⟩
    exact lifts.picked column cells _ done [2, 1, 0]
  · have cells : ∀ v ∈ [.datum (.text "2018-Q2"), .noTime, .datum (.text "2018"),
        .datum (.text "")], Value.IsCell v := by
      simp only [List.forall_mem_cons]
      exact ⟨.inl ⟨_, rfl⟩, .inr rfl, .inl ⟨_, rfl⟩, .inl ⟨_, rfl⟩, List.forall_mem_nil _⟩
    have lifts := read (.compiled f) (.datum .absent) ⟨f, rfl⟩ ⟨none, rfl⟩
    refine lifts.refused _ cells [.datum (.text "2018-Q2"), .noTime] _ [.datum (.text "")] rfl ?_
      rfl _ (by rfl)
    simp only [List.forall_mem_cons]
    refine ⟨fun _ => ⟨_, by rfl⟩, fun present => ?_, List.forall_mem_nil _⟩
    cases present

end Request

end PeriodText
