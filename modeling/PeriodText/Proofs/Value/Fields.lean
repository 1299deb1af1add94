import PeriodText.Error.Family
import PeriodText.Error.Message
import PeriodText.Proofs.Calendar.IsoWeek
import PeriodText.Proofs.Resolution
import PeriodText.Value

/-!
# The fields that a value answers

A bare period, a date and a day of the calendar store numbers and nothing else, so what they derive
is a number too: `Kind.derived?` says which. A field of such a value is answered by the number that
is stored or derived, and is missing where there is none (`Value.field_eq`). What is answered is a
count, the derived numbers included (`Value.IsProper.count_of_field`).

There is one question that is not refused in this way: a date has no undated field to be asked for
(`Value.field_answered_or_missing`).
-/

set_option autoImplicit false

namespace PeriodText

variable {get : Kind → Datum} {numbers : Kind → Option Int} {kind : Kind} {n : Int}

/-! ## Numbers -/

/-- The number of a kind that follows from the numbers of finer kinds. -/
def Kind.derived? (numbers : Kind → Option Int) : Kind → Option Int
  | .semester =>
    match numbers .quarter with
    | some q => some ((q + 1) / 2)
    | none => (numbers .month).map fun m => (m - 1) / 6 + 1
  | .quarter => (numbers .month).map fun m => (m - 1) / 3 + 1
  | .week => do
    let y ← numbers .year
    let m ← numbers .month
    let d ← numbers .day
    Calendar.isoWeek? y m d
  | _ => none

/-- The number of a kind among some numbers, or else derived from them. -/
def Kind.answer? (numbers : Kind → Option Int) (kind : Kind) : Option Int :=
  (numbers kind).or (kind.derived? numbers)

namespace Value

/-- A number is a part of a calendar date, unless it is out of all bounds. -/
theorem calendarPart_integer (n : Int) : (Datum.integer n).calendarPart =
    .ok (if -Datum.partLimit ≤ n ∧ n < Datum.partLimit then some n else none) := by
  simp [Datum.calendarPart]

/-- The week of three numbers is that of the day that they name. -/
theorem weekOf_integer (year month day : Int) :
    weekOf (.integer year) (.integer month) (.integer day) =
      .ok (.ofNumber? (Calendar.isoWeek? year month day)) := by
  cases valid : Calendar.isDay year month day with
  | true =>
    obtain ⟨years, months, days⟩ := Calendar.isDay_iff.mp valid
    have short := Calendar.daysInMonth_le year month
    have part (n : Int) (range : 1 ≤ n ∧ n ≤ 9999) :
        (Datum.integer n).calendarPart = .ok (some n) := by
      rw [calendarPart_integer, if_pos]
      unfold Datum.partLimit
      omega
    simp only [weekOf, part year years, part month (by omega), part day (by omega), bind,
      Except.bind]
    cases Calendar.isoWeek? year month day <;> rfl
  | false =>
    -- Whichever number is out of all bounds, or none, there is no day.
    have none : Calendar.isoWeek? year month day = none := if_neg (by simp [valid])
    have part (n : Int) : (Datum.integer n).calendarPart = .ok (some n) ∨
        (Datum.integer n).calendarPart = .ok .none := by
      rw [calendarPart_integer]
      split
      · exact .inl rfl
      · exact .inr rfl
    unfold weekOf
    rcases part year with first | first <;> rcases part month with second | second <;>
      rcases part day with third | third <;>
      simp only [first, second, third, none, bind, Except.bind] <;> rfl

/-- What is derived from numbers is a number, or nothing. -/
theorem derived_eq (stored : ∀ kind, get kind = .ofNumber? (numbers kind)) (kind : Kind) :
    derived get kind = .ok (.ofNumber? (kind.derived? numbers)) := by
  cases kind with
  | semester =>
    simp only [derived, Kind.derived?, stored]
    cases numbers .quarter with
    | some q => rfl
    | none => cases numbers .month <;> rfl
  | quarter =>
    simp only [derived, Kind.derived?, stored]
    cases numbers .month <;> rfl
  | week =>
    simp only [derived, Kind.derived?, stored]
    cases numbers .year with
    | none => rfl
    | some y =>
      cases numbers .month with
      | none => rfl
      | some m =>
        cases numbers .day with
        | none => rfl
        | some d => exact weekOf_integer y m d
  | year | month | day | undated => rfl

/-- Where numbers are stored, the answer is a number, or nothing. -/
theorem answer_eq (stored : ∀ kind, get kind = .ofNumber? (numbers kind)) (kind : Kind) :
    answer get kind = .ok (.ofNumber? (kind.answer? numbers)) := by
  rw [answer, stored, Kind.answer?]
  cases numbers kind with
  | some n => rfl
  | none => exact derived_eq stored kind

/-! ## Values -/

/-- A value that stores numbers only answers by the number that is stored or derived. -/
theorem readField_eq {v : Value} (stored : ∀ kind, v.stored kind = .ofNumber? (numbers kind))
    (kind : Kind) : v.readField kind =
      (kind.answer? numbers).elim (.error (v.unanswered kind)) .ok := by
  rw [readField, answer_eq stored]
  cases kind.answer? numbers <;> rfl

/-- The value is a bare period, a date, or a day of the calendar, whatever time of the day. -/
def IsProper : Value → Prop
  | period _ => True
  | date _ => True
  | moment m => Calendar.isDay m.year m.month m.day = true
  | _ => False

/-- The number that a value stores for a kind. -/
def number? : Value → Kind → Option Int
  | period p, kind => if p.kind = kind then some p.value else none
  | date d, kind => (d.fields.get kind).map Count.toInt
  | moment m, .year => some m.year
  | moment m, .month => some m.month
  | moment m, .day => some m.day
  | _, _ => none

/-- The number that a value answers a kind with. A bare period derives nothing. -/
def answer? (v : Value) (kind : Kind) : Option Int :=
  match v with
  | period _ => v.number? kind
  | _ => kind.answer? v.number?

variable {v : Value}

/-- Periods, dates and days store numbers only. -/
theorem IsProper.stored_eq (proper : v.IsProper) (kind : Kind) :
    v.stored kind = .ofNumber? (v.number? kind) := by
  cases v with
  | period p =>
    rw [stored, number?]
    split <;> rfl
  | date d =>
    rw [stored, number?]
    cases d.fields.get kind <;> rfl
  | moment m => cases kind <;> rfl
  | datum | noTime | span | record => exact absurd proper id

/-- **A field is answered by the number that is stored or derived**, and is missing where there is
none. Only a date is not to be asked for an undated field. -/
theorem field_eq (proper : v.IsProper) {kind : Kind}
    (asked : ¬(kind = .undated ∧ ∃ d, v = .date d)) :
    v.field kind = (v.answer? kind).elim (.error (v.unanswered kind)) .ok := by
  have read := readField_eq proper.stored_eq kind
  cases v with
  | period p =>
    rw [field, answer?, number?]
    split <;> rfl
  | date d =>
    have dated : kind ≠ .undated := fun same => asked ⟨same, d, rfl⟩
    rw [field, if_neg dated]
    exact read
  | moment | datum | noTime | span | record => exact read

/-- A field is answered, or else it is told to be missing. -/
theorem field_ok_or_unanswered (proper : v.IsProper) {kind : Kind}
    (asked : ¬(kind = .undated ∧ ∃ d, v = .date d)) :
    (∃ n, v.field kind = .ok n) ∨ v.field kind = .error (v.unanswered kind) := by
  rw [field_eq proper asked]
  cases v.answer? kind with
  | some n => exact .inl ⟨n, rfl⟩
  | none => exact .inr rfl

/-- A date answers its fields and what is derived from them. -/
theorem field_date (d : PeriodDate) {kind : Kind} (dated : kind ≠ .undated) :
    field (.date d) kind =
      (kind.answer? (number? (.date d))).elim (.error (unanswered (.date d) kind)) .ok := by
  have proper : (Value.date d).IsProper := trivial
  exact field_eq proper fun asked => dated asked.1

/-- What a date answers is a number that it stores, or that is derived. -/
theorem field_date_eq_ok {d : PeriodDate} {kind : Kind} {n : Int} :
    field (.date d) kind = .ok n ↔
      kind ≠ .undated ∧ kind.answer? (number? (.date d)) = some n := by
  by_cases undated : kind = .undated
  · subst undated
    exact iff_of_false nofun fun both => both.1 rfl
  · rw [field_date d undated]
    cases kind.answer? (number? (.date d)) with
    | none => exact iff_of_false nofun fun both => nomatch both.2
    | some m =>
      constructor
      · rintro ⟨⟩
        exact ⟨undated, rfl⟩
      · rintro ⟨-, ⟨⟩⟩
        rfl

end Value

/-! ## Counts -/

/-- What is derived from counts is a count. -/
theorem Kind.count_of_derived?
    (counts : ∀ kind n, numbers kind = some n → leastCount ≤ n ∧ n ≤ greatestCount)
    (given : kind.derived? numbers = some n) : leastCount ≤ n ∧ n ≤ greatestCount := by
  unfold leastCount greatestCount at *
  cases kind with
  | semester =>
    rw [derived?] at given
    split at given
    · next q found =>
      cases given
      have := counts _ _ found
      omega
    · obtain ⟨m, found, rfl⟩ := Option.map_eq_some_iff.mp given
      have := counts _ _ found
      omega
  | quarter =>
    obtain ⟨m, found, rfl⟩ := Option.map_eq_some_iff.mp given
    have := counts _ _ found
    omega
  | week =>
    obtain ⟨y, -, given⟩ := Option.bind_eq_some_iff.mp given
    obtain ⟨m, -, given⟩ := Option.bind_eq_some_iff.mp given
    obtain ⟨d, -, given⟩ := Option.bind_eq_some_iff.mp given
    obtain ⟨valid, rfl⟩ := Calendar.isoWeek?_eq_some.mp given
    have := Calendar.isoWeek_bounds valid
    omega
  | year | month | day | undated => cases given

/-- Whether stored or derived from counts, an answer is a count. -/
theorem Kind.count_of_answer?
    (counts : ∀ kind n, numbers kind = some n → leastCount ≤ n ∧ n ≤ greatestCount)
    (given : kind.answer? numbers = some n) : leastCount ≤ n ∧ n ≤ greatestCount := by
  rcases Option.or_eq_some_iff.mp given with own | ⟨-, derived⟩
  · exact counts kind n own
  · exact count_of_derived? counts derived

namespace Value

variable {v : Value}

/-- Periods, dates and days store counts. -/
theorem IsProper.count_of_number? (proper : v.IsProper) {kind : Kind} {n : Int}
    (given : v.number? kind = some n) : leastCount ≤ n ∧ n ≤ greatestCount := by
  cases v with
  | period p =>
    rw [number?] at given
    split at given
    · cases given
      exact p.count.fits
    · cases given
  | date d =>
    obtain ⟨c, -, rfl⟩ := Option.map_eq_some_iff.mp given
    exact c.fits
  | moment m =>
    obtain ⟨years, months, days⟩ := Calendar.isDay_iff.mp proper
    have short := Calendar.daysInMonth_le m.year m.month
    unfold leastCount greatestCount
    cases kind <;> cases given <;> omega
  | datum | noTime | span | record => exact absurd proper id

/-- An answer is a count. -/
theorem IsProper.count_of_answer? (proper : v.IsProper) {kind : Kind} {n : Int}
    (answered : v.answer? kind = some n) : leastCount ≤ n ∧ n ≤ greatestCount := by
  have derived (given : kind.answer? v.number? = some n) : leastCount ≤ n ∧ n ≤ greatestCount :=
    Kind.count_of_answer? (fun _ _ => proper.count_of_number?) given
  cases v with
  | period p => exact proper.count_of_number? answered
  | date | moment | datum | noTime | span | record => exact derived answered

/-- **A field that is answered is a count.** -/
theorem IsProper.count_of_field (proper : v.IsProper) {kind : Kind} {n : Int}
    (given : v.field kind = .ok n) : leastCount ≤ n ∧ n ≤ greatestCount := by
  by_cases asked : kind = .undated ∧ ∃ d, v = .date d
  · obtain ⟨rfl, d, rfl⟩ := asked
    cases given
  · rw [field_eq proper asked] at given
    cases answered : v.answer? kind with
    | none =>
      rw [answered] at given
      cases given
    | some m =>
      rw [answered] at given
      cases given
      exact proper.count_of_answer? answered

/-! ## Fields that are missing -/

/-- **Periods, dates and days answer a field or do not have it.** A field that is not answered is
missing, and the error tells its name. Only a date that is asked for an undated field is refused in
another way: it has no such member. -/
theorem field_answered_or_missing {v : Value} (proper : v.IsProper) (kind : Kind) :
    (¬(kind = .undated ∧ ∃ d, v = .date d) →
      (∃ n, v.field kind = .ok n) ∨
        ∃ e, v.field kind = .error e ∧ e.family = .noField ∧ e.expected? = some kind.name) ∧
    (kind = .undated ∧ (∃ d, v = .date d) → v.field kind = .error (.noMember .undated)) := by
  constructor
  · intro asked
    rcases field_ok_or_unanswered proper asked with answered | missing
    · exact .inl answered
    · exact .inr ⟨_, missing, rfl, rfl⟩
  · rintro ⟨rfl, d, rfl⟩
    rfl

/-- A date whose day is the greatest count has no week. -/
theorem field_answered_or_missing_week : ∃ (d : PeriodDate) (e : Error),
    d.fields.get .day = some ⟨greatestCount, by decide⟩ ∧
    Value.field (.date d) .week = .error e ∧ e.family = .noField ∧ e.expected? = some "week" := by
  let fields : DateFields :=
    { year := some ⟨2018, by decide⟩
      month := some ⟨2, by decide⟩
      day := some ⟨greatestCount, by decide⟩ }
  let d : PeriodDate := ⟨.day, fields, rfl⟩
  have proper : (Value.date d).IsProper := trivial
  obtain ⟨n, answered⟩ | ⟨e, refused, family, expected⟩ :=
    (field_answered_or_missing proper .week).1 (by simp)
  · cases answered
  · exact ⟨d, e, rfl, refused, family, expected⟩

/-- A date asked for an undated field does not say that the field is missing. -/
theorem field_undated_of_date : ∃ (d : PeriodDate) (e : Error), (Value.date d).IsProper ∧
    Value.field (.date d) .undated = .error e ∧ e.family ≠ .noField := by
  let d : PeriodDate := ⟨.year, { year := some ⟨2018, by decide⟩ }, rfl⟩
  exact ⟨d, _, trivial, rfl, by decide⟩

end Value

end PeriodText
