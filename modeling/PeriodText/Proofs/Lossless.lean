import PeriodText.Proofs.Resolution
import PeriodText.Proofs.Session.Requests

/-!
# Lossless formats

A date keeps some of its fields when it is written, and loses the rest. Read back, it is the same
date exactly if what is lost is what would be presumed, and nothing is kept that the date did not
have but only derived: `roundTrip_same_iff`. Where no kind is asked for, the kind has to follow
from the fields as well.
-/

set_option autoImplicit false

namespace PeriodText

/-- A date is the same once only its fields of some kinds are kept. -/
structure PeriodDate.Lossless (d : PeriodDate) (kinds : List Kind) : Prop where
  /-- The year, which is not presumed, is kept. -/
  year : .year ∈ kinds
  /-- Nothing is kept that is only derived. -/
  stored : ∀ kind ∈ kinds, (d.fields.get kind).isSome = true
  /-- What is not kept is presumed. -/
  presumed : ∀ kind c, d.fields.get kind = some c → kind ∉ kinds →
    ∃ chain, d.kind.chain? = some chain ∧ kind ∈ chain ∧ kind.presumed? = some c.toInt

/-- A field that a date stores is answered as it is. -/
theorem Value.field_of_stored {d : PeriodDate} {kind : Kind} {c : Count}
    (stored : d.fields.get kind = some c) : Value.field (.date d) kind = .ok c.toInt := by
  have dated : kind ≠ .undated := by
    rintro rfl
    cases stored
  simp only [Value.field, if_neg dated, Value.readField, Value.answer, Value.stored, stored]
  rfl

namespace FieldValues

variable {values : FieldValues} {kinds : List Kind}

/-- The values of a date have no undated one. -/
theorem AreFieldsOf.undated {d : PeriodDate} (fields : values.AreFieldsOf (.date d) kinds) :
    values.get? .undated = none := by
  cases found : values.get? .undated with
  | none => rfl
  | some n => cases fields.given .undated n found

/-- The values have one for a kind exactly if it is one of the kinds. -/
theorem AreFieldsOf.isSome_iff {v : Value} (fields : values.AreFieldsOf v kinds) {kind : Kind} :
    (values.get? kind).isSome = true ↔ kind ∈ kinds := by
  rw [get?_isSome_iff, fields.mem_kinds]

/-- **A date's values give the date back exactly if nothing is lost.** -/
theorem AreFieldsOf.toDate_iff {d : PeriodDate} (fields : values.AreFieldsOf (.date d) kinds) :
    values.toDate d.kind = .ok d ↔ d.Lossless kinds := by
  rw [toDate_eq_ok]
  constructor
  · rintro ⟨-, year, -, chain, found, each⟩
    refine ⟨fields.isSome_iff.mp year, ?_, ?_⟩
    · intro kind kept
      obtain ⟨n, given⟩ := Option.isSome_iff_exists.mp (fields.isSome_iff.mpr kept)
      have place : kind ≠ .undated := by
        rintro rfl
        rw [fields.undated] at given
        cases given
      have same := each kind place
      rw [given, Option.some_or] at same
      obtain ⟨c, stored, -⟩ := Option.map_eq_some_iff.mp same
      rw [stored]
      rfl
    · intro kind c stored lost
      have absent := get?_eq_none_iff.mpr (mt (fields.mem_kinds kind).mp lost)
      have place : kind ≠ .undated := by
        rintro rfl
        cases stored
      have same := each kind place
      rw [absent, stored, Option.none_or] at same
      split at same
      · next listed => exact ⟨chain, found, listed, same.symm⟩
      · cases same
  · intro lossless
    obtain ⟨chain, found, set⟩ := d.exists_chain
    refine ⟨rfl, fields.isSome_iff.mpr lossless.year, fields.undated, chain, found, ?_⟩
    intro kind place
    by_cases kept : kind ∈ kinds
    · obtain ⟨n, given⟩ := Option.isSome_iff_exists.mp (fields.isSome_iff.mpr kept)
      obtain ⟨c, stored⟩ := Option.isSome_iff_exists.mp (lossless.stored kind kept)
      have answer := fields.given kind n given
      rw [Value.field_of_stored stored] at answer
      cases answer
      rw [given, stored]
      rfl
    · have absent := get?_eq_none_iff.mpr (mt (fields.mem_kinds kind).mp kept)
      rw [absent, Option.none_or]
      cases stored : d.fields.get kind with
      | some c =>
        obtain ⟨other, again, listed, presumed⟩ := lossless.presumed kind c stored kept
        cases found.symm.trans again
        rw [if_pos listed, presumed]
        rfl
      | none =>
        have unlisted : kind ∉ chain := by
          intro listed
          have present := set kind listed
          rw [stored] at present
          cases present
        rw [if_neg unlisted]
        rfl

/-- Values are a date of a kind asked for if they give one. -/
theorem resolve_some_eq_date {kind : Kind} {d : PeriodDate} :
    values.resolve (some kind) = .ok (.date d) ↔ values.toDate kind = .ok d := by
  simp [resolve, map_eq_ok]

/-- Values are a date of no kind asked for if they are of two kinds or more, and of the finest. -/
theorem resolve_none_eq_date {d : PeriodDate} :
    values.resolve none = .ok (.date d) ↔
      2 ≤ values.length ∧ Kind.finest? values.kinds = some d.kind ∧
        values.toDate d.kind = .ok d := by
  match values with
  | [] => simp [resolve, FieldValues.kinds, Kind.finest?]
  | [(only, n)] => simp [resolve, map_eq_ok]
  | first :: second :: rest =>
    have several : 2 ≤ (first :: second :: rest).length := Nat.le_add_left 2 _
    simp only [resolve, several, true_and]
    cases Kind.finest? (FieldValues.kinds (first :: second :: rest)) with
    | none => simp
    | some kind =>
      simp only [map_eq_ok, Option.some.injEq]
      constructor
      · rintro ⟨other, made, same⟩
        cases same
        obtain rfl := (toDate_eq_ok.mp made).1
        exact ⟨rfl, made⟩
      · rintro ⟨rfl, made⟩
        exact ⟨d, made, rfl⟩

/-- Without a kind asked for, a date's values give the date back exactly if nothing is lost and
there are two kinds or more, the finest of them the date's own. -/
theorem AreFieldsOf.resolve_none_iff {d : PeriodDate} (distinct : kinds.Nodup)
    (fields : values.AreFieldsOf (.date d) kinds) :
    values.resolve none = .ok (.date d) ↔ d.Lossless kinds ∧ 2 ≤ kinds.length ∧
      d.kind ∈ kinds ∧ ∀ kind ∈ kinds, kind.rank ≤ d.kind.rank := by
  have same : values.kinds.Perm kinds :=
    (List.perm_ext_iff_of_nodup fields.distinct distinct).mpr fields.mem_kinds
  have length : values.length = kinds.length := by
    rw [← same.length_eq, FieldValues.kinds, List.length_map]
  have dated : ∀ kind ∈ kinds, kind ≠ .undated := by
    rintro _ listed rfl
    have present := fields.isSome_iff.mpr listed
    rw [fields.undated] at present
    cases present
  rw [resolve_none_eq_date, fields.toDate_iff, length, Kind.finest?_eq_some]
  simp only [fields.mem_kinds]
  constructor
  · rintro ⟨several, ⟨⟨own, -⟩, finest⟩, lossless⟩
    exact ⟨lossless, several, own, fun kind listed => finest kind listed (dated kind listed)⟩
  · rintro ⟨lossless, several, own, finest⟩
    exact ⟨several, ⟨⟨own, dated _ own⟩, fun kind listed _ => finest kind listed⟩, lossless⟩

end FieldValues

/-- What was read is the same date exactly if it is that date. -/
theorem Resolved.same_iff {back : Except Error Resolved} {d : PeriodDate} :
    (back.toOption.any fun r => r.toValue.equal (.date d)) = true ↔ back = .ok (.date d) := by
  cases back with
  | error e => simp [Except.toOption]
  | ok r =>
    cases r with
    | period p => simp [Except.toOption, toValue, Value.equal]
    | date other => simp [Except.toOption, toValue, Value.equal]

/-- **Which dates and formats are lossless.** Where the text of a date is read as the date's own
fields, it is read as the date itself, its kind asked for, exactly if the format has the year and
only fields that the date stores, and the fields that it has not are presumed. Without a kind asked
for, exactly if moreover the format has fields of two kinds or more, the finest of them the date's
own. -/
theorem roundTrip_same_iff (s : Session) (argument : LocaleArgument) (f : Format) (d : PeriodDate)
    {text : String} (written : f.render (s.locale argument) (.date d) = .ok text)
    {values : FieldValues} (read : f.read (s.locale argument) text = .ok values)
    (fields : values.AreFieldsOf (.date d) f.kinds) :
    ((∃ r, (Request.roundTrip (.date d) (.compiled f) (.kind d.kind) argument).answer s = .ok r ∧
        r.same = true) ↔ d.Lossless f.kinds) ∧
    ((∃ r, (Request.roundTrip (.date d) (.compiled f) (.datum .absent) argument).answer s = .ok r ∧
        r.same = true) ↔
      d.Lossless f.kinds ∧ 2 ≤ f.kinds.length ∧ d.kind ∈ f.kinds ∧
        ∀ kind ∈ f.kinds, kind.rank ≤ d.kind.rank) := by
  have parse (kind : Option Kind) :
      f.parse (s.locale argument) kind text = values.resolve kind := by
    rw [Format.parse, read]
    rfl
  constructor
  · rw [Request.answer_roundTrip f _ argument s rfl written]
    simp only [Except.ok.injEq, exists_eq_left', Resolved.same_iff, parse]
    rw [FieldValues.resolve_some_eq_date, fields.toDate_iff]
  · rw [Request.answer_roundTrip f _ argument s rfl written]
    simp only [Except.ok.injEq, exists_eq_left', Resolved.same_iff, parse]
    exact fields.resolve_none_iff f.nodup_kinds

/-- The first month of a year, written as the year alone, comes back if a month is asked for, and
not otherwise. -/
theorem roundTrip_same_january : ∃ f d,
    Format.compile "yyyy" = .ok f ∧ d.kind = .month ∧
    (∃ r, (Request.roundTrip (.date d) (.compiled f) (.kind .month) .default).answer {} = .ok r ∧
      r.same = true) ∧
    ¬∃ r, (Request.roundTrip (.date d) (.compiled f) (.datum .absent) .default).answer {} = .ok r ∧
      r.same = true := by
  let f : Format := ⟨"yyyy", [.field ⟨.year, 4, false⟩]⟩
  let d : PeriodDate :=
    ⟨.month, { year := some ⟨2018, by decide⟩, month := some ⟨1, by decide⟩ }, rfl⟩
  have fields : FieldValues.AreFieldsOf [(.year, 2018)] (.date d) f.kinds := by
    refine ⟨by decide, ?_, ?_⟩
    · intro kind
      cases kind <;> decide
    · intro kind n found
      cases kind <;> cases found
      rfl
  have lossless : d.Lossless f.kinds := by
    refine ⟨by decide, by decide, ?_⟩
    intro kind c stored lost
    cases kind <;> cases stored
    · exact absurd (by decide) lost
    · exact ⟨_, rfl, by decide, rfl⟩
  obtain ⟨asked, unasked⟩ := roundTrip_same_iff {} .default f d rfl rfl fields
  refine ⟨f, d, rfl, rfl, asked.mpr lossless, ?_⟩
  intro same
  exact absurd (unasked.mp same).2.1 (by decide)

end PeriodText
