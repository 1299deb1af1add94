import PeriodText.Proofs.Injectivity
import PeriodText.Proofs.Session.Requests

/-!
# Every date has a text

A date is made only of a kind that has a chain, from counts for all fields of the chain
(`PeriodDate.exists_ofData`). The standard format of the kind asks for these fields and no others,
and it writes them as numbers. So a date can always be written in the standard format of its kind, in
whatever way it is asked for and whether or not there is a locale, and what it carries besides its
chain makes no difference: `PeriodDate.printable`.
-/

set_option autoImplicit false

namespace PeriodText

variable {f : Format}

/-! ## Numbers need no locale -/

/-- A number is written alike in every locale. -/
theorem Field.render_numeric {g : Field} (numeric : g.specifier.style? = none)
    (locale other : Except Error Locale) (v : Value) : g.render locale v = g.render other v := by
  simp only [Field.render, numeric]

/-- A format of numbers writes a value alike in every locale. -/
theorem Format.render_numeric (numeric : Format.Numeric f.tokens)
    (locale other : Except Error Locale) (v : Value) :
    f.render locale v = f.render other v := by
  rw [render, render, renderFrom_congr]
  intro t mem
  cases t with
  | literal text => rfl
  | field g => exact Field.render_numeric (numeric g mem) locale other v

/-! ## Data that make a date -/

namespace DateFields

variable {data : Kind → Datum} {kind : Kind}

/-- A field is read from the datum that is given for it, if there is one. -/
theorem fieldOf_eq_ok_iff {count : Option Count} : fieldOf data kind = .ok count ↔
    (data kind = .absent ∧ count = none) ∨
      ∃ c, Count.ofDatum kind (data kind) = .ok c ∧ count = some c := by
  unfold fieldOf
  split
  · next absent =>
    rw [absent]
    constructor
    · rintro ⟨⟩
      exact .inl ⟨rfl, rfl⟩
    · rintro (⟨-, rfl⟩ | ⟨c, impossible, -⟩)
      · rfl
      · cases impossible
  · next given =>
    rw [map_eq_ok]
    constructor
    · rintro ⟨c, read, rfl⟩
      exact .inr ⟨c, read, rfl⟩
    · rintro (⟨absent, -⟩ | ⟨c, read, rfl⟩)
      · exact absurd absent given
      · exact ⟨c, read, rfl⟩

/-- A field that is read is the count that its datum is. -/
theorem eq_ofDatum_of_fieldOf {count : Option Count} (read : fieldOf data kind = .ok count) :
    count = (Count.ofDatum kind (data kind)).toOption := by
  rcases fieldOf_eq_ok_iff.mp read with ⟨absent, rfl⟩ | ⟨c, counted, rfl⟩
  · rw [absent]
    rfl
  · rw [counted]
    rfl

end DateFields

/-- The data place a period of the kind: all fields of its chain are given, and what is given is a
count. -/
structure Kind.PlacedBy (kind : Kind) (data : Kind → Datum) : Prop where
  complete : ∃ chain, kind.chain? = some chain ∧ ∀ field ∈ chain, data field ≠ .absent
  counts : ∀ field, field ≠ .undated → data field ≠ .absent →
    ∃ c, Count.ofDatum field (data field) = .ok c

/-! ## Dates -/

/-- A value is written in its standard format if no other is given. -/
theorem Request.answer_formatValue_standard {v : Value} (standard : v.standardFormat = .ok f)
    (argument : LocaleArgument) (s : Session) :
    (formatValue v (.datum .absent) argument).answer s = f.render (s.locale argument) v := by
  have first : (ofExcept v.standardFormat).run s = (.ok f, s) := by
    rw [standard]
    rfl
  exact (answer_bind_ok first).trans (congrArg Prod.fst (run_render f v argument s))

namespace PeriodDate

/-- **Data make a date of a kind** exactly if they place a period of it. -/
theorem exists_ofData {kind : Kind} {data : Kind → Datum} :
    (∃ d, ofData kind data = .ok d) ↔ kind.PlacedBy data := by
  constructor
  · rintro ⟨d, made⟩
    obtain ⟨rfl, read⟩ := ofData_eq_ok.mp made
    obtain ⟨chain, found, set⟩ := d.exists_chain
    refine ⟨⟨chain, found, fun field mem absent => ?_⟩, fun field dated given => ?_⟩
    · have place := Kind.ne_undated_of_mem_chain found mem
      have present := set field mem
      rw [DateFields.eq_ofDatum_of_fieldOf (read field place), absent] at present
      cases present
    · rcases DateFields.fieldOf_eq_ok_iff.mp (read field dated) with ⟨absent, -⟩ | ⟨c, counted, -⟩
      · exact absurd absent given
      · exact ⟨c, counted⟩
  · rintro ⟨⟨chain, found, given⟩, counts⟩
    have each (field : Kind) (dated : field ≠ .undated) :
        ∃ count, DateFields.fieldOf data field = .ok count := by
      by_cases absent : data field = .absent
      · exact ⟨none, DateFields.fieldOf_eq_ok_iff.mpr (.inl ⟨absent, rfl⟩)⟩
      · obtain ⟨c, counted⟩ := counts field dated absent
        exact ⟨some c, DateFields.fieldOf_eq_ok_iff.mpr (.inr ⟨c, counted, rfl⟩)⟩
    obtain ⟨fields, read⟩ := DateFields.exists_ofData each
    have set (field : Kind) (mem : field ∈ chain) : (fields.get field).isSome = true := by
      have place := Kind.ne_undated_of_mem_chain found mem
      obtain ⟨c, counted⟩ := counts field place (given field mem)
      rw [DateFields.eq_ofDatum_of_fieldOf (DateFields.ofData_iff_fieldOf.mp read field place),
        counted]
      rfl
    obtain ⟨d, made⟩ := exists_ofFields found set
    exact ⟨d, bind_eq_ok.mpr ⟨fields, read, made⟩⟩

/-- A date is made from named data if all names are those of fields. -/
theorem ofNamed_eq_ok {kind : Kind} {data : List (String × Datum)} {d : PeriodDate} :
    ofNamed kind data = .ok d ↔ strayName? data = none ∧ ofData kind (named data) = .ok d := by
  unfold ofNamed
  split
  · next stray => simp [stray]
  · next none => simp [none]

/-- Dates with the same fields of a chain are written alike in a format of these fields. -/
theorem render_congr {d d' : PeriodDate}
    (set : ∀ kind ∈ f.kinds, ∃ c, d.fields.get kind = some c)
    (same : ∀ kind ∈ f.kinds, d'.fields.get kind = d.fields.get kind)
    (locale : Except Error Locale) : f.render locale (.date d') = f.render locale (.date d) := by
  refine Format.render_congr (fun g mem => ?_) locale
  have listed := Format.mem_kinds.mpr ⟨g, mem, rfl⟩
  obtain ⟨c, stored⟩ := set g.kind listed
  rw [Value.field_of_stored stored, Value.field_of_stored ((same g.kind listed).trans stored)]

/-- What values resolve to, if it is a date, is the date of its kind that they give. -/
theorem toDate_of_resolve {values : FieldValues} {target : Option Kind} {d : PeriodDate}
    (resolved : values.resolve target = .ok (.date d)) : values.toDate d.kind = .ok d := by
  cases target with
  | none => exact (FieldValues.resolve_none_eq_date.mp resolved).2.2
  | some kind =>
    have made := FieldValues.resolve_some_eq_date.mp resolved
    rwa [(FieldValues.toDate_eq_ok.mp made).1]

/-- **Every date that can be made has a text.** It is made from data that place a period of its
kind, and its fields are the counts that are given; or it is what field values resolve to, and its
fields are these and the presumed ones. Either way its kind is a dated one, all fields of its chain
are set, and what is set is a count. Its text is what it is written as when no format is given, or
the standard one of its kind, in any locale or none; and every date with the same fields of the
chain is written so in that format, whatever else either of them carries. -/
theorem printable :
    (∀ kind data, (∃ d, ofNamed kind data = .ok d) ↔
      strayName? data = none ∧ kind.PlacedBy (named data)) ∧
    (∀ kind data d, ofNamed kind data = .ok d → d.kind = kind ∧ ∀ field, field ≠ .undated →
      d.fields.get field = (Count.ofDatum field (named data field)).toOption) ∧
    (∀ (values : FieldValues) target d, values.resolve target = .ok (.date d) → ∃ chain,
      d.kind.chain? = some chain ∧ ∀ field, field ≠ .undated →
        (d.fields.get field).map Count.toInt =
          (values.get? field).or (if field ∈ chain then field.presumed? else none)) ∧
    ∀ d : PeriodDate, d.kind ≠ .undated ∧
      (∀ field c, d.fields.get field = some c → leastCount ≤ c.toInt ∧ c.toInt ≤ greatestCount) ∧
      ∃ chain f text, d.kind.chain? = some chain ∧
        (∀ field ∈ chain, ∃ c, d.fields.get field = some c) ∧
        d.kind.standardFormat? = some f ∧ d.text = .ok text ∧
        ∀ (s : Session) (argument : LocaleArgument),
          (Request.formatValue (.date d) (.datum .absent) argument).answer s = .ok text ∧
          ∀ d' : PeriodDate, (∀ field ∈ chain, d'.fields.get field = d.fields.get field) →
            (Request.formatValue (.date d') (.compiled f) argument).answer s = .ok text := by
  refine ⟨fun kind data => ?_, fun kind data d made => ?_, fun values target d resolved => ?_,
    fun d => ?_⟩
  · simp only [ofNamed_eq_ok, exists_and_left, exists_ofData]
  · obtain ⟨same, read⟩ := ofData_eq_ok.mp (ofNamed_eq_ok.mp made).2
    exact ⟨same, fun field dated => DateFields.eq_ofDatum_of_fieldOf (read field dated)⟩
  · obtain ⟨-, -, -, fields⟩ := FieldValues.toDate_eq_ok.mp (toDate_of_resolve resolved)
    exact fields
  · obtain ⟨chain, found, set⟩ := d.exists_chain
    have dated : d.kind ≠ .undated := by
      intro undated
      rw [undated] at found
      cases found
    obtain ⟨pattern, f, -, standard, delimited, rfl⟩ := Kind.standardFormat?_of_chain found
    obtain ⟨text, own, written⟩ := d.exists_text standard delimited.numeric set
    have given : ∀ kind ∈ f.kinds, ∃ c, d.fields.get kind = some c :=
      fun kind mem => Option.isSome_iff_exists.mp (set kind mem)
    have anywhere (locale : Except Error Locale) : f.render locale (.date d) = .ok text :=
      (Format.render_numeric delimited.numeric locale _ _).trans written
    refine ⟨dated, fun _ c _ => c.fits, f.kinds, f, text, found, given, standard, own, ?_⟩
    intro s argument
    constructor
    · rw [Request.answer_formatValue_standard (Value.standardFormat_date standard)]
      exact anywhere _
    · intro d' same
      rw [Request.answer_formatValue, render_congr given same]
      exact anywhere _

/-- A quarter whose year is read from a text, and which carries a day, is written like the bare one,
in a locale that does not exist as well. -/
theorem printable_quarter : ∃ f d d',
    ofNamed .quarter [("day", .integer 31), ("quarter", .integer 2), ("year", .text " 2018 ")] =
      .ok d ∧
    ofNamed .quarter [("year", .integer 2018), ("quarter", .integer 2)] = .ok d' ∧
    Kind.standardFormat? .quarter = some f ∧ d.text = .ok "2018-Q2" ∧
    (Request.formatValue (.date d') (.compiled f) (.named "nowhere")).answer {} =
      .ok "2018-Q2" := by
  let year : Count := ⟨2018, by decide⟩
  let quarter : Count := ⟨2, by decide⟩
  let d : PeriodDate :=
    ⟨.quarter, { year := some year, quarter := some quarter, day := some ⟨31, by decide⟩ }, rfl⟩
  let d' : PeriodDate := ⟨.quarter, { year := some year, quarter := some quarter }, rfl⟩
  have made : ofNamed .quarter
      [("day", .integer 31), ("quarter", .integer 2), ("year", .text " 2018 ")] = .ok d := by
    decide +kernel
  have shown : d.text = .ok "2018-Q2" := by decide +kernel
  obtain ⟨-, -, chain, f, text, found, -, standard, own, written⟩ := printable.2.2.2 d
  cases found
  cases own.symm.trans shown
  have same : ∀ field ∈ [Kind.year, Kind.quarter], d'.fields.get field = d.fields.get field := by
    decide
  exact ⟨f, d, d', made, rfl, standard, shown, (written {} (.named "nowhere")).2 d' same⟩

end PeriodDate

end PeriodText
