import PeriodText.Proofs.Failures
import PeriodText.Proofs.Lossless

/-!
# What a format decides

Whatever the text is, a format reads values for the kinds of its fields and for no others:
`Format.perm_kinds_of_read`. So where the values are counts, it is the format that decides, with the
kind asked for, what comes of a text: a bare period, a date or neither, for want of a year; of which
kind; and with which fields set. Only what they are set to is the text's: `Format.parse_shape`.
-/

set_option autoImplicit false

namespace PeriodText

/-! ## The kinds that are read -/

/-- What a token says has a value for the kind of the field that the token is. -/
theorem Token.kind_of_read {t : Token} {locale : Except Error Locale} {position taken : Nat}
    {text : List Char} {entry : Option (Kind × Int)}
    (done : t.read locale position text = .ok (entry, taken)) (kind : Kind) :
    entry.map Prod.fst = some kind ↔ ∃ g, t = .field g ∧ g.kind = kind := by
  cases t with
  | literal expected =>
    obtain ⟨-, rfl, -⟩ := read_literal_eq_ok.mp done
    simp
  | field g =>
    obtain ⟨n, -, rfl⟩ := read_field_eq_ok.mp done
    simp

namespace FieldValues

variable {values : FieldValues} {kind : Kind}

/-- What a token says adds its kind. -/
theorem mem_kinds_putEntry {entry : Option (Kind × Int)} :
    kind ∈ (values.putEntry entry).kinds ↔
      entry.map Prod.fst = some kind ∨ kind ∈ values.kinds := by
  cases entry with
  | none => simp [putEntry]
  | some said => simp [putEntry, mem_kinds_put, eq_comm]

theorem nodup_kinds_putEntry {entry : Option (Kind × Int)} (distinct : values.kinds.Nodup) :
    (values.putEntry entry).kinds.Nodup := by
  cases entry with
  | none => exact distinct
  | some said => exact nodup_kinds_put distinct

end FieldValues

namespace Format

variable {locale : Except Error Locale}

/-- Tokens that are read add the kinds of their fields, and no others. -/
theorem mem_kinds_of_readFrom {tokens : List Token} {position : Nat} {values : FieldValues}
    {text : List Char} {reading : Reading}
    (done : readFrom locale position values tokens text = .ok reading) (kind : Kind) :
    kind ∈ reading.values.kinds ↔
      (∃ g, .field g ∈ tokens ∧ g.kind = kind) ∨ kind ∈ values.kinds := by
  induction tokens generalizing position values text with
  | nil =>
    cases done
    simp
  | cons t tokens ih =>
    obtain ⟨⟨entry, taken⟩, first, rest⟩ := bind_eq_ok.mp done
    have either : (∃ g, .field g ∈ t :: tokens ∧ g.kind = kind) ↔
        (∃ g, t = .field g ∧ g.kind = kind) ∨ ∃ g, .field g ∈ tokens ∧ g.kind = kind := by
      simp only [List.mem_cons, eq_comm, or_and_right, exists_or]
    rw [ih rest, FieldValues.mem_kinds_putEntry, Token.kind_of_read first, either, or_assoc]
    exact or_left_comm

theorem nodup_kinds_of_readFrom {tokens : List Token} {position : Nat} {values : FieldValues}
    {text : List Char} {reading : Reading}
    (done : readFrom locale position values tokens text = .ok reading)
    (distinct : values.kinds.Nodup) : reading.values.kinds.Nodup := by
  induction tokens generalizing position values text with
  | nil =>
    cases done
    exact distinct
  | cons t tokens ih =>
    obtain ⟨⟨entry, taken⟩, -, rest⟩ := bind_eq_ok.mp done
    exact ih rest (FieldValues.nodup_kinds_putEntry distinct)

/-- **A format reads values for the kinds of its fields**, and for no others. -/
theorem perm_kinds_of_read {f : Format} {text : String} {values : FieldValues}
    (done : f.read locale text = .ok values) : values.kinds.Perm f.kinds := by
  obtain ⟨reading, inside, last⟩ := bind_eq_ok.mp done
  have mem (kind : Kind) : kind ∈ reading.values.kinds ↔ kind ∈ f.kinds := by
    rw [mem_kinds_of_readFrom inside, mem_kinds]
    exact or_iff_left List.not_mem_nil
  have distinct := nodup_kinds_of_readFrom inside List.nodup_nil
  split at last
  · cases last
    exact (List.perm_ext_iff_of_nodup distinct f.nodup_kinds).mpr mem
  · cases last

/-- No kind of a format is undated. -/
theorem undated_not_mem_kinds (f : Format) : .undated ∉ f.kinds := by
  intro mem
  obtain ⟨g, -, undated⟩ := mem_kinds.mp mem
  exact g.kind_ne_undated undated

end Format

/-! ## The kind of a date -/

/-- The kind of date that values of some kinds are: the one asked for or, where none is and the
values are of several kinds, the finest of these. -/
def Kind.IsTarget (kinds : List Kind) (target : Option Kind) (kind : Kind) : Prop :=
  target = some kind ∨ target = none ∧ 2 ≤ kinds.length ∧ kind ∈ kinds ∧
    ∀ other ∈ kinds, other.rank ≤ kind.rank

/-- There is one if a kind is asked for, or there are several. -/
theorem Kind.exists_isTarget {kinds : List Kind} {target : Option Kind}
    (dated : .undated ∉ kinds) (several : target ≠ none ∨ 2 ≤ kinds.length) :
    ∃ kind, IsTarget kinds target kind := by
  cases target with
  | some kind => exact ⟨kind, .inl rfl⟩
  | none =>
    have two : 2 ≤ kinds.length := several.resolve_left (absurd rfl)
    cases found : finest? kinds with
    | some kind =>
      obtain ⟨⟨mem, -⟩, finest⟩ := finest?_eq_some.mp found
      refine ⟨kind, .inr ⟨rfl, two, mem, fun other listed => finest other listed ?_⟩⟩
      rintro rfl
      exact dated listed
    | none =>
      obtain ⟨first, rest, rfl⟩ :=
        List.exists_cons_of_length_pos (Nat.lt_of_lt_of_le Nat.zero_lt_two two)
      have undated := finest?_eq_none.mp found first List.mem_cons_self
      exact absurd (undated ▸ List.mem_cons_self) dated

/-- The order of the kinds does not matter. -/
theorem Kind.IsTarget.perm {kinds others : List Kind} {target : Option Kind} {kind : Kind}
    (asked : IsTarget kinds target kind) (same : kinds.Perm others) :
    IsTarget others target kind := by
  rcases asked with rfl | ⟨rfl, several, mem, finest⟩
  · exact .inl rfl
  · exact .inr ⟨rfl, same.length_eq ▸ several, same.mem_iff.mp mem,
      fun other listed => finest other (same.mem_iff.mpr listed)⟩

/-- It is dated if only dated kinds can be asked for. -/
theorem Kind.IsTarget.dated {kinds : List Kind} {target : Option Kind} {kind : Kind}
    (asked : IsTarget kinds target kind) (dated : target ≠ some .undated)
    (nowhere : .undated ∉ kinds) : kind ≠ .undated := by
  rintro rfl
  rcases asked with rfl | ⟨-, -, mem, -⟩
  · exact dated rfl
  · exact nowhere mem

/-! ## Periods -/

/-- The fields of a date with some values, as far as these are counts. -/
def DateFields.ofValues (given : Kind → Option Int) : DateFields where
  year := (given .year).bind Count.ofInt?
  semester := (given .semester).bind Count.ofInt?
  quarter := (given .quarter).bind Count.ofInt?
  month := (given .month).bind Count.ofInt?
  week := (given .week).bind Count.ofInt?
  day := (given .day).bind Count.ofInt?

/-- They have the values if all of these are counts. -/
theorem DateFields.get_ofValues {given : Kind → Option Int}
    (counts : ∀ kind n, given kind = some n → leastCount ≤ n ∧ n ≤ greatestCount) {kind : Kind}
    (dated : kind ≠ .undated) : ((ofValues given).get kind).map Count.toInt = given kind := by
  have field : (ofValues given).get kind = (given kind).bind Count.ofInt? := by
    cases kind with
    | undated => exact absurd rfl dated
    | year | semester | quarter | month | week | day => rfl
  rw [field]
  cases found : given kind with
  | none => rfl
  | some n => rw [Option.bind_some, Count.ofInt?, dif_pos (counts kind n found), Option.map_some]

namespace FieldValues

/-- All values are counts. -/
def AreCounts (values : FieldValues) : Prop :=
  ∀ kind n, values.get? kind = some n → leastCount ≤ n ∧ n ≤ greatestCount

variable {values : FieldValues} {target : Option Kind} {kind only : Kind}

/-- Values of several kinds, or of a kind asked for, are resolved as a date. -/
theorem resolve_of_isTarget (dated : .undated ∉ values.kinds)
    (asked : Kind.IsTarget values.kinds target kind) :
    values.resolve target = (values.toDate kind).map .date := by
  rcases asked with rfl | ⟨rfl, several, mem, finest⟩
  · simp only [resolve]
  · have found : Kind.finest? values.kinds = some kind :=
      Kind.finest?_eq_some.mpr ⟨⟨mem, fun same => dated (same ▸ mem)⟩,
        fun other listed _ => finest other listed⟩
    cases values with
    | nil => cases mem
    | cons first rest =>
      cases rest with
      | nil => exact absurd several (Nat.not_succ_le_self 1)
      | cons second rest => simp only [resolve, found]

/-- A value alone is a bare period. -/
theorem resolve_of_single (alone : values.kinds = [only]) (counts : values.AreCounts) :
    ∃ p, values.resolve none = .ok (.period p) ∧ p.kind = only ∧
      values.get? only = some p.value := by
  obtain ⟨⟨kind, n⟩, rfl, rfl⟩ := List.map_eq_singleton_iff.mp alone
  have given : get? [(kind, n)] kind = some n := by rw [get?_cons, if_pos rfl]
  let p : Period := ⟨kind, n, counts kind n given⟩
  exact ⟨p, resolve_singleton_eq_ok.mpr ⟨p, rfl, rfl, rfl⟩, rfl, given⟩

/-- No values are no period. -/
theorem resolve_of_nil (none : values.kinds = []) :
    values.resolve .none = .error (.read .noFields) := by
  obtain rfl := List.map_eq_nil_iff.mp none
  rfl

/-- Without a year there is no date. -/
theorem toDate_of_no_year (dated : kind ≠ .undated) (absent : .year ∉ values.kinds) :
    values.toDate kind = .error (.read (.noYear kind)) := by
  obtain ⟨chain, found⟩ := Kind.exists_chain dated
  unfold toDate
  rw [Kind.required_eq_ok.mpr found]
  refine bind_eq_error.mpr (.inr ⟨chain, rfl, bind_eq_error.mpr (.inl ?_)⟩)
  cases outcome : values.withPresumed kind chain with
  | ok full =>
    exact absurd (get?_isSome_iff.mp ((exists_withPresumed_chain found).mp ⟨full, outcome⟩)) absent
  | error e => rw [withPresumed_eq_error outcome]

/-- The value of a field, or what is presumed for it if it has none and the chain needs it. -/
def orPresumed (values : FieldValues) (chain : List Kind) (field : Kind) : Option Int :=
  (values.get? field).or (if field ∈ chain then field.presumed? else none)

/-- What is presumed is a count as well. -/
theorem AreCounts.orPresumed (counts : values.AreCounts) (chain : List Kind) (field : Kind)
    (n : Int) (given : values.orPresumed chain field = some n) :
    leastCount ≤ n ∧ n ≤ greatestCount := by
  rcases Option.or_eq_some_iff.mp given with own | ⟨-, other⟩
  · exact counts field n own
  · split at other
    · obtain ⟨c, made⟩ := Count.ofInt_presumed other
      rw [← Count.ofInt_eq_ok.mp made]
      exact c.fits
    · cases other

/-- With a year, no field of a chain is left without a value. -/
theorem isSome_orPresumed {chain : List Kind} (found : kind.chain? = some chain)
    (year : (values.get? .year).isSome = true) {field : Kind} (mem : field ∈ chain) :
    (values.orPresumed chain field).isSome = true := by
  rw [FieldValues.orPresumed, if_pos mem, Option.isSome_or, Bool.or_eq_true]
  rcases (Kind.presumed?_of_mem_chain found).2 field mem with rfl | presumed
  · exact .inl year
  · exact .inr presumed

/-- **With a year, counts are the fields of a date.** -/
theorem exists_toDate (dated : kind ≠ .undated) (present : .year ∈ values.kinds)
    (nowhere : .undated ∉ values.kinds) (counts : values.AreCounts) :
    ∃ d, values.toDate kind = .ok d := by
  obtain ⟨chain, found⟩ := Kind.exists_chain dated
  have year := get?_isSome_iff.mpr present
  have undated := get?_eq_none_iff.mpr nowhere
  have fields {field : Kind} (place : field ≠ .undated) :=
    DateFields.get_ofValues (counts.orPresumed chain) place
  have set (field : Kind) (mem : field ∈ chain) :
      ((DateFields.ofValues (values.orPresumed chain)).get field).isSome = true := by
    rw [← Option.isSome_map, fields (Kind.ne_undated_of_mem_chain found mem)]
    exact isSome_orPresumed found year mem
  obtain ⟨d, made⟩ := PeriodDate.exists_ofFields found set
  obtain ⟨rfl, same⟩ := PeriodDate.ofFields_eq_ok.mp made
  refine ⟨d, toDate_eq_ok.mpr ⟨rfl, year, undated, chain, found, fun field place => ?_⟩⟩
  rw [same]
  exact fields place

end FieldValues

/-! ## Shapes -/

/-- What a period is, its values aside: its kind and, of a date, the fields that are set. -/
inductive Shape where
  | period (kind : Kind)
  | date (kind : Kind) (set : List Kind)
  deriving DecidableEq, Repr

/-- The shape of what a text resolves to. -/
def Resolved.shape : Resolved → Shape
  | period p => .period p.kind
  | date d => .date d.kind (d.fields.toList.map (·.1))

/-- The set fields are those that have a value. -/
theorem DateFields.map_toList (fields : DateFields) :
    fields.toList.map (·.1) = Kind.dated.filter fun kind => (fields.get kind).isSome := by
  rw [toList, List.map_filterMap]
  induction Kind.dated with
  | nil => rfl
  | cons kind rest ih =>
    rw [List.filterMap_cons, List.filter_cons, ih]
    cases fields.get kind <;> rfl

namespace FieldValues

variable {values others : FieldValues} {target : Option Kind} {kind : Kind} {d e : PeriodDate}

/-- Dates of one kind that are made from values of the same kinds have the same fields set. -/
theorem shape_of_toDate (same : values.kinds.Perm others.kinds)
    (made : values.toDate kind = .ok d) (madeToo : others.toDate kind = .ok e) :
    (Resolved.date d).shape = (Resolved.date e).shape := by
  obtain ⟨rfl, -, -, chain, found, own⟩ := toDate_eq_ok.mp made
  obtain ⟨kinds, -, -, chainToo, foundToo, ownToo⟩ := toDate_eq_ok.mp madeToo
  cases found.symm.trans foundToo
  have set (field : Kind) : (d.fields.get field).isSome = (e.fields.get field).isSome := by
    by_cases place : field = .undated
    · rw [place]
      rfl
    · have present : (values.get? field).isSome = (others.get? field).isSome := by
        rw [Bool.eq_iff_iff, get?_isSome_iff, get?_isSome_iff, same.mem_iff]
      rw [← Option.isSome_map, own field place, Option.isSome_or, present, ← Option.isSome_or,
        ← ownToo field place, Option.isSome_map]
  rw [Resolved.shape, Resolved.shape, DateFields.map_toList, DateFields.map_toList, kinds]
  simp only [set]

/-- **Counts of the same kinds come to the same shape**, or are refused alike. -/
theorem shape_of_resolve (same : values.kinds.Perm others.kinds)
    (dated : target ≠ some .undated) (nowhere : .undated ∉ values.kinds)
    (counts : values.AreCounts) (countsToo : others.AreCounts) :
    (values.resolve target).map Resolved.shape = (others.resolve target).map Resolved.shape := by
  have nowhereToo : .undated ∉ others.kinds := mt same.mem_iff.mpr nowhere
  by_cases several : target ≠ none ∨ 2 ≤ values.kinds.length
  · obtain ⟨kind, asked⟩ := Kind.exists_isTarget nowhere several
    have place := asked.dated dated nowhere
    rw [resolve_of_isTarget nowhere asked, resolve_of_isTarget nowhereToo (asked.perm same)]
    by_cases year : .year ∈ values.kinds
    · obtain ⟨d, made⟩ := exists_toDate place year nowhere counts
      obtain ⟨e, madeToo⟩ := exists_toDate place (same.mem_iff.mp year) nowhereToo countsToo
      rw [made, madeToo]
      exact congrArg Except.ok (shape_of_toDate same made madeToo)
    · rw [toDate_of_no_year place year, toDate_of_no_year place (mt same.mem_iff.mpr year)]
  · obtain ⟨unasked, few⟩ := not_or.mp several
    obtain rfl := not_not.mp unasked
    cases found : values.kinds with
    | nil =>
      rw [found] at same
      rw [resolve_of_nil found, resolve_of_nil same.nil_eq.symm]
    | cons only rest =>
      obtain rfl : rest = [] := by
        rw [found, List.length_cons] at few
        exact List.eq_nil_of_length_eq_zero (by omega)
      rw [found] at same
      obtain ⟨p, done, rfl, -⟩ := resolve_of_single found counts
      obtain ⟨q, doneToo, kinds, -⟩ :=
        resolve_of_single (List.singleton_perm.mp same).symm countsToo
      rw [done, doneToo]
      exact congrArg (fun kind => Except.ok (Shape.period kind)) kinds.symm

end FieldValues

/-! ## Texts -/

namespace Format

variable {f : Format} {locale : Except Error Locale} {target : Option Kind} {text : String}
  {values : FieldValues}

/-- **A date read in a format** lacks a year exactly if the format does. Otherwise its fields are
the values that were read, and what is presumed for fields that its kind needs and the format
lacks. -/
theorem parse_date {kind : Kind} (read : f.read locale text = .ok values)
    (dated : target ≠ some .undated) (counts : values.AreCounts)
    (asked : Kind.IsTarget f.kinds target kind) :
    ((∃ e, f.parse locale target text = .error e ∧ e.family = .noYear) ↔ .year ∉ f.kinds) ∧
    (.year ∈ f.kinds → ∃ d chain, f.parse locale target text = .ok (.date d) ∧ d.kind = kind ∧
      kind.chain? = some chain ∧
      ∀ field, (d.fields.get field).map Count.toInt = values.orPresumed chain field) := by
  have same := perm_kinds_of_read read
  have nowhere : .undated ∉ values.kinds := mt same.mem_iff.mp f.undated_not_mem_kinds
  have place := asked.dated dated f.undated_not_mem_kinds
  have made : f.parse locale target text = (values.toDate kind).map .date := by
    rw [parse_of_read read, FieldValues.resolve_of_isTarget nowhere (asked.perm same.symm)]
  rw [made]
  by_cases year : .year ∈ f.kinds
  · obtain ⟨d, done⟩ := FieldValues.exists_toDate place (same.mem_iff.mpr year) nowhere counts
    obtain ⟨rfl, -, undated, chain, found, fields⟩ := FieldValues.toDate_eq_ok.mp done
    rw [done]
    refine ⟨iff_of_false ?_ (not_not.mpr year), fun _ => ⟨d, chain, rfl, rfl, found, ?_⟩⟩
    · rintro ⟨e, impossible, -⟩
      cases impossible
    · intro field
      by_cases own : field = .undated
      · rw [own, FieldValues.orPresumed, undated, if_neg (Kind.undated_not_mem_chain found)]
        rfl
      · exact fields field own
  · rw [FieldValues.toDate_of_no_year place (mt same.mem_iff.mp year)]
    exact ⟨iff_of_true ⟨_, rfl, rfl⟩ year, fun present => absurd present year⟩

/-- A date read for no kind in particular is of the finest kind of the format, and the same if that
kind is asked for. -/
theorem parse_finest {d : PeriodDate} (done : f.parse locale none text = .ok (.date d)) :
    Kind.finest? f.kinds = some d.kind ∧ f.parse locale (some d.kind) text = .ok (.date d) := by
  obtain ⟨values, read, resolved⟩ := bind_eq_ok.mp done
  obtain ⟨-, finest, made⟩ := FieldValues.resolve_none_eq_date.mp resolved
  have same := perm_kinds_of_read read
  rw [Kind.finest?_eq_some] at finest ⊢
  simp only [same.mem_iff] at finest
  refine ⟨finest, ?_⟩
  rw [parse_of_read read]
  exact FieldValues.resolve_some_eq_date.mpr made

/-- **The shape of a period is the format's.** Where a text is read and all values are counts, they
are values for the kinds of the format's fields. With fields of one kind and no kind asked for, the
text is the bare period of that kind; without fields it is none. Otherwise it is a date of the kind
asked for or of the finest kind of the format, or it lacks a year as the format does. So all texts
come to the same shape, and asking for the kind that was found changes nothing. -/
theorem parse_shape (read : f.read locale text = .ok values) (counts : values.AreCounts)
    (dated : target ≠ some .undated) :
    (∀ kind, (values.get? kind).isSome = true ↔ kind ∈ f.kinds) ∧
    (∀ only, f.kinds = [only] → ∃ p, f.parse locale none text = .ok (.period p) ∧
      p.kind = only ∧ values.get? only = some p.value) ∧
    (f.kinds = [] → ∃ e, f.parse locale none text = .error e ∧ e.family = .noYear) ∧
    (target ≠ none ∨ 2 ≤ f.kinds.length → ∃ kind, Kind.IsTarget f.kinds target kind ∧
      ((∃ e, f.parse locale target text = .error e ∧ e.family = .noYear) ↔ .year ∉ f.kinds) ∧
      (.year ∈ f.kinds → ∃ d chain, f.parse locale target text = .ok (.date d) ∧
        d.kind = kind ∧ kind.chain? = some chain ∧
        ∀ field, (d.fields.get field).map Count.toInt = values.orPresumed chain field)) ∧
    (∀ elsewhere other others, f.read elsewhere other = .ok others → others.AreCounts →
      (f.parse locale target text).map Resolved.shape =
        (f.parse elsewhere target other).map Resolved.shape) ∧
    ∀ d, f.parse locale none text = .ok (.date d) →
      Kind.finest? f.kinds = some d.kind ∧
      f.parse locale (some d.kind) text = .ok (.date d) := by
  have same := perm_kinds_of_read read
  have nowhere : .undated ∉ values.kinds := mt same.mem_iff.mp f.undated_not_mem_kinds
  refine ⟨?_, ?_, ?_, ?_, ?_, fun d => parse_finest⟩
  · intro kind
    rw [FieldValues.get?_isSome_iff, same.mem_iff]
  · intro only alone
    rw [alone] at same
    rw [parse_of_read read]
    exact FieldValues.resolve_of_single (List.perm_singleton.mp same) counts
  · intro none
    rw [none] at same
    rw [parse_of_read read, FieldValues.resolve_of_nil same.eq_nil]
    exact ⟨_, rfl, rfl⟩
  · intro several
    obtain ⟨kind, asked⟩ := Kind.exists_isTarget f.undated_not_mem_kinds several
    exact ⟨kind, asked, parse_date read dated counts asked⟩
  · intro elsewhere other others readToo countsToo
    rw [parse_of_read read, parse_of_read readToo]
    have both := same.trans (perm_kinds_of_read readToo).symm
    exact FieldValues.shape_of_resolve both dated nowhere counts countsToo

/-- Of two months the later one counts, and the day is presumed. All texts are days alike. -/
theorem parse_shape_day : ∃ f d, compile "mm/yyyy/mm" = .ok f ∧
    f.parse (.ok Locale.english) (some .day) "01/2018/07" = .ok (.date d) ∧ d.kind = .day ∧
    (d.fields.get .month).map Count.toInt = some 7 ∧
    (d.fields.get .day).map Count.toInt = some 1 ∧
    ∀ other values, f.read (.ok Locale.english) other = .ok values → values.AreCounts →
      (f.parse (.ok Locale.english) (some .day) other).map Resolved.shape =
        .ok (.date .day [.year, .month, .day]) := by
  let f : Format := ⟨"mm/yyyy/mm", [.field ⟨.month, 2, true⟩, .literal ['/'],
    .field ⟨.year, 4, true⟩, .literal ['/'], .field ⟨.month, 2, false⟩]⟩
  have read : f.read (.ok Locale.english) "01/2018/07" = .ok [(.month, 7), (.year, 2018)] := rfl
  have counts : FieldValues.AreCounts [(.month, 7), (.year, 2018)] := by
    intro kind n found
    cases kind <;> cases found <;> decide
  have dated : some Kind.day ≠ some .undated := by decide
  obtain ⟨-, -, -, date, alike, -⟩ := parse_shape read counts dated
  obtain ⟨kind, ⟨⟨⟩⟩ | ⟨impossible, -⟩, -, made⟩ := date (.inl nofun)
  · obtain ⟨d, chain, parsed, same, found, fields⟩ := made (by decide)
    cases found
    refine ⟨f, d, rfl, parsed, same, fields .month, fields .day, ?_⟩
    intro other values readToo countsToo
    rw [← alike _ other values readToo countsToo]
    rfl
  · cases impossible

end Format
end PeriodText
