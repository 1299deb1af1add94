import PeriodText.Proofs.Answer
import PeriodText.Proofs.FieldValues
import PeriodText.Resolution

/-!
# What field values resolve to

The date of a kind that field values give is the one whose fields are the values, and the presumed
values for the fields of the kind's chain that have none: `toDate_eq_ok`. There is one exactly if
a year is among the values and all of them are counts. The kind that is taken when none is asked for
is the finest: `finest?_eq_some`.
-/

set_option autoImplicit false

namespace PeriodText

/-! ## Chains -/

namespace Kind

/-- A chain begins with the year, and its other kinds have a value to presume. -/
theorem presumed?_of_mem_chain {target : Kind} {chain : List Kind}
    (found : target.chain? = some chain) :
    .year ∈ chain ∧ ∀ kind ∈ chain, kind = .year ∨ kind.presumed?.isSome = true := by
  cases target <;> cases found <;> decide

/-- No chain has an undated field. -/
theorem undated_not_mem_chain {target : Kind} {chain : List Kind}
    (found : target.chain? = some chain) : .undated ∉ chain := by
  cases target <;> cases found <;> decide

/-- The kinds of a chain are dated. -/
theorem ne_undated_of_mem_chain {target kind : Kind} {chain : List Kind}
    (found : target.chain? = some chain) (mem : kind ∈ chain) : kind ≠ .undated := by
  rintro rfl
  exact undated_not_mem_chain found mem

/-- A kind requires its chain. -/
theorem required_eq_ok {kind : Kind} {chain : List Kind} :
    kind.required = .ok chain ↔ kind.chain? = some chain := by
  unfold required
  cases kind.chain? with
  | none => simp
  | some other => simp

/-- Kinds of one rank are the same. -/
theorem rank_injective {a b : Kind} (same : a.rank = b.rank) : a = b := by
  cases a <;> cases b <;> first | rfl | cases same

end Kind

namespace FieldValues

/-- A value added at the end counts if the kind had none. -/
theorem get?_snoc (values : FieldValues) (kind : Kind) (n : Int) (other : Kind) :
    get? (values ++ [(kind, n)]) other =
      (values.get? other).or (if other = kind then some n else none) := by
  rw [get?, List.lookup_append, get?]
  exact congrArg _ (get?_cons kind n [] other)

/-- The kinds of a chain that have no value get the presumed one, and nothing else changes. -/
theorem get?_of_withPresumed {values full : FieldValues} {target : Kind} {chain : List Kind}
    (filled : values.withPresumed target chain = .ok full) (kind : Kind) :
    full.get? kind =
      (values.get? kind).or (if kind ∈ chain then kind.presumed? else none) := by
  induction chain generalizing values with
  | nil =>
    cases filled
    exact Option.or_none.symm
  | cons first rest ih =>
    rw [withPresumed] at filled
    split at filled
    · next present =>
      rw [ih filled]
      by_cases here : kind = first
      · subst here
        obtain ⟨n, found⟩ := Option.isSome_iff_exists.mp present
        rw [found, Option.some_or, Option.some_or]
      · simp only [List.mem_cons, here, false_or]
    · next absent =>
      split at filled
      · next n presumed =>
        rw [ih filled, get?_snoc, Option.or_assoc]
        by_cases here : kind = first
        · subst here
          simp [presumed]
        · simp [here]
      · cases filled

/-- A chain is filled up exactly if every kind of it has a value or a presumed one. -/
theorem exists_withPresumed {values : FieldValues} {target : Kind} {chain : List Kind} :
    (∃ full, values.withPresumed target chain = .ok full) ↔
      ∀ kind ∈ chain, (values.get? kind).isSome = true ∨ kind.presumed?.isSome = true := by
  induction chain generalizing values with
  | nil => simp [withPresumed]
  | cons first rest ih =>
    rw [withPresumed, List.forall_mem_cons]
    split
    · next present => rw [ih, and_iff_right (.inl present)]
    · next absent =>
      split
      · next n presumed =>
        rw [ih, presumed, and_iff_right (.inr rfl)]
        refine forall_congr' fun kind => forall_congr' fun _ => ?_
        rw [get?_snoc]
        by_cases here : kind = first
        · subst here
          simp [presumed]
        · simp [here]
      · next unknown =>
        simp [absent, unknown]

/-- The chain of a kind is filled up exactly if the year has a value. -/
theorem exists_withPresumed_chain {values : FieldValues} {target : Kind} {chain : List Kind}
    (found : target.chain? = some chain) :
    (∃ full, values.withPresumed target chain = .ok full) ↔
      (values.get? .year).isSome = true := by
  obtain ⟨year, others⟩ := Kind.presumed?_of_mem_chain found
  rw [exists_withPresumed]
  constructor
  · intro each
    rcases each .year year with present | presumed
    · exact present
    · cases presumed
  · intro present kind mem
    rcases others kind mem with rfl | presumed
    · exact .inl present
    · exact .inr presumed

end FieldValues

/-! ## Dates -/

/-- The numbers of years, months and days are counts. -/
theorem Count.fits_of_le {n : Int} (least : 1 ≤ n) (most : n ≤ 9999) :
    leastCount ≤ n ∧ n ≤ greatestCount := by
  unfold leastCount greatestCount
  omega

/-- An integer is read as the count that it is. -/
theorem Count.ofInt_eq_ok {kind : Kind} {n : Int} {c : Count} :
    Count.ofInt kind n = .ok c ↔ c.toInt = n := by
  unfold ofInt
  constructor
  · intro made
    split at made
    · next found =>
      cases made
      exact toInt_of_ofInt? found
    · cases made
  · rintro rfl
    rw [ofInt?_toInt]

/-- An integer is read as the bare period that counts it. -/
theorem Period.ofInt_eq_ok {kind : Kind} {n : Int} {p : Period} :
    Period.ofInt kind n = .ok p ↔ p.kind = kind ∧ p.value = n := by
  rw [ofInt, map_eq_ok]
  constructor
  · rintro ⟨c, made, rfl⟩
    exact ⟨rfl, Count.ofInt_eq_ok.mp made⟩
  · rintro ⟨rfl, value⟩
    exact ⟨p.count, Count.ofInt_eq_ok.mpr value, rfl⟩

/-- The datum of a number, if there is one. -/
def Datum.ofNumber? : Option Int → Datum
  | some n => .integer n
  | none => .absent

/-- A field of a date is read as the number that it is given as. -/
theorem DateFields.fieldOf_eq_ok {data : Kind → Datum} {kind : Kind} {number : Option Int}
    (given : data kind = .ofNumber? number) {count : Option Count} :
    DateFields.fieldOf data kind = .ok count ↔ count.map Count.toInt = number := by
  unfold DateFields.fieldOf
  rw [given]
  cases number with
  | none =>
    cases count with
    | none => simp [Datum.ofNumber?]
    | some c => simp [Datum.ofNumber?]
  | some n =>
    change (Count.ofInt kind n).map some = .ok count ↔ _
    rw [map_eq_ok]
    constructor
    · rintro ⟨c, made, rfl⟩
      exact congrArg some (Count.ofInt_eq_ok.mp made)
    · intro same
      obtain ⟨c, rfl, value⟩ := Option.map_eq_some_iff.mp same
      exact ⟨c, Count.ofInt_eq_ok.mpr value, rfl⟩

/-- The fields of a date are read from data each on its own. -/
theorem DateFields.ofData_iff_fieldOf {data : Kind → Datum} {fields : DateFields} :
    DateFields.ofData data = .ok fields ↔
      ∀ kind, kind ≠ .undated → DateFields.fieldOf data kind = .ok (fields.get kind) := by
  simp only [DateFields.ofData, bind_eq_ok]
  constructor
  · rintro ⟨year, hasYear, semester, hasSemester, quarter, hasQuarter, month, hasMonth,
      week, hasWeek, day, hasDay, done⟩ kind dated
    cases done
    cases kind with
    | year => exact hasYear
    | semester => exact hasSemester
    | quarter => exact hasQuarter
    | month => exact hasMonth
    | week => exact hasWeek
    | day => exact hasDay
    | undated => exact absurd rfl dated
  · intro each
    exact ⟨_, each .year (by decide), _, each .semester (by decide), _,
      each .quarter (by decide), _, each .month (by decide), _, each .week (by decide), _,
      each .day (by decide), rfl⟩

/-- The fields are read if each of them is. -/
theorem DateFields.exists_ofData {data : Kind → Datum}
    (each : ∀ kind, kind ≠ .undated → ∃ count, DateFields.fieldOf data kind = .ok count) :
    ∃ fields, DateFields.ofData data = .ok fields := by
  obtain ⟨_, year⟩ := each .year (by decide)
  obtain ⟨_, semester⟩ := each .semester (by decide)
  obtain ⟨_, quarter⟩ := each .quarter (by decide)
  obtain ⟨_, month⟩ := each .month (by decide)
  obtain ⟨_, week⟩ := each .week (by decide)
  obtain ⟨_, day⟩ := each .day (by decide)
  simp only [DateFields.ofData, bind_eq_ok]
  exact ⟨_, _, year, _, semester, _, quarter, _, month, _, week, _, day, rfl⟩

/-- The fields of a date are read as the numbers that they are given as. -/
theorem DateFields.ofData_eq_ok {data : Kind → Datum} {numbers : Kind → Option Int}
    (given : ∀ kind, data kind = .ofNumber? (numbers kind)) {fields : DateFields} :
    DateFields.ofData data = .ok fields ↔
      ∀ kind, kind ≠ .undated → (fields.get kind).map Count.toInt = numbers kind := by
  simp only [DateFields.ofData_iff_fieldOf, DateFields.fieldOf_eq_ok (given _)]

/-- The fields of a date are read as the values of their kinds. -/
theorem DateFields.ofData_datum {values : FieldValues} {fields : DateFields} :
    DateFields.ofData values.datum = .ok fields ↔
      ∀ kind, kind ≠ .undated → (fields.get kind).map Count.toInt = values.get? kind := by
  refine ofData_eq_ok fun kind => ?_
  unfold FieldValues.datum
  cases values.get? kind <;> rfl

namespace PeriodDate

/-- The kind of a date has a chain, and the date has all fields of it. -/
theorem exists_chain (d : PeriodDate) : ∃ chain, d.kind.chain? = some chain ∧
    ∀ kind ∈ chain, (d.fields.get kind).isSome = true := by
  have complete := d.complete
  unfold DateFields.completes at complete
  split at complete
  · next chain found =>
    refine ⟨chain, found, fun kind mem => ?_⟩
    rw [List.isEmpty_iff, DateFields.missing, List.filter_eq_nil_iff] at complete
    have set := complete kind mem
    exact Option.isSome_iff_ne_none.mpr (by simpa using set)
  · cases complete

/-- Fields are the fields of a date of a kind exactly if they complete it. -/
theorem ofFields_eq_ok {kind : Kind} {fields : DateFields} {d : PeriodDate} :
    ofFields kind fields = .ok d ↔ d.kind = kind ∧ d.fields = fields := by
  unfold ofFields
  constructor
  · intro made
    split at made
    · cases made
    · split at made
      · cases made
        exact ⟨rfl, rfl⟩
      · cases made
  · rintro ⟨rfl, rfl⟩
    obtain ⟨chain, found, set⟩ := d.exists_chain
    split
    · next none =>
      rw [found] at none
      cases none
    · next other again =>
      cases found.symm.trans again
      split
      · rfl
      · next first others unset =>
        have mem : first ∈ d.fields.missing chain := by
          rw [unset]
          exact List.mem_cons_self
        obtain ⟨listed, absent⟩ := List.mem_filter.mp mem
        rw [Option.isNone_iff_eq_none] at absent
        have present := set first listed
        rw [absent] at present
        cases present

/-- **A date of a kind is made from data** that are read as its fields, and from no others. -/
theorem ofData_eq_ok {kind : Kind} {data : Kind → Datum} {d : PeriodDate} :
    ofData kind data = .ok d ↔ d.kind = kind ∧
      ∀ field, field ≠ .undated → DateFields.fieldOf data field = .ok (d.fields.get field) := by
  rw [ofData, bind_eq_ok]
  constructor
  · rintro ⟨fields, read, made⟩
    obtain ⟨same, rfl⟩ := ofFields_eq_ok.mp made
    exact ⟨same, DateFields.ofData_iff_fieldOf.mp read⟩
  · rintro ⟨same, read⟩
    exact ⟨d.fields, DateFields.ofData_iff_fieldOf.mpr read, ofFields_eq_ok.mpr ⟨same, rfl⟩⟩

/-- A date is made from its own fields. -/
theorem ofData_fields {data : Kind → Datum} (d : PeriodDate)
    (given : ∀ kind, data kind = .ofNumber? ((d.fields.get kind).map Count.toInt)) :
    ofData d.kind data = .ok d :=
  ofData_eq_ok.mpr ⟨rfl, fun field _ => (DateFields.fieldOf_eq_ok (given field)).mpr rfl⟩

end PeriodDate

namespace FieldValues

/-- **The date of a kind that values give** has the values for its fields, and the presumed ones
for those of its chain that have none. -/
theorem toDate_eq_ok {values : FieldValues} {kind : Kind} {d : PeriodDate} :
    values.toDate kind = .ok d ↔ d.kind = kind ∧ (values.get? .year).isSome = true ∧
      values.get? .undated = none ∧ ∃ chain, kind.chain? = some chain ∧
        ∀ field, field ≠ .undated → (d.fields.get field).map Count.toInt =
          (values.get? field).or (if field ∈ chain then field.presumed? else none) := by
  unfold toDate
  constructor
  · intro made
    obtain ⟨chain, required, made⟩ := bind_eq_ok.mp made
    obtain ⟨full, filled, made⟩ := bind_eq_ok.mp made
    have found := Kind.required_eq_ok.mp required
    dsimp only at made
    split at made
    · cases made
    · next dated =>
      obtain ⟨fields, read, made⟩ := bind_eq_ok.mp made
      obtain ⟨rfl, rfl⟩ := PeriodDate.ofFields_eq_ok.mp made
      have full := get?_of_withPresumed filled
      refine ⟨rfl, (exists_withPresumed_chain found).mp ⟨_, filled⟩, ?_, chain, found, ?_⟩
      · rw [full, if_neg (Kind.undated_not_mem_chain found), Option.or_none] at dated
        simpa using dated
      · intro field place
        rw [← full]
        exact DateFields.ofData_datum.mp read field place
  · rintro ⟨rfl, year, dated, chain, found, fields⟩
    obtain ⟨full, filled⟩ := (exists_withPresumed_chain found).mpr year
    have each := get?_of_withPresumed filled
    have undated : (full.get? .undated).isSome = false := by
      rw [each, dated, if_neg (Kind.undated_not_mem_chain found)]
      rfl
    rw [bind_eq_ok]
    refine ⟨chain, Kind.required_eq_ok.mpr found, ?_⟩
    rw [bind_eq_ok]
    refine ⟨full, filled, ?_⟩
    dsimp only
    rw [undated, if_neg Bool.false_ne_true, PeriodDate.ofData, bind_eq_ok]
    refine ⟨d.fields, DateFields.ofData_datum.mpr ?_, PeriodDate.ofFields_eq_ok.mpr ⟨rfl, rfl⟩⟩
    intro field place
    rw [each]
    exact fields field place

/-- A value alone is a bare period, if no kind is asked for. -/
theorem resolve_singleton_eq_ok {kind : Kind} {n : Int} {r : Resolved} :
    resolve [(kind, n)] none = .ok r ↔ ∃ p, r = .period p ∧ p.kind = kind ∧ p.value = n := by
  rw [resolve, map_eq_ok]
  constructor
  · rintro ⟨p, made, rfl⟩
    exact ⟨p, rfl, Period.ofInt_eq_ok.mp made⟩
  · rintro ⟨p, rfl, counts⟩
    exact ⟨p, Period.ofInt_eq_ok.mpr counts, rfl⟩

/-- No values are no period. -/
theorem ne_nil_of_resolve {values : FieldValues} {target : Option Kind} {r : Resolved}
    (done : values.resolve target = .ok r) : values ≠ [] := by
  rintro rfl
  cases target with
  | none => cases done
  | some kind =>
    obtain ⟨d, made, -⟩ := map_eq_ok.mp done
    obtain ⟨-, year, -⟩ := toDate_eq_ok.mp made
    cases year

/-- No values are a period of a kind that has no dates. -/
theorem dated_of_resolve {values : FieldValues} {target : Option Kind} {r : Resolved}
    (done : values.resolve target = .ok r) : target ≠ some .undated := by
  rintro rfl
  have date : (values.toDate .undated).map .date = .ok r := by simpa only [resolve] using done
  obtain ⟨d, made, -⟩ := map_eq_ok.mp date
  obtain ⟨-, -, -, chain, found, -⟩ := toDate_eq_ok.mp made
  cases found

end FieldValues

/-- A text that is read is the period that the values give. -/
theorem Format.parse_of_read {f : Format} {locale : Except Error Locale} {text : String}
    {values : FieldValues} (read : f.read locale text = .ok values) (target : Option Kind) :
    f.parse locale target text = values.resolve target := by
  rw [Format.parse, read]
  rfl

/-! ## The finest kind -/

namespace Kind

/-- The finer of two kinds is one of them, and coarser than neither. -/
theorem finer_spec (a b : Kind) :
    (finer a b = a ∨ finer a b = b) ∧ a.rank ≤ (finer a b).rank ∧ b.rank ≤ (finer a b).rank := by
  unfold finer
  split
  · next less => exact ⟨.inr rfl, Nat.le_of_lt less, Nat.le_refl _⟩
  · next notLess => exact ⟨.inl rfl, Nat.le_refl _, Nat.not_lt.mp notLess⟩

/-- The finest of some kinds, found one by one, is one of them, and coarser than none. -/
theorem foldl_finer (first : Kind) (rest : List Kind) :
    rest.foldl finer first ∈ first :: rest ∧
      ∀ kind ∈ first :: rest, kind.rank ≤ (rest.foldl finer first).rank := by
  induction rest generalizing first with
  | nil => simp
  | cons second rest ih =>
    obtain ⟨mem, finest⟩ := ih (finer first second)
    obtain ⟨one, left, right⟩ := finer_spec first second
    have top := finest _ List.mem_cons_self
    rw [List.foldl_cons]
    constructor
    · rcases List.mem_cons.mp mem with same | later
      · rw [same]
        rcases one with here | there
        · rw [here]
          exact List.mem_cons_self
        · rw [there]
          exact .tail _ List.mem_cons_self
      · exact .tail _ (.tail _ later)
    · intro kind listed
      rcases List.mem_cons.mp listed with rfl | listed
      · exact Nat.le_trans left top
      · rcases List.mem_cons.mp listed with rfl | listed
        · exact Nat.le_trans right top
        · exact finest kind (.tail _ listed)

/-- **The finest of some kinds** is the dated one of them that is no coarser than any other. -/
theorem finest?_eq_some {kinds : List Kind} {kind : Kind} :
    finest? kinds = some kind ↔ (kind ∈ kinds ∧ kind ≠ .undated) ∧
      ∀ other ∈ kinds, other ≠ .undated → other.rank ≤ kind.rank := by
  have dated (k : Kind) : k ∈ kinds.filter (· ≠ undated) ↔ k ∈ kinds ∧ k ≠ .undated := by simp
  unfold finest?
  rw [← dated]
  split
  · next none =>
    rw [none]
    simp
  · next first rest some =>
    rw [some] at dated ⊢
    obtain ⟨mem, finest⟩ := foldl_finer first rest
    constructor
    · rintro ⟨⟩
      exact ⟨mem, fun other listed place => finest other ((dated other).mpr ⟨listed, place⟩)⟩
    · rintro ⟨listed, top⟩
      obtain ⟨inside, place⟩ := (dated _).mp mem
      have least := top _ inside place
      exact congrArg _ (rank_injective (Nat.le_antisymm least (finest kind listed)))

/-- There is a finest of some kinds unless none of them is dated. -/
theorem finest?_eq_none {kinds : List Kind} :
    finest? kinds = none ↔ ∀ kind ∈ kinds, kind = .undated := by
  unfold finest?
  split
  · next none => simpa using none
  · next first rest some =>
    have mem : first ∈ kinds.filter (· ≠ undated) := some ▸ List.mem_cons_self
    obtain ⟨listed, place⟩ := List.mem_filter.mp mem
    refine iff_of_false nofun fun all => ?_
    exact of_decide_eq_true place (all first listed)

end Kind

end PeriodText
