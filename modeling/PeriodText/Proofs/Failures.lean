import PeriodText.Error.Family
import PeriodText.Proofs.Format.Failures
import PeriodText.Proofs.Resolution
import PeriodText.Proofs.Session.Requests

/-!
# Why a text is no period

What is read from a text gives no period for one of two reasons: it has no year where one is needed,
or one of its values is no count (`FieldValues.resolve_eq_error`). All other refusals on the way are
out of reach: the fields of a chain are always filled up, and a value can always be shown in the
message. So a text is a period, or does not match, or overflows, and it is known when it overflows:
`Request.parsePeriod_classified`.
-/

set_option autoImplicit false

namespace PeriodText

open Numeral (isWritable)

/-! ## Families -/

namespace Error

/-- The errors of the family of reading are those of reading. -/
theorem mem_reading_iff {e : Error} :
    e.family.lineage.contains .reading = true ↔ ∃ cause, e = .read cause := by
  constructor
  · intro reading
    cases e with
    | read cause => exact ⟨cause, rfl⟩
    | pattern cause => cases cause <;> cases reading
    | _ => cases reading
  · rintro ⟨cause, rfl⟩
    cases cause <;> rfl

/-- An error of reading is no overflow. -/
theorem family_read_ne_overflow (cause : ReadError) : (Error.read cause).family ≠ .overflow := by
  intro overflow
  cases cause <;> cases overflow

end Error

/-! ## Counts -/

namespace Count

/-- A count can be written. -/
theorem isWritable_of_fits {n : Int} (fits : leastCount ≤ n ∧ n ≤ greatestCount) :
    isWritable n = true := by
  rw [leastCount, greatestCount] at fits
  refine Numeral.isWritable_of_lt_pow (by decide : 1 ≤ 19) (by decide) ?_
  omega

/-- An integer that can be shown is refused as a count only if it is out of range. -/
theorem ofInt_eq_error {kind : Kind} {n : Int} {e : Error} (writable : isWritable n = true)
    (refused : ofInt kind n = .error e) :
    ¬(leastCount ≤ n ∧ n ≤ greatestCount) ∧ e = .overflow kind n := by
  unfold ofInt ofInt? at refused
  split at refused
  · cases refused
  · next none =>
    split at none
    · cases none
    · next outside =>
      rw [Error.showing, if_pos writable] at refused
      exact ⟨outside, (Except.error.inj refused).symm⟩

/-- What is presumed is a count. -/
theorem ofInt_presumed {kind : Kind} {n : Int} (presumed : kind.presumed? = some n) :
    ∃ c, ofInt kind n = .ok c := by
  cases kind <;> cases presumed <;> exact ⟨_, rfl⟩

end Count

/-! ## Dates -/

/-- Every kind but the undated one has a chain. -/
theorem Kind.exists_chain {kind : Kind} (dated : kind ≠ .undated) :
    ∃ chain, kind.chain? = some chain := by
  cases kind with
  | undated => exact absurd rfl dated
  | year | semester | quarter | month | week | day => exact ⟨_, rfl⟩

/-- A field is refused if its value is no count. -/
theorem DateFields.fieldOf_eq_error {values : FieldValues} {kind : Kind} {e : Error}
    (refused : fieldOf values.datum kind = .error e) :
    ∃ n, values.get? kind = some n ∧ Count.ofInt kind n = .error e := by
  unfold fieldOf FieldValues.datum at refused
  cases found : values.get? kind with
  | none =>
    rw [found] at refused
    cases refused
  | some n =>
    rw [found] at refused
    exact ⟨n, rfl, map_eq_error.mp refused⟩

/-- Fields are refused if one of the values is no count. -/
theorem DateFields.ofData_eq_error {values : FieldValues} {e : Error}
    (refused : ofData values.datum = .error e) :
    ∃ kind n, values.get? kind = some n ∧ Count.ofInt kind n = .error e := by
  simp only [ofData, bind_eq_error] at refused
  rcases refused with year | ⟨_, -, semester | ⟨_, -, quarter | ⟨_, -, month | ⟨_, -, week |
    ⟨_, -, day | ⟨_, -, impossible⟩⟩⟩⟩⟩⟩
  · exact ⟨_, fieldOf_eq_error year⟩
  · exact ⟨_, fieldOf_eq_error semester⟩
  · exact ⟨_, fieldOf_eq_error quarter⟩
  · exact ⟨_, fieldOf_eq_error month⟩
  · exact ⟨_, fieldOf_eq_error week⟩
  · exact ⟨_, fieldOf_eq_error day⟩
  · cases impossible

/-- Where all fields of the chain are set, they are the fields of a date. -/
theorem PeriodDate.exists_ofFields {kind : Kind} {fields : DateFields} {chain : List Kind}
    (found : kind.chain? = some chain) (set : ∀ field ∈ chain, (fields.get field).isSome = true) :
    ∃ d, ofFields kind fields = .ok d := by
  have none : fields.missing chain = [] := by
    refine List.filter_eq_nil_iff.mpr fun field mem => ?_
    rw [Option.isNone_iff_eq_none]
    exact Option.isSome_iff_ne_none.mp (set field mem)
  have complete : fields.completes kind = true := by
    rw [DateFields.completes, found]
    exact List.isEmpty_iff.mpr none
  exact ⟨⟨kind, fields, complete⟩, ofFields_eq_ok.mpr ⟨rfl, rfl⟩⟩

namespace FieldValues

variable {values : FieldValues} {kind : Kind} {target : Option Kind} {e : Error}

/-- The error is the overflow of one of the values. -/
def Overflows (values : FieldValues) (e : Error) : Prop :=
  ∃ kind n, values.get? kind = some n ∧ ¬(leastCount ≤ n ∧ n ≤ greatestCount) ∧
    e = .overflow kind n

/-- A chain is not filled up only for want of a year. -/
theorem withPresumed_eq_error {chain : List Kind}
    (refused : values.withPresumed kind chain = .error e) : e = .read (.noYear kind) := by
  induction chain generalizing values with
  | nil => cases refused
  | cons first rest ih =>
    rw [withPresumed] at refused
    split at refused
    · exact ih refused
    · split at refused
      · exact ih refused
      · exact (Except.error.inj refused).symm

/-- A chain that is filled up has values for all of its kinds. -/
theorem isSome_of_withPresumed {full : FieldValues} {chain : List Kind}
    (filled : values.withPresumed kind chain = .ok full) {field : Kind} (mem : field ∈ chain) :
    (full.get? field).isSome = true := by
  rw [get?_of_withPresumed filled, if_pos mem, Option.isSome_or, Bool.or_eq_true]
  exact exists_withPresumed.mp ⟨full, filled⟩ field mem

/-- Where the fields of a filled chain are refused, one of the values overflows: what is presumed is
a count. -/
theorem overflows_of_ofData {full : FieldValues} {chain : List Kind} (readable : values.Readable)
    (filled : values.withPresumed kind chain = .ok full)
    (refused : DateFields.ofData full.datum = .error e) : values.Overflows e := by
  obtain ⟨field, n, given, uncounted⟩ := DateFields.ofData_eq_error refused
  rw [get?_of_withPresumed filled] at given
  cases own : values.get? field with
  | some m =>
    rw [own] at given
    cases given
    exact ⟨field, n, own, Count.ofInt_eq_error (readable field n own).2 uncounted⟩
  | none =>
    rw [own, Option.none_or] at given
    split at given
    · obtain ⟨c, counted⟩ := Count.ofInt_presumed given
      rw [counted] at uncounted
      cases uncounted
    · cases given

/-- The fields of a filled chain are the fields of a date. -/
theorem exists_ofFields_of_withPresumed {full : FieldValues} {chain : List Kind}
    {fields : DateFields} (found : kind.chain? = some chain)
    (filled : values.withPresumed kind chain = .ok full)
    (read : DateFields.ofData full.datum = .ok fields) :
    ∃ d, PeriodDate.ofFields kind fields = .ok d := by
  refine PeriodDate.exists_ofFields found fun field mem => ?_
  have place := Kind.ne_undated_of_mem_chain found mem
  have present := isSome_of_withPresumed filled mem
  rwa [← DateFields.ofData_datum.mp read field place, Option.isSome_map] at present

/-- **Values give no date of a kind** for want of a year, or because one of them is no count. -/
theorem toDate_eq_error (readable : values.Readable) (dated : kind ≠ .undated)
    (refused : values.toDate kind = .error e) :
    e = .read (.noYear kind) ∨ values.Overflows e := by
  obtain ⟨chain, found⟩ := Kind.exists_chain dated
  unfold toDate at refused
  rw [Kind.required_eq_ok.mpr found] at refused
  rcases bind_eq_error.mp refused with impossible | ⟨_, ⟨⟩, refused⟩
  · cases impossible
  rcases bind_eq_error.mp refused with unfilled | ⟨full, filled, refused⟩
  · exact .inl (withPresumed_eq_error unfilled)
  have placed : full.get? .undated = none := by
    rw [get?_of_withPresumed filled, if_neg (Kind.undated_not_mem_chain found), Option.or_none]
    cases given : values.get? .undated with
    | none => rfl
    | some n => exact absurd rfl (readable _ n given).1
  dsimp only at refused
  rw [placed] at refused
  rcases bind_eq_error.mp refused with unread | ⟨fields, read, unplaced⟩
  · exact .inr (overflows_of_ofData readable filled unread)
  · obtain ⟨d, done⟩ := exists_ofFields_of_withPresumed found filled read
    rw [done] at unplaced
    cases unplaced

/-- Values are resolved as one bare period, as a date of a kind that has dates, or not at all. -/
theorem resolve_cases (values : FieldValues) (dated : target ≠ some .undated) :
    (∃ only n, values = [(only, n)] ∧
      values.resolve target = (Period.ofInt only n).map .period) ∨
    (∃ kind, kind ≠ .undated ∧ values.resolve target = (values.toDate kind).map .date) ∨
    values.resolve target = .error (.read .noFields) := by
  unfold resolve
  split
  · next only n => exact .inl ⟨only, n, rfl, rfl⟩
  · next kind => exact .inr (.inl ⟨kind, fun same => dated (congrArg some same), rfl⟩)
  · split
    · next kind finest => exact .inr (.inl ⟨kind, (Kind.finest?_eq_some.mp finest).1.2, rfl⟩)
    · exact .inr (.inr rfl)

/-- **Values give no period** for want of a year, or because one of them is no count. -/
theorem resolve_eq_error (readable : values.Readable) (dated : target ≠ some .undated)
    (refused : values.resolve target = .error e) :
    (∃ cause, e = .read cause ∧ e.family = .noYear) ∨ values.Overflows e := by
  rcases resolve_cases values dated with ⟨only, n, rfl, bare⟩ | ⟨kind, place, date⟩ | none
  · rw [bare] at refused
    have given : get? [(only, n)] only = some n := by rw [get?_cons, if_pos rfl]
    have uncounted := map_eq_error.mp (map_eq_error.mp refused)
    exact .inr ⟨only, n, given, Count.ofInt_eq_error (readable only n given).2 uncounted⟩
  · rw [date] at refused
    rcases toDate_eq_error readable place (map_eq_error.mp refused) with rfl | overflow
    · exact .inl ⟨_, rfl, rfl⟩
    · exact .inr overflow
  · cases none.symm.trans refused
    exact .inl ⟨_, rfl, rfl⟩

/-- All values of a period are counts. -/
theorem fits_of_resolve {r : Resolved} (readable : values.Readable)
    (dated : target ≠ some .undated) (done : values.resolve target = .ok r) {n : Int}
    (given : values.get? kind = some n) : leastCount ≤ n ∧ n ≤ greatestCount := by
  rcases resolve_cases values dated with ⟨only, m, rfl, bare⟩ | ⟨whole, -, date⟩ | none
  · rw [bare] at done
    obtain ⟨p, counted, -⟩ := map_eq_ok.mp done
    obtain ⟨c, made, -⟩ := map_eq_ok.mp counted
    rw [get?_cons] at given
    split at given
    · cases given
      rw [← Count.ofInt_eq_ok.mp made]
      exact c.fits
    · cases given
  · rw [date] at done
    obtain ⟨d, read, -⟩ := map_eq_ok.mp done
    obtain ⟨-, -, -, chain, -, each⟩ := toDate_eq_ok.mp read
    have same := each kind (readable kind n given).1
    rw [given, Option.some_or] at same
    obtain ⟨c, -, rfl⟩ := Option.map_eq_some_iff.mp same
    exact c.fits
  · cases none.symm.trans done

end FieldValues

/-! ## Texts -/

/-- **A text that is no period** does not match or has a number that is too long, or it is read as
values of which one is no count. -/
theorem Format.parse_eq_error {f : Format} {l : Locale} {target : Option Kind} {text : String}
    {e : Error} (dated : target ≠ some .undated)
    (refused : f.parse (.ok l) target text = .error e) :
    ReadFailure text.toList e ∨ ∃ values, f.read (.ok l) text = .ok values ∧
      values.resolve target = .error e ∧ values.Overflows e := by
  rcases bind_eq_error.mp refused with unread | ⟨values, read, unresolved⟩
  · exact .inl (Format.read_eq_error unread)
  · rcases FieldValues.resolve_eq_error (Format.readable_of_read read) dated unresolved with
      ⟨cause, rfl, -⟩ | overflow
    · exact .inl (.inl ⟨cause, rfl⟩)
    · exact .inr ⟨values, read, unresolved, overflow⟩

/-- A text without an overlong number is a period, or is refused by an error of reading or by an
overflow. -/
theorem Format.parse_cases (f : Format) (l : Locale) {target : Option Kind} {text : String}
    (dated : target ≠ some .undated) (short : ¬Text.Overlong text.toList) :
    (∃ r, f.parse (.ok l) target text = .ok r) ∨ ∃ e, f.parse (.ok l) target text = .error e ∧
      (e.family.lineage.contains .reading = true ∨ e.family = .overflow) := by
  cases outcome : f.parse (.ok l) target text with
  | ok r => exact .inl ⟨r, rfl⟩
  | error e =>
    refine .inr ⟨e, rfl, ?_⟩
    rcases Format.parse_eq_error dated outcome with (reading | ⟨long, -⟩) | ⟨_, -, -, overflow⟩
    · exact .inl (Error.mem_reading_iff.mpr reading)
    · exact absurd long short
    · obtain ⟨field, n, -, -, rfl⟩ := overflow
      exact .inr rfl

/-- It overflows exactly if it is read, a year is not missed, and a value is out of range. -/
theorem Format.parse_overflow_iff (f : Format) (l : Locale) {target : Option Kind} {text : String}
    (dated : target ≠ some .undated) (short : ¬Text.Overlong text.toList) :
    (∃ e, f.parse (.ok l) target text = .error e ∧ e.family = .overflow) ↔
      ∃ values, f.read (.ok l) text = .ok values ∧
        (¬∃ e, values.resolve target = .error e ∧ e.family = .noYear) ∧
        ∃ field n, values.get? field = some n ∧ ¬(leastCount ≤ n ∧ n ≤ greatestCount) := by
  constructor
  · rintro ⟨e, refused, family⟩
    rcases Format.parse_eq_error dated refused with
      (⟨cause, rfl⟩ | ⟨long, -⟩) | ⟨values, read, unresolved, overflow⟩
    · exact absurd family (Error.family_read_ne_overflow cause)
    · exact absurd long short
    · refine ⟨values, read, ?_, ?_⟩
      · rintro ⟨other, again, noYear⟩
        cases unresolved.symm.trans again
        rw [family] at noYear
        cases noYear
      · obtain ⟨field, n, given, outside, -⟩ := overflow
        exact ⟨field, n, given, outside⟩
  · rintro ⟨values, read, year, field, n, given, outside⟩
    have readable := Format.readable_of_read read
    rw [Format.parse_of_read read]
    cases outcome : values.resolve target with
    | ok r => exact absurd (FieldValues.fits_of_resolve readable dated outcome given) outside
    | error e =>
      rcases FieldValues.resolve_eq_error readable dated outcome with ⟨_, -, noYear⟩ | overflow
      · exact absurd ⟨e, outcome, noYear⟩ year
      · obtain ⟨_, _, -, -, rfl⟩ := overflow
        exact ⟨_, rfl, rfl⟩

/-- **The outcomes of reading a text as a period.** Where the locale is known, the kind asked for
has dates, and no run of digits is too long, the text is a period, or is refused by an error of
reading or by an overflow. It overflows exactly if it is read, a year is not missed, and a value
that was read is out of range. -/
theorem Request.parsePeriod_classified (s : Session) (argument : LocaleArgument) (f : Format)
    {l : Locale} (known : s.locale argument = .ok l) {kind : KindArgument} {target : Option Kind}
    (asked : kind.resolve = .ok target) (dated : target ≠ some .undated) {text : String}
    (short : ¬Text.Overlong text.toList) :
    let answer := (parsePeriod (.text text) (.compiled f) kind argument).answer s
    ((∃ r, answer = .ok r) ∨ ∃ e, answer = .error e ∧
      (e.family.lineage.contains .reading = true ∨ e.family = .overflow)) ∧
    ((∃ e, answer = .error e ∧ e.family = .overflow) ↔
      ∃ values, f.read (.ok l) text = .ok values ∧
        (¬∃ e, values.resolve target = .error e ∧ e.family = .noYear) ∧
        ∃ field n, values.get? field = some n ∧ ¬(leastCount ≤ n ∧ n ≤ greatestCount)) := by
  intro answer
  have parsed : answer = f.parse (.ok l) target text := by
    rw [← known]
    exact answer_parsePeriod f argument s asked text
  rw [parsed]
  exact ⟨f.parse_cases l dated short, f.parse_overflow_iff l dated short⟩

/-- A year of twenty digits overflows. -/
theorem Request.parsePeriod_classified_year : ∃ f e, Format.compile "yyyy" = .ok f ∧
    (parsePeriod (.text "99999999999999999999") (.compiled f) (.datum .absent) .default).answer {} =
      .error e ∧ e.family = .overflow := by
  let f : Format := ⟨"yyyy", [.field ⟨.year, 4, false⟩]⟩
  have short : ¬Text.Overlong "99999999999999999999".toList := by
    rintro ⟨run, inside, -, long⟩
    have most : run.length ≤ 20 := inside.length_le
    exact absurd (Nat.lt_of_lt_of_le long most) (by decide)
  have unasked : (KindArgument.datum .absent).resolve = .ok none := rfl
  have read : f.read (.ok Locale.english) "99999999999999999999" =
      .ok [(.year, 99999999999999999999)] := rfl
  have dated : ¬∃ e, FieldValues.resolve [(.year, 99999999999999999999)] none = .error e ∧
      e.family = .noYear := by
    rintro ⟨e, refused, family⟩
    cases refused
    cases family
  obtain ⟨-, overflows⟩ := parsePeriod_classified {} .default f rfl unasked (by decide) short
  obtain ⟨e, refused, family⟩ := overflows.mpr ⟨_, read, dated, .year, _, rfl, by decide⟩
  exact ⟨f, e, rfl, refused, family⟩

end PeriodText
