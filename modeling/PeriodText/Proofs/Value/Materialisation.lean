import PeriodText.Proofs.Format.Rendering
import PeriodText.Proofs.Shape
import PeriodText.Proofs.Value.Fields
import Mathlib.Logic.Function.Basic

/-!
# Storing what is derived

A semester, a quarter or a week that a date derives may be stored in it as well. The date answers all
fields as before, and is written as before in every format: `PeriodDate.materialise`.

What could go wrong is that a stored quarter comes before the month when a semester is derived. But
the semester of the quarter of a month is the semester of the month (`Datum.pair_group`), since
halves of thirds are sixths, rounded down at each step or at once.
-/

set_option autoImplicit false

namespace PeriodText

variable {numbers : Kind → Option Int} {kind : Kind} {n : Int}

/-- Halves of groups of three are groups of six, from the first month on and before it. -/
theorem half_third_eq_sixth (month : Int) :
    ((month - 1) / 3 + 1 + 1) / 2 = (month - 1) / 6 + 1 := by
  omega

/-- **The semester of the quarter of a month is the semester of the month.** -/
theorem Datum.pair_group (month : Int) :
    (Datum.integer month).group 3 >>= Datum.pair = (Datum.integer month).group 6 :=
  congrArg (fun n => Except.ok (Datum.integer n)) (half_third_eq_sixth month)

namespace Kind

/-- Nothing is derived from a semester or a week. -/
theorem derived?_update (unused : kind = .semester ∨ kind = .week) (number : Option Int)
    (other : Kind) : other.derived? (Function.update numbers kind number) = other.derived? numbers := by
  rcases unused with rfl | rfl <;> cases other <;> rfl

/-- A stored quarter gives the semester that its month gives. -/
theorem derived?_semester_update (unstored : numbers .quarter = none)
    (derived : derived? numbers .quarter = some n) :
    derived? (Function.update numbers .quarter (some n)) .semester = derived? numbers .semester := by
  obtain ⟨month, stored, rfl⟩ := Option.map_eq_some_iff.mp derived
  simp only [derived?, Function.update_self, unstored, stored, Option.map_some]
  rw [half_third_eq_sixth]

/-- **Storing what is answered changes no answer.** -/
theorem answer?_update (answered : kind.answer? numbers = some n) (other : Kind) :
    other.answer? (Function.update numbers kind (some n)) = other.answer? numbers := by
  by_cases same : other = kind
  · subst same
    rw [answered, answer?, Function.update_self, Option.some_or]
  · rw [answer?, answer?, Function.update_of_ne same]
    rcases Option.or_eq_some_iff.mp answered with stored | ⟨unstored, derived⟩
    · rw [← stored, Function.update_eq_self]
    · cases kind with
      | semester => rw [derived?_update (.inl rfl)]
      | week => rw [derived?_update (.inr rfl)]
      | quarter =>
        cases other with
        | semester => rw [derived?_semester_update unstored derived]
        | year | quarter | month | week | day | undated => rfl
      | year | month | day | undated => cases derived

end Kind

namespace PeriodDate

/-- Counts that complete the chain of a kind are the numbers of a date of the kind. -/
theorem exists_ofNumbers {chain : List Kind} (found : kind.chain? = some chain)
    (counts : ∀ k n, numbers k = some n → leastCount ≤ n ∧ n ≤ greatestCount)
    (complete : ∀ k ∈ chain, (numbers k).isSome = true) (dated : numbers .undated = none)
    {data : Kind → Datum} (given : ∀ k, data k = .ofNumber? (numbers k)) :
    ∃ d, ofData kind data = .ok d ∧ Value.number? (.date d) = numbers := by
  have fields {k : Kind} (place : k ≠ .undated) := DateFields.get_ofValues counts place
  have filled (k : Kind) (mem : k ∈ chain) :
      ((DateFields.ofValues numbers).get k).isSome = true := by
    rw [← Option.isSome_map, fields (Kind.ne_undated_of_mem_chain found mem)]
    exact complete k mem
  obtain ⟨d, made⟩ := exists_ofFields found filled
  obtain ⟨-, same⟩ := ofFields_eq_ok.mp made
  refine ⟨d, bind_eq_ok.mpr ⟨_, (DateFields.ofData_eq_ok given).mpr fun k => fields, made⟩, ?_⟩
  funext k
  by_cases place : k = .undated
  · rw [place, dated]
    rfl
  · rw [Value.number?, same]
    exact fields place

/-- A date stays one, whatever count is stored in it besides. -/
theorem exists_stored (d : PeriodDate) (dated : kind ≠ .undated)
    (count : leastCount ≤ n ∧ n ≤ greatestCount) :
    ∃ d', ofData d.kind (Function.update (Value.stored (.date d)) kind (.integer n)) = .ok d' ∧
      Value.number? (.date d') = Function.update (Value.number? (.date d)) kind (some n) := by
  have proper : (Value.date d).IsProper := trivial
  obtain ⟨chain, found, set⟩ := d.exists_chain
  refine exists_ofNumbers found ?_ ?_ ?_ ?_
  · refine (Function.forall_update_iff _ fun _ number =>
      ∀ m, number = some m → leastCount ≤ m ∧ m ≤ greatestCount).mpr ⟨?_, ?_⟩
    · rintro m ⟨⟩
      exact count
    · exact fun k _ m => proper.count_of_number?
  · refine (Function.forall_update_iff _ fun k number =>
      k ∈ chain → Option.isSome number = true).mpr ⟨fun _ => rfl, fun k _ mem => ?_⟩
    rw [Value.number?, Option.isSome_map]
    exact set k mem
  · rw [Function.update_of_ne (Ne.symm dated)]
    rfl
  · intro k
    rw [Function.apply_update (fun _ => Datum.ofNumber?), funext proper.stored_eq]
    rfl

/-- **Storing what a date answers changes nothing that is seen of it.** The date that stores the
answer answers every field as before, or lacks it as before, and it is written as before in every
format. Among what is stored in this way is the quarter of a month, and there is no month from whose
quarter another semester is derived than from the month. -/
theorem materialise :
    (∀ (d : PeriodDate) (kind : Kind) (n : Int), Value.field (.date d) kind = .ok n →
      ∃ d', ofData d.kind (Function.update (Value.stored (.date d)) kind (.integer n)) = .ok d' ∧
        (∀ other, other ≠ .undated → Value.field (.date d') other = Value.field (.date d) other ∧
          ((∃ m, Value.field (.date d) other = .ok m) ∨
            ∃ e, Value.field (.date d) other = .error e ∧ e.family = .noField)) ∧
        ∀ (f : Format) locale, f.render locale (.date d') = f.render locale (.date d)) ∧
    ∀ (get : Kind → Datum) (month : Int), get .quarter = .absent → get .month = .integer month →
      ∃ quarter, Value.derived get .quarter = .ok quarter ∧
        Value.derived (Function.update get .quarter quarter) .semester =
          Value.derived get .semester := by
  constructor
  · intro d kind n given
    have proper : (Value.date d).IsProper := trivial
    obtain ⟨dated, answered⟩ := Value.field_date_eq_ok.mp given
    obtain ⟨d', made, numbers⟩ := d.exists_stored dated (proper.count_of_field given)
    have same (other : Kind) (place : other ≠ .undated) :
        Value.field (.date d') other = Value.field (.date d) other := by
      rw [Value.field_date d' place, Value.field_date d place, numbers,
        Kind.answer?_update answered]
      rfl
    refine ⟨d', made, fun other place => ⟨same other place, ?_⟩, fun f locale => ?_⟩
    · rcases Value.field_ok_or_unanswered proper fun asked => place asked.1 with told | missing
      · exact .inl told
      · exact .inr ⟨_, missing, rfl⟩
    · exact Format.render_congr (fun g _ => same g.kind g.kind_ne_undated) locale
  · intro get month unstored stored
    refine ⟨.integer ((month - 1) / 3 + 1), ?_, ?_⟩
    · rw [Value.derived, stored]
      rfl
    · simp only [Value.derived, Function.update_self, unstored, stored]
      rw [← Datum.pair_group]
      rfl

/-- A month before the first one is in a semester before the first one, and so is its quarter. -/
theorem materialise_monthBefore : ∃ d d' : PeriodDate,
    d.fields = { year := some ⟨2018, by decide⟩, month := some ⟨-7, by decide⟩ } ∧
    Value.field (.date d) .quarter = .ok (-2) ∧ Value.field (.date d) .semester = .ok (-1) ∧
    ofData d.kind (Function.update (Value.stored (.date d)) .quarter (.integer (-2))) = .ok d' ∧
    Value.field (.date d') .semester = .ok (-1) ∧
    (∃ quarter, Value.derived (Value.stored (.date d)) .quarter = .ok quarter ∧
      Value.derived (Function.update (Value.stored (.date d)) .quarter quarter) .semester =
        .ok (.integer (-1))) := by
  let d : PeriodDate :=
    ⟨.month, { year := some ⟨2018, by decide⟩, month := some ⟨-7, by decide⟩ }, rfl⟩
  have derives : Value.field (.date d) .quarter = .ok (-2) := rfl
  have semester : Value.field (.date d) .semester = .ok (-1) := rfl
  obtain ⟨d', made, same, -⟩ := materialise.1 d .quarter (-2) derives
  obtain ⟨quarter, derived, again⟩ := materialise.2 (Value.stored (.date d)) (-7) rfl rfl
  exact ⟨d, d', rfl, derives, semester, made, (same .semester (by decide)).1.trans semester,
    quarter, derived, again.trans rfl⟩

end PeriodDate

end PeriodText
