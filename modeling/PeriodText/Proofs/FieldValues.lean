import PeriodText.Format.Reading
import PeriodText.Proofs.Answer
import Mathlib.Data.List.Nodup

/-!
# Field values as a mapping

Values of fields are kept in a list, but they are a mapping: no kind comes twice, and putting a
value for a kind changes what is found for that kind alone. Values put one after another are the
mapping that finds the last one for each kind (`get?_ofList`) and has the kinds of all of them. The
kinds that a format asks for are those of its fields, `Format.mem_kinds`.
-/

set_option autoImplicit false

namespace PeriodText

namespace FieldValues

/-- The last value of a kind among some entries. -/
def lastOf (kind : Kind) (entries : List (Kind × Int)) : Option Int := entries.reverse.lookup kind

/-- The first entry of a kind is found for it. -/
theorem get?_cons (first : Kind) (n : Int) (rest : FieldValues) (kind : Kind) :
    get? ((first, n) :: rest) kind = if kind = first then some n else get? rest kind := by
  rw [get?, List.lookup_cons]
  by_cases same : kind = first
  · rw [if_pos same, beq_iff_eq.mpr same]
  · rw [if_neg same, beq_eq_false_iff_ne.mpr same, get?]

/-- A value that is put is found for its kind, and nothing changes for the others. -/
theorem get?_put (kind : Kind) (n : Int) (values : FieldValues) (other : Kind) :
    (values.put kind n).get? other = if other = kind then some n else values.get? other := by
  induction values with
  | nil => exact get?_cons kind n [] other
  | cons entry rest ih =>
    obtain ⟨first, m⟩ := entry
    by_cases here : first = kind
    · subst here
      rw [put, if_pos rfl, get?_cons, get?_cons]
      by_cases same : other = first
      · rw [if_pos same, if_pos same]
      · rw [if_neg same, if_neg same, if_neg same]
    · rw [put, if_neg here, get?_cons, get?_cons, ih]
      by_cases same : other = first
      · rw [if_pos same, if_pos same, if_neg (same ▸ here)]
      · rw [if_neg same, if_neg same]

/-- A kind has a value once one is put, and otherwise if it had one before. -/
theorem mem_kinds_put {kind other : Kind} {n : Int} {values : FieldValues} :
    other ∈ (values.put kind n).kinds ↔ other = kind ∨ other ∈ values.kinds := by
  induction values with
  | nil => simp [put, kinds]
  | cons entry rest ih =>
    simp only [kinds] at ih ⊢
    by_cases here : entry.1 = kind
    · subst here
      simp [put]
    · rw [put, if_neg here, List.map_cons, List.mem_cons, ih, List.map_cons, List.mem_cons]
      exact or_left_comm

/-- Putting a value gives no kind a second one. -/
theorem nodup_kinds_put {kind : Kind} {n : Int} {values : FieldValues}
    (distinct : values.kinds.Nodup) : (values.put kind n).kinds.Nodup := by
  induction values with
  | nil => simp [put, kinds]
  | cons entry rest ih =>
    obtain ⟨fresh, others⟩ := List.nodup_cons.mp distinct
    by_cases here : entry.1 = kind
    · subst here
      rw [put, if_pos rfl]
      exact distinct
    · rw [put, if_neg here]
      refine List.nodup_cons.mpr ⟨fun again => ?_, ih others⟩
      rcases mem_kinds_put.mp again with same | old
      · exact here same
      · exact fresh old

/-- The values with some entries put one after another. -/
def putAll (values : FieldValues) (entries : List (Kind × Int)) : FieldValues :=
  entries.foldl (fun values (kind, n) => put kind n values) values

theorem ofList_eq_putAll (entries : List (Kind × Int)) : ofList entries = putAll [] entries := rfl

/-- For each kind the last entry counts, and the old value if there is none. -/
theorem get?_putAll (entries : List (Kind × Int)) (values : FieldValues) (kind : Kind) :
    (values.putAll entries).get? kind = (lastOf kind entries).or (values.get? kind) := by
  induction entries generalizing values with
  | nil => rfl
  | cons entry rest ih =>
    obtain ⟨first, n⟩ := entry
    change ((values.put first n).putAll rest).get? kind = _
    have alone : List.lookup kind [(first, n)] = if kind = first then some n else none :=
      get?_cons first n [] kind
    rw [ih, get?_put, lastOf, lastOf, List.reverse_cons, List.lookup_append, Option.or_assoc, alone]
    by_cases same : kind = first
    · rw [if_pos same, if_pos same, Option.some_or]
    · rw [if_neg same, if_neg same, Option.none_or]

/-- The kinds are those of the entries and the old ones. -/
theorem mem_kinds_putAll {entries : List (Kind × Int)} {values : FieldValues} {kind : Kind} :
    kind ∈ (values.putAll entries).kinds ↔ kind ∈ entries.map (·.1) ∨ kind ∈ values.kinds := by
  induction entries generalizing values with
  | nil => simp [putAll]
  | cons entry rest ih =>
    obtain ⟨first, n⟩ := entry
    change kind ∈ ((values.put first n).putAll rest).kinds ↔ _
    rw [ih, mem_kinds_put, List.map_cons, List.mem_cons, or_left_comm, or_assoc]

/-- No kind has a second value. -/
theorem nodup_kinds_putAll {entries : List (Kind × Int)} {values : FieldValues}
    (distinct : values.kinds.Nodup) : (values.putAll entries).kinds.Nodup := by
  induction entries generalizing values with
  | nil => exact distinct
  | cons entry rest ih => exact ih (nodup_kinds_put distinct)

/-- **Values put one after another are found by the last of each kind.** -/
theorem get?_ofList (entries : List (Kind × Int)) (kind : Kind) :
    (ofList entries).get? kind = lastOf kind entries := by
  rw [ofList_eq_putAll, get?_putAll]
  exact Option.or_none

theorem nodup_kinds_ofList (entries : List (Kind × Int)) : (ofList entries).kinds.Nodup :=
  nodup_kinds_putAll List.nodup_nil

theorem mem_kinds_ofList {entries : List (Kind × Int)} {kind : Kind} :
    kind ∈ (ofList entries).kinds ↔ kind ∈ entries.map (·.1) := by
  rw [ofList_eq_putAll, mem_kinds_putAll]
  simp [kinds]

/-- The last value of a kind is one of its values. -/
theorem mem_of_lastOf {kind : Kind} {entries : List (Kind × Int)} {n : Int}
    (last : lastOf kind entries = some n) : (kind, n) ∈ entries :=
  List.mem_reverse.mp (mem_of_lookup last)

/-- A kind has a value exactly if one is found for it. -/
theorem get?_isSome_iff {values : FieldValues} {kind : Kind} :
    (values.get? kind).isSome = true ↔ kind ∈ values.kinds := isSome_lookup_iff

theorem get?_eq_none_iff {values : FieldValues} {kind : Kind} :
    values.get? kind = none ↔ kind ∉ values.kinds := by
  rw [← get?_isSome_iff, Option.not_isSome_iff_eq_none]

/-- Where no kind comes twice, an entry is the last one of its kind. -/
theorem lastOf_of_mem {entries : List (Kind × Int)} (distinct : (entries.map (·.1)).Nodup)
    {kind : Kind} {n : Int} (mem : (kind, n) ∈ entries) : lastOf kind entries = some n := by
  have present : ((ofList entries).get? kind).isSome = true := by
    rw [get?_isSome_iff, mem_kinds_ofList]
    exact List.mem_map_of_mem mem
  obtain ⟨m, found⟩ := Option.isSome_iff_exists.mp present
  rw [get?_ofList] at found
  have same := List.inj_on_of_nodup_map distinct (mem_of_lastOf found) mem rfl
  rw [found, (Prod.mk.inj same).2]

/-- The values are the fields of a value of some kinds, and no others. -/
structure AreFieldsOf (values : FieldValues) (v : Value) (kinds : List Kind) : Prop where
  distinct : values.kinds.Nodup
  mem_kinds : ∀ kind, kind ∈ values.kinds ↔ kind ∈ kinds
  given : ∀ kind n, values.get? kind = some n → v.field kind = .ok n

end FieldValues

/-! ## The kinds of a format -/

namespace Format

/-- The fields of a format are those among its tokens. -/
theorem mem_fields {f : Format} {g : Field} : g ∈ f.fields ↔ .field g ∈ f.tokens := by
  rw [fields, List.mem_filterMap]
  constructor
  · rintro ⟨t, mem, same⟩
    cases t with
    | literal text => cases same
    | field h =>
      cases same
      exact mem
  · intro mem
    exact ⟨_, mem, rfl⟩

/-- The kinds of a format are those of its fields. -/
theorem mem_kinds {f : Format} {kind : Kind} :
    kind ∈ f.kinds ↔ ∃ g, .field g ∈ f.tokens ∧ g.kind = kind := by
  have listed : kind ∈ Kind.all := by cases kind <;> decide
  rw [kinds, List.mem_filter, List.any_eq_true]
  constructor
  · rintro ⟨-, g, mem, same⟩
    exact ⟨g, mem_fields.mp mem, of_decide_eq_true same⟩
  · rintro ⟨g, mem, same⟩
    exact ⟨listed, g, mem_fields.mpr mem, decide_eq_true same⟩

/-- No kind of a format comes twice. -/
theorem nodup_kinds (f : Format) : f.kinds.Nodup := by
  have all : Kind.all.Nodup := by decide
  exact all.filter _

end Format

end PeriodText
