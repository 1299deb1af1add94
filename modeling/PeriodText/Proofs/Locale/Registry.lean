import PeriodText.Argument
import PeriodText.Proofs.Answer
import Mathlib.Data.List.Induction
import Mathlib.Data.List.Nodup
import Mathlib.Data.String.Basic

/-!
# What a registry keeps

Registering a locale changes what is found under its own name alone (`find?_put`), and no name is
lost by it. So the name to fall back on stays registered, and the default locale can always be had:
`exists_get_default`.

A registry into which locales were put one after another finds the last one of a name
(`find?_ofLocales`), and lists every name once, in order (`pairwise_names`, `mem_names`).
-/

set_option autoImplicit false

namespace PeriodText

namespace Registry

variable {r : Registry}

/-- The locale that is registered last under a name is found under it, and nothing changes for the
other names. -/
theorem find?_put (l : Locale) (r : Registry) (name : String) :
    (r.put l).find? name = if name = l.name then some l else r.find? name := by
  induction r with
  | nil =>
    rw [put, find?, find?, List.lookup_cons]
    by_cases same : name = l.name
    · rw [if_pos same, beq_iff_eq.mpr same]
    · rw [if_neg same, beq_eq_false_iff_ne.mpr same]
  | cons entry rest ih =>
    rw [find?] at ih ⊢
    by_cases here : entry.1 = l.name
    · rw [put, if_pos here, List.lookup_cons, find?, List.lookup_cons, here]
      by_cases same : name = l.name
      · rw [if_pos same, beq_iff_eq.mpr same]
      · rw [if_neg same, beq_eq_false_iff_ne.mpr same]
    · rw [put, if_neg here, List.lookup_cons, ih, find?, find?, List.lookup_cons]
      by_cases same : name = l.name
      · have other : (name == entry.1) = false :=
          beq_eq_false_iff_ne.mpr fun again => here (again.symm.trans same)
        simp only [other, if_pos same]
      · simp only [if_neg same]

/-- A registered name stays registered. -/
theorem has_put {name : String} (registered : r.has name = true) (l : Locale) :
    (r.put l).has name = true := by
  rw [has, find?_put]
  split
  · rfl
  · exact registered

/-- The default name is registered as long as the one to fall back on is. -/
theorem has_defaultName (rooted : r.has fallback = true) (environment : Option String) :
    r.has (r.defaultName environment) = true := by
  unfold defaultName
  split
  · next met => exact met
  · exact rooted

/-- **The default locale can be had** as long as there is one to fall back on. -/
theorem exists_get_default (rooted : r.has fallback = true) (environment : Option String) :
    ∃ l, r.get (r.defaultName environment) = .ok l := by
  obtain ⟨l, found⟩ := Option.isSome_iff_exists.mp (has_defaultName rooted environment)
  exact ⟨l, by rw [get, found]⟩

/-- The default name is the one that is asked for, if it is not empty and registered. -/
theorem defaultName_eq (r : Registry) (environment : Option String) :
    r.defaultName environment = match environment with
      | some asked => if asked ≠ "" ∧ r.has asked = true then asked else fallback
      | none => fallback := by
  cases environment with
  | none => exact ite_self _
  | some asked =>
    by_cases empty : asked = ""
    · simp [defaultName, wanted, empty]
    · simp [defaultName, wanted, empty]

/-! ## Registered names -/

/-- The names are those of the entries. -/
theorem mem_names {name : String} : name ∈ r.names ↔ r.has name = true := by
  rw [names, List.mem_mergeSort, has, find?, isSome_lookup_iff]

/-- Registering a locale adds its name, unless it was there. -/
theorem keys_put (l : Locale) (r : Registry) :
    (r.put l).map (·.1) =
      if l.name ∈ r.map (·.1) then r.map (·.1) else r.map (·.1) ++ [l.name] := by
  induction r with
  | nil => simp [put]
  | cons entry rest ih =>
    by_cases here : entry.1 = l.name
    · simp [put, here]
    · have other : l.name ∈ (entry :: rest).map (·.1) ↔ l.name ∈ rest.map (·.1) := by
        simp [Ne.symm here]
      rw [put, if_neg here, List.map_cons, ih]
      simp only [other]
      split
      · rfl
      · rfl

/-- Registering a locale gives no name a second entry. -/
theorem nodup_keys_put (distinct : (r.map (·.1)).Nodup) (l : Locale) :
    ((r.put l).map (·.1)).Nodup := by
  rw [keys_put]
  split
  · exact distinct
  · next fresh => exact distinct.append (List.nodup_singleton _) (List.disjoint_singleton.mpr fresh)

/-- **The names are listed in order, each once**, as long as no name has a second entry. -/
theorem pairwise_names (distinct : (r.map (·.1)).Nodup) : r.names.Pairwise (· < ·) := by
  have sorted : r.names.Pairwise fun a b => (!decide (b < a)) = true := by
    apply List.pairwise_mergeSort
    · intro a b c first second
      simp only [Bool.not_eq_true', decide_eq_false_iff_not, not_lt] at first second ⊢
      exact le_trans first second
    · intro a b
      simp only [Bool.or_eq_true, Bool.not_eq_true', decide_eq_false_iff_not, not_lt]
      exact le_total a b
  have once : r.names.Nodup := (List.mergeSort_perm _ _).nodup_iff.mpr distinct
  refine (sorted.and once).imp fun ⟨ordered, other⟩ => ?_
  simp only [Bool.not_eq_true', decide_eq_false_iff_not, not_lt] at ordered
  exact lt_of_le_of_ne ordered other

/-! ## Locales put one after another -/

/-- The registry of locales that are put one after another. -/
def ofLocales (locales : List Locale) : Registry := locales.foldl (fun r l => r.put l) []

/-- The last locale of a name. -/
def lastNamed (name : String) (locales : List Locale) : Option Locale :=
  locales.reverse.find? (·.name = name)

theorem ofLocales_snoc (locales : List Locale) (l : Locale) :
    ofLocales (locales ++ [l]) = (ofLocales locales).put l := List.foldl_append

/-- **A name stands for the last locale that was put under it.** -/
theorem find?_ofLocales (locales : List Locale) (name : String) :
    (ofLocales locales).find? name = lastNamed name locales := by
  induction locales using List.reverseRecOn with
  | nil => rfl
  | append_singleton locales l ih =>
    rw [ofLocales_snoc, find?_put, ih, lastNamed, lastNamed, List.reverse_append]
    by_cases same : name = l.name
    · simp [same]
    · have other : l.name ≠ name := Ne.symm same
      simp [same, other]

/-- No name has a second entry. -/
theorem nodup_keys_ofLocales (locales : List Locale) : ((ofLocales locales).map (·.1)).Nodup := by
  induction locales using List.reverseRecOn with
  | nil => exact List.nodup_nil
  | append_singleton locales l ih =>
    rw [ofLocales_snoc]
    exact nodup_keys_put ih l

/-- A name is registered exactly if a locale of it was put. -/
theorem has_ofLocales {locales : List Locale} {name : String} :
    (ofLocales locales).has name = true ↔ name ∈ locales.map (·.name) := by
  rw [has, find?_ofLocales, lastNamed, List.find?_isSome, List.mem_map]
  simp

end Registry

end PeriodText
