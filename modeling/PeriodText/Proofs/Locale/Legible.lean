import PeriodText.Proofs.Locale.Lookup
import PeriodText.Text.Letter
import Mathlib.Data.List.Nodup

/-!
# Month names that read back

A locale may name two months alike, or a month by a text that is no word. One whose names are words
and are told apart by their folded forms is legible: each of its names stands for the month that it
names, `Legible.month?_of_monthName`.
-/

set_option autoImplicit false

namespace PeriodText.Locale

open Text (isLetter)

/-- The names of a locale are words, and no two of a style have the same folded form. -/
structure Legible (l : Locale) : Prop where
  present : ∀ style, ∀ name ∈ l.names style, name ≠ ""
  alphabetic : ∀ style, ∀ name ∈ l.names style, ∀ c ∈ name.toList, isLetter c = true
  distinct : ∀ style, ((l.names style).map fun name => Text.fold name.toList).Nodup

/-- **A name of a legible locale stands for the month that it names.** -/
theorem Legible.month?_of_monthName {l : Locale} (legible : l.Legible) {style : NameStyle}
    {n : Int} {name : String} (named : l.monthName style n = .ok name) :
    l.month? style name.toList = some n.toNat := by
  obtain ⟨i, rfl, listed⟩ := monthName_eq_ok.mp named
  rw [Int.toNat_natCast]
  refine month?_eq_some.mpr ⟨⟨name, named, rfl⟩, ?_⟩
  rintro m ⟨other, also, same⟩
  obtain ⟨j, place, listedToo⟩ := monthName_eq_ok.mp also
  have folded (k : Nat) : ((l.names style).map fun name => Text.fold name.toList)[k]? =
      (l.names style)[k]?.map fun name => Text.fold name.toList := List.getElem?_map
  have inside : i < ((l.names style).map fun name => Text.fold name.toList).length := by
    rw [List.length_map]
    exact (List.getElem?_eq_some_iff.mp listed).1
  have equal : i = j := by
    refine (List.getElem?_inj inside (legible.distinct style)).mp ?_
    rw [folded, folded, listed, listedToo, Option.map_some, Option.map_some, same]
  omega

/-- The name of a month is a word. -/
theorem Legible.word_of_monthName {l : Locale} (legible : l.Legible) {style : NameStyle}
    {n : Int} {name : String} (known : l.monthName style n = .ok name) :
    name.toList ≠ [] ∧ ∀ c ∈ name.toList, isLetter c = true := by
  have listed := mem_names_of_monthName known
  refine ⟨?_, legible.alphabetic style name listed⟩
  intro empty
  exact legible.present style name listed (by simpa using empty)

/-- The English names are legible. -/
theorem legible_english : english.Legible where
  present := by
    intro style
    cases style <;> decide
  alphabetic := by
    intro style name listed c mem
    have letters : ((english.names style).all fun name => name.toList.all isLetter) = true := by
      cases style <;> decide +kernel
    exact List.all_eq_true.mp (List.all_eq_true.mp letters name listed) c mem
  distinct := by
    intro style
    cases style <;> decide +kernel

end PeriodText.Locale
