import PeriodText.Locale.Builtin
import PeriodText.Proofs.Answer

/-!
# Names of months

The twelve months have a name in each style, the one at their place in the list of the locale, and
no other number has one.
-/

set_option autoImplicit false

namespace PeriodText.Locale

/-- There is a name for every month. -/
theorem length_names (l : Locale) (style : NameStyle) : (l.names style).length = 12 := by
  cases style with
  | full => exact l.months_length
  | abbreviated => exact l.abbreviations_length

/-- The name of a month is the name at its place. -/
theorem monthName_eq_ok {l : Locale} {style : NameStyle} {n : Int} {name : String} :
    l.monthName style n = .ok name ↔
      ∃ i : Nat, n = ((i + 1 : Nat) : Int) ∧ (l.names style)[i]? = some name := by
  have length := l.length_names style
  unfold monthName
  constructor
  · intro named
    split at named
    · next range =>
      obtain ⟨least, most⟩ : 1 ≤ n ∧ n ≤ 12 := by simpa using range
      have inside : n.toNat - 1 < (l.names style).length := by omega
      refine ⟨n.toNat - 1, by omega, ?_⟩
      rw [List.getD_eq_getElem?_getD, List.getElem?_eq_getElem inside] at named
      rw [List.getElem?_eq_getElem inside, ← Except.ok.inj named]
      rfl
    · cases named
  · rintro ⟨i, rfl, listed⟩
    obtain ⟨inside, -⟩ := List.getElem?_eq_some_iff.mp listed
    have range : ((1 : Int) ≤ ((i + 1 : Nat) : Int) && ((i + 1 : Nat) : Int) ≤ 12) = true := by
      rw [Bool.and_eq_true, decide_eq_true_eq, decide_eq_true_eq]
      omega
    rw [if_pos range, Int.toNat_natCast, Nat.add_sub_cancel, List.getD_eq_getElem?_getD, listed]
    rfl

/-- A month has a name exactly if it is one of the twelve. -/
theorem exists_monthName {l : Locale} {style : NameStyle} {n : Int} :
    (∃ name, l.monthName style n = .ok name) ↔ 1 ≤ n ∧ n ≤ 12 := by
  rw [← decide_eq_true_iff (p := 1 ≤ n ∧ n ≤ 12), Bool.decide_and, monthName]
  split
  · next range => exact iff_of_true ⟨_, rfl⟩ range
  · next range => exact iff_of_false nofun range

/-- A number that can be shown has no name only if it is none of the twelve. -/
theorem monthName_eq_error {l : Locale} {style : NameStyle} {n : Int} {e : Error}
    (short : Numeral.isWritable n = true) (refused : l.monthName style n = .error e) :
    ¬(1 ≤ n ∧ n ≤ 12) ∧ e = .read (.monthOutOfRange style n l.name) := by
  constructor
  · intro range
    obtain ⟨name, known⟩ := exists_monthName.mpr range
    cases known.symm.trans refused
  · unfold monthName at refused
    split at refused
    · cases refused
    · rw [Error.showing, if_pos short] at refused
      exact (Except.error.inj refused).symm

/-- The name of a month is one of the names of its style. -/
theorem mem_names_of_monthName {l : Locale} {style : NameStyle} {n : Int} {name : String}
    (named : l.monthName style n = .ok name) : name ∈ l.names style := by
  obtain ⟨i, -, listed⟩ := monthName_eq_ok.mp named
  exact List.mem_of_getElem? listed

end PeriodText.Locale
