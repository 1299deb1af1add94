import PeriodText.Error.Family
import PeriodText.Proofs.Locale.Names
import Mathlib.Data.List.Nodup
import Mathlib.Order.Bounds.Basic

/-!
# Which month a word names

Of months with the same folded name only the last one is looked up. So a word names the last month
that it spells, whatever the names of a locale are, and none if it spells none:
`Locale.month?_eq_some`, `Locale.month?_eq_none`.
-/

set_option autoImplicit false

namespace PeriodText

namespace Locale

variable {l : Locale} {style : NameStyle} {word : List Char} {month : Nat}

/-! ## The last entry of a name -/

/-- The folded names of a style, each under its month. -/
def numbered (l : Locale) (style : NameStyle) : List (Nat × List Char) :=
  ((l.names style).zipIdx 1).map fun (name, month) => (month, Text.fold name.toList)

/-- A word is looked up among those that no later one replaces. -/
theorem folded_eq (l : Locale) (style : NameStyle) : l.folded style = latest (l.numbered style) :=
  rfl

/-- What is found among the entries that no later one replaces is the last entry of the name. -/
theorem find?_latest (entries : List (Nat × List Char)) (key : List Char) :
    (latest entries).find? (·.2 = key) = entries.reverse.find? (·.2 = key) := by
  induction entries with
  | nil => rfl
  | cons entry rest ih =>
    rw [List.reverse_cons, List.find?_append, ← ih, latest]
    by_cases own : entry.2 = key
    · subst own
      split
      · next again =>
        obtain ⟨later, mem, same⟩ := List.any_eq_true.mp again
        have found : ((latest rest).find? (·.2 = entry.2)).isSome = true := by
          rw [ih, List.find?_isSome]
          exact ⟨later, List.mem_reverse.mpr mem, same⟩
        obtain ⟨last, found⟩ := Option.isSome_iff_exists.mp found
        rw [found, Option.some_or]
      · next alone =>
        have none : (latest rest).find? (·.2 = entry.2) = none := by
          rw [ih, List.find?_eq_none]
          intro later mem same
          exact alone (List.any_eq_true.mpr ⟨later, List.mem_reverse.mp mem, same⟩)
        rw [none, Option.none_or, List.find?_cons_of_pos (by simp),
          List.find?_cons_of_pos (by simp)]
    · have none : [entry].find? (·.2 = key) = none := by simp [own]
      rw [none, Option.or_none]
      split
      · rfl
      · rw [List.find?_cons_of_neg (by simpa using own)]

/-- In ascending order, the entry that is found is the greatest of its name. -/
theorem isGreatest_of_find?_latest {entries : List (Nat × List Char)}
    (ascending : entries.Pairwise (·.1 < ·.1)) {key : List Char} {entry : Nat × List Char}
    (found : (latest entries).find? (·.2 = key) = some entry) :
    IsGreatest {m | (m, key) ∈ entries} entry.1 := by
  rw [find?_latest] at found
  obtain ⟨own, later, earlier, split, others⟩ := List.find?_eq_some_iff_append.mp found
  obtain rfl : entry.2 = key := of_decide_eq_true own
  constructor
  · exact List.mem_reverse.mp (List.mem_of_find?_eq_some found)
  · rintro m (mem : (m, entry.2) ∈ entries)
    rw [← List.mem_reverse, split] at mem
    rcases List.mem_append.mp mem with after | mem
    · exact absurd (others _ after) (by simp)
    · rcases List.mem_cons.mp mem with here | before
      · exact Nat.le_of_eq (congrArg Prod.fst here)
      · rw [← List.pairwise_reverse, split] at ascending
        have below := (List.pairwise_append.mp ascending).2.1
        exact Nat.le_of_lt ((List.pairwise_cons.mp below).1 _ before)

/-- The months of the names of a style, under their folded names. -/
theorem mem_numbered {key : List Char} :
    (month, key) ∈ l.numbered style ↔
      ∃ name, l.monthName style month = .ok name ∧ Text.fold name.toList = key := by
  simp only [numbered, List.mem_map, Prod.exists, Prod.mk.injEq, monthName_eq_ok]
  constructor
  · rintro ⟨name, m, mem, rfl, rfl⟩
    obtain ⟨first, listed⟩ := List.mk_mem_zipIdx_iff_le_and_getElem?_sub.mp mem
    exact ⟨name, ⟨m - 1, by omega, listed⟩, rfl⟩
  · rintro ⟨name, ⟨i, same, listed⟩, rfl⟩
    obtain rfl : month = i + 1 := by exact_mod_cast same
    refine ⟨name, i + 1, ?_, rfl, rfl⟩
    exact List.mk_mem_zipIdx_iff_le_and_getElem?_sub.mpr ⟨Nat.le_add_left 1 i, listed⟩

/-- They are in ascending order. -/
theorem ascending_numbered (l : Locale) (style : NameStyle) :
    (l.numbered style).Pairwise (·.1 < ·.1) := by
  have months := List.pairwise_lt_range' (s := 1) (n := (l.names style).length)
  rw [← List.zipIdx_map_snd 1 (l.names style), List.pairwise_map] at months
  exact List.pairwise_map.mpr months

/-! ## The entries that are kept -/

/-- No later entry replaces what is kept. -/
theorem latest_sublist (entries : List (Nat × List Char)) : (latest entries).Sublist entries := by
  induction entries with
  | nil => exact .slnil
  | cons entry rest ih =>
    rw [latest]
    split
    · exact ih.cons entry
    · exact ih.cons_cons entry

/-- No two entries that are kept have the same name. -/
theorem nodup_latest (entries : List (Nat × List Char)) :
    ((latest entries).map (·.2)).Nodup := by
  induction entries with
  | nil => exact .nil
  | cons entry rest ih =>
    rw [latest]
    split
    · exact ih
    · next alone =>
      refine List.nodup_cons.mpr ⟨fun mem => ?_, ih⟩
      obtain ⟨later, kept, same⟩ := List.mem_map.mp mem
      have listed := (latest_sublist rest).subset kept
      exact alone (List.any_eq_true.mpr ⟨later, listed, decide_eq_true same⟩)

/-- A month is kept once. -/
theorem folded_unique {key other : List Char} (mem : (month, key) ∈ l.folded style)
    (memToo : (month, other) ∈ l.folded style) : key = other := by
  have months : ((l.folded style).map (·.1)).Nodup := by
    have ascending := (l.ascending_numbered style).sublist (latest_sublist _)
    exact List.pairwise_map.mpr (ascending.imp Nat.ne_of_lt)
  exact congrArg Prod.snd (List.inj_on_of_nodup_map months mem memToo rfl)

/-- **A word names the month that its folded form is kept for.** -/
theorem month?_eq_some_iff_mem :
    l.month? style word = some month ↔ (month, Text.fold word) ∈ l.folded style := by
  rw [month?, Option.map_eq_some_iff]
  constructor
  · rintro ⟨⟨m, key⟩, found, rfl⟩
    have own := List.find?_some found
    rw [← of_decide_eq_true own]
    exact List.mem_of_find?_eq_some found
  · intro mem
    cases found : (l.folded style).find? (·.2 = Text.fold word) with
    | none => exact absurd (decide_eq_true rfl) (List.find?_eq_none.mp found _ mem)
    | some entry =>
      have own := List.find?_some found
      have same := List.inj_on_of_nodup_map (nodup_latest _) (List.mem_of_find?_eq_some found) mem
        (of_decide_eq_true own)
      exact ⟨entry, rfl, congrArg Prod.fst same⟩

/-! ## Words -/

/-- The word has the folded form of the name of the month. -/
def Spells (l : Locale) (style : NameStyle) (word : List Char) (month : Nat) : Prop :=
  ∃ name, l.monthName style month = .ok name ∧ Text.fold name.toList = Text.fold word

/-- **A word names the last month that it spells.** -/
theorem isGreatest_of_month? (known : l.month? style word = some month) :
    IsGreatest {m | l.Spells style word m} month := by
  obtain ⟨entry, found, rfl⟩ := Option.map_eq_some_iff.mp known
  have greatest := isGreatest_of_find?_latest (l.ascending_numbered style) found
  simpa only [mem_numbered, Spells] using greatest

/-- A word that spells no month names none. -/
theorem month?_eq_none : l.month? style word = none ↔ ∀ m, ¬l.Spells style word m := by
  rw [month?, Option.map_eq_none_iff, folded_eq, find?_latest, List.find?_eq_none]
  constructor
  · intro unknown m spells
    have mem := List.mem_reverse.mpr (mem_numbered.mpr spells)
    exact unknown _ mem (by simp)
  · rintro unknown ⟨m, key⟩ mem same
    obtain rfl : key = Text.fold word := of_decide_eq_true same
    exact unknown m (mem_numbered.mp (List.mem_reverse.mp mem))

/-- The month that a word names is the greatest that it spells. -/
theorem month?_eq_some :
    l.month? style word = some month ↔ IsGreatest {m | l.Spells style word m} month := by
  constructor
  · exact isGreatest_of_month?
  · intro greatest
    cases known : l.month? style word with
    | none => exact absurd greatest.1 (month?_eq_none.mp known month)
    | some other => rw [(isGreatest_of_month? known).unique greatest]

/-- A word that names a month names one of twelve. -/
theorem month?_bounds (known : l.month? style word = some month) : 1 ≤ month ∧ month ≤ 12 := by
  obtain ⟨name, named, -⟩ := (month?_eq_some.mp known).1
  exact_mod_cast exists_monthName.mp ⟨name, named⟩

/-- Of two locales with the same names in a style, a word names the same month. -/
theorem month?_congr {l' : Locale} (same : l'.names style = l.names style) (word : List Char) :
    l'.month? style word = l.month? style word := by
  rw [month?, month?, folded, folded, same]

/-- A word is read as the month that it names. -/
theorem readMonth_eq_ok {site : Option Site} :
    l.readMonth style word site = .ok month ↔ l.month? style word = some month := by
  unfold readMonth
  cases l.month? style word with
  | none => exact iff_of_false nofun nofun
  | some other => simp

/-- A word is refused exactly if it names no month, and is told to be unknown. -/
theorem readMonth_refused {site : Option Site} :
    (∃ e, l.readMonth style word site = .error e ∧ e.family = .unknownMonth) ↔
      l.month? style word = none := by
  unfold readMonth
  cases l.month? style word with
  | none => exact iff_of_true ⟨_, rfl, rfl⟩ rfl
  | some other => exact iff_of_false nofun nofun

end Locale

end PeriodText
