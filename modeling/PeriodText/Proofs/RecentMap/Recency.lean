import PeriodText.Proofs.RecentMap
import Mathlib.Data.Finset.Card
import Mathlib.Data.List.Nodup

/-!
# What a bounded map still has

Take the log of a map, the look-ups that gave a value, each with what it gave, the latest first. As
long as the map was empty when the log begins, its entries are the latest one of each key, in that
order, cut off at the bound: `Recalls`. A look-up that gives a value keeps it so, whether the value
is found or made (`Recalls.fetch`), and one that gives none leaves the entries as they are.

So the map has a key exactly if fewer other keys than the bound were looked up after it, and what it
has is what the last look-up of the key gave: `Recalls.find?_eq_some`. How values are made does not
matter, and may change from one look-up to the next. Nor does it matter what the values are: a map
of other values takes the same steps (`fetch_map`).
-/

set_option autoImplicit false

namespace PeriodText

namespace RecentMap

variable {κ ν ε : Type} [DecidableEq κ]

/-- The latest entry of each key in a log. -/
def latest : List (κ × ν) → List (κ × ν)
  | [] => []
  | entry :: log => entry :: (latest log).filter (·.1 ≠ entry.1)

/-- The entries are the latest of each key, cut off at the bound. -/
def Recalls (bound : Nat) (log : List (κ × ν)) (m : RecentMap κ ν) : Prop :=
  m.entries = (latest log).take bound

/-- The key was looked up, and fewer other keys than the bound were looked up after it. -/
def IsRecent (bound : Nat) (key : κ) (keys : List κ) : Prop :=
  ∃ later earlier, keys = later ++ key :: earlier ∧ key ∉ later ∧ later.toFinset.card < bound

/-- The keys, each once. -/
def distinctKeys (log : List (κ × ν)) : Finset κ := (log.map (·.1)).toFinset

/-! ## The latest entries -/

/-- A key has a latest entry if it has one. -/
theorem mem_keys_latest {key : κ} {log : List (κ × ν)} :
    key ∈ (latest log).map (·.1) ↔ key ∈ log.map (·.1) := by
  induction log with
  | nil => rfl
  | cons entry log ih =>
    simp only [List.mem_map] at ih
    by_cases here : key = entry.1
    · simp [latest, here]
    · simp only [latest, List.map_cons, List.mem_cons, here, false_or, List.mem_map, List.mem_filter,
        decide_eq_true_eq, ← ih]
      constructor
      · rintro ⟨other, ⟨mem, -⟩, same⟩
        exact ⟨other, mem, same⟩
      · rintro ⟨other, mem, rfl⟩
        exact ⟨other, ⟨mem, here⟩, rfl⟩

/-- No key has two latest entries. -/
theorem nodup_keys_latest (log : List (κ × ν)) : ((latest log).map (·.1)).Nodup := by
  induction log with
  | nil => exact List.nodup_nil
  | cons entry log ih =>
    refine List.nodup_cons.mpr ⟨?_, ih.sublist (List.filter_sublist.map _)⟩
    simp

/-- There are as many latest entries as keys. -/
theorem length_latest (log : List (κ × ν)) : (latest log).length = (distinctKeys log).card := by
  have same : distinctKeys log = ((latest log).map (·.1)).toFinset := by
    ext key
    simp only [distinctKeys, List.mem_toFinset, mem_keys_latest]
  rw [same, List.toFinset_card_of_nodup (nodup_keys_latest log), List.length_map]

/-- The latest entries of a log are those of its later part, and then those of the earlier part whose
keys do not come again. -/
theorem latest_append (later earlier : List (κ × ν)) :
    latest (later ++ earlier) =
      latest later ++ (latest earlier).filter fun entry => entry.1 ∉ later.map (·.1) := by
  induction later with
  | nil => simp [latest]
  | cons entry later ih =>
    simp only [List.cons_append, latest, ih, List.filter_append, List.filter_filter]
    congr 2
    apply List.filter_congr
    intro other _
    by_cases again : other.1 = entry.1 <;> simp [again]

/-- A key that was looked up has its latest entry after those of the keys looked up later. -/
theorem latest_split {later : List (κ × ν)} {key : κ} (fresh : key ∉ later.map (·.1)) (value : ν)
    (earlier : List (κ × ν)) :
    ∃ rest, latest (later ++ (key, value) :: earlier) = latest later ++ (key, value) :: rest := by
  rw [latest_append, latest, List.filter_cons_of_pos (by simpa using fresh)]
  exact ⟨_, rfl⟩

/-! ## Looking up -/

/-- The first entries of a list without a key. If the key was among the first and one more, that one
makes up for it; otherwise they are as they were. -/
theorem take_filter {entries : List (κ × ν)} (distinct : (entries.map (·.1)).Nodup) (key : κ)
    (bound : Nat) :
    (entries.filter (·.1 ≠ key)).take bound =
      if key ∈ (entries.take (bound + 1)).map (·.1) then
        (entries.take (bound + 1)).filter (·.1 ≠ key)
      else entries.take bound := by
  induction entries generalizing bound with
  | nil => simp
  | cons entry rest ih =>
    obtain ⟨fresh, others⟩ := List.nodup_cons.mp distinct
    by_cases here : entry.1 = key
    · -- The entry is the only one of its key, so nothing else goes with it.
      subst here
      have kept (some : List (κ × ν)) (inside : some ⊆ rest) :
          some.filter (·.1 ≠ entry.1) = some := by
        apply List.filter_eq_self.mpr
        intro other mem
        exact decide_eq_true fun same => fresh (List.mem_map.mpr ⟨other, inside mem, same⟩)
      have gone (some : List (κ × ν)) (inside : some ⊆ rest) :
          (entry :: some).filter (·.1 ≠ entry.1) = some := by
        simpa using kept some inside
      rw [List.take_succ_cons, gone rest (List.Subset.refl _), gone _ (List.take_subset bound rest),
        if_pos (by simp)]
    · have stays (some : List (κ × ν)) :
          (entry :: some).filter (·.1 ≠ key) = entry :: some.filter (·.1 ≠ key) := by
        simp [here]
      cases bound with
      | zero => simp [Ne.symm here]
      | succ bound =>
        have same : key ∈ ((entry :: rest).take (bound + 1 + 1)).map (·.1) ↔
            key ∈ (rest.take (bound + 1)).map (·.1) := by
          simp [Ne.symm here]
        rw [stays, List.take_succ_cons, ih others]
        by_cases found : key ∈ (rest.take (bound + 1)).map (·.1)
        · rw [if_pos found, if_pos (same.mpr found), List.take_succ_cons, stays]
        · rw [if_neg found, if_neg (mt same.mp found), List.take_succ_cons]

variable {bound : Nat} {log : List (κ × ν)} {m : RecentMap κ ν} {key : κ} {value : ν}

/-- A map that is empty recalls nothing. -/
theorem recalls_empty (bound : Nat) : ({} : RecentMap κ ν).Recalls bound [] :=
  List.take_nil.symm

/-- What the map has for a key that was looked up. -/
theorem Recalls.find?_split {later earlier : List (κ × ν)}
    (recalls : m.Recalls bound (later ++ (key, value) :: earlier))
    (fresh : key ∉ later.map (·.1)) :
    m.find? key = if (distinctKeys later).card < bound then some value else none := by
  obtain ⟨rest, split⟩ := latest_split fresh value earlier
  have absent : key ∉ (latest later).map (·.1) := mt mem_keys_latest.mp fresh
  rw [find?, recalls, split, List.take_append, List.lookup_append, ← length_latest]
  split
  · next inside =>
    obtain ⟨n, more⟩ : ∃ n, bound - (latest later).length = n + 1 :=
      Nat.exists_eq_succ_of_ne_zero (by omega)
    rw [List.take_of_length_le (Nat.le_of_lt inside), lookup_eq_none_iff.mpr absent, more,
      List.take_succ_cons, List.lookup_cons_self]
    rfl
  · next outside =>
    rw [Nat.sub_eq_zero_of_le (Nat.not_lt.mp outside), List.take_zero, List.lookup_nil,
      Option.or_none]
    apply lookup_eq_none_iff.mpr
    exact fun mem => absent (((List.take_sublist _ _).map _).subset mem)

/-- **What the map has** is the value that the last look-up of the key gave, if fewer other keys than
the bound were looked up since. -/
theorem Recalls.find?_eq_some (recalls : m.Recalls bound log) :
    m.find? key = some value ↔ ∃ later earlier, log = later ++ (key, value) :: earlier ∧
      key ∉ later.map (·.1) ∧ (distinctKeys later).card < bound := by
  constructor
  · intro found
    have listed : key ∈ log.map (·.1) := by
      have mem := mem_of_find? found
      rw [recalls] at mem
      exact mem_keys_latest.mp (List.mem_map_of_mem (List.mem_of_mem_take mem))
    obtain ⟨last, given⟩ := Option.isSome_iff_exists.mp (isSome_lookup_iff.mpr listed)
    obtain ⟨later, earlier, rfl, fresh⟩ := exists_split_of_lookup given
    rw [recalls.find?_split fresh] at found
    split at found
    · next few =>
      cases found
      exact ⟨later, earlier, rfl, fresh, few⟩
    · cases found
  · rintro ⟨later, earlier, rfl, fresh, few⟩
    rw [recalls.find?_split fresh, if_pos few]

/-- **The map has a key** if it is recent. -/
theorem Recalls.isSome_find? (recalls : m.Recalls bound log) :
    (m.find? key).isSome ↔ IsRecent bound key (log.map (·.1)) := by
  rw [Option.isSome_iff_exists]
  constructor
  · rintro ⟨value, found⟩
    obtain ⟨later, earlier, rfl, fresh, few⟩ := recalls.find?_eq_some.mp found
    refine ⟨later.map (·.1), earlier.map (·.1), ?_, fresh, ?_⟩
    · rw [List.map_append, List.map_cons]
    · exact few
  · rintro ⟨laterKeys, earlierKeys, split, fresh, few⟩
    obtain ⟨later, rest, rfl, rfl, others⟩ := List.map_eq_append_iff.mp split
    obtain ⟨⟨key, value⟩, earlier, rfl, rfl, rfl⟩ := List.map_eq_cons_iff.mp others
    exact ⟨value, recalls.find?_eq_some.mpr ⟨later, earlier, rfl, fresh, few⟩⟩

/-- The map has as many entries as there are keys, up to the bound. -/
theorem Recalls.size_eq (recalls : m.Recalls bound log) :
    m.size = min bound (distinctKeys log).card := by
  rw [size, recalls, List.length_take, length_latest]

/-- A value that is found is recalled as the latest one. -/
theorem Recalls.touch (recalls : m.Recalls bound log) (found : m.find? key = some value) :
    (m.touch key value).Recalls bound ((key, value) :: log) := by
  have listed : key ∈ m.entries.map (·.1) := List.mem_map_of_mem (mem_of_find? found)
  rw [recalls] at listed
  cases bound with
  | zero => simp at listed
  | succ bound =>
    -- The entry comes to the front from among the others, so the same entries are cut off.
    show (key, value) :: m.entries.filter (·.1 ≠ key) = _
    rw [latest, List.take_succ_cons, take_filter (nodup_keys_latest log), if_pos listed, recalls]

/-- A value that is stored is recalled as the latest one. -/
theorem Recalls.store (recalls : m.Recalls bound log) (found : m.find? key = none) (value : ν) :
    (m.store bound key value).Recalls bound ((key, value) :: log) := by
  have absent : key ∉ m.entries.map (·.1) := lookup_eq_none_iff.mp found
  show ((key, value) :: m.entries).take bound = _
  cases bound with
  | zero => rfl
  | succ bound =>
    -- There is one entry more in front, so one more is cut off.
    rw [recalls] at absent
    rw [latest, List.take_succ_cons, List.take_succ_cons, take_filter (nodup_keys_latest log),
      if_neg absent, recalls, List.take_take, Nat.min_eq_left (Nat.le_succ bound)]

/-- **A look-up that gives a value** is recalled from then on. -/
theorem Recalls.fetch (recalls : m.Recalls bound log) {make : κ → Except ε ν}
    (given : (m.fetch bound make key).1 = .ok value) :
    (m.fetch bound make key).2.Recalls bound ((key, value) :: log) := by
  cases found : m.find? key with
  | some old =>
    rw [fetch_of_some found] at given ⊢
    cases given
    exact recalls.touch found
  | none =>
    cases made : make key with
    | ok new =>
      rw [fetch_of_made found made] at given ⊢
      cases given
      exact recalls.store found value
    | error e =>
      rw [fetch_of_refused found made] at given
      cases given

/-! ## Other values -/

/-- The map with a function of each value in its place. -/
def map {μ : Type} (f : ν → μ) (m : RecentMap κ ν) : RecentMap κ μ :=
  { entries := m.entries.map fun entry => (entry.1, f entry.2), hits := m.hits, misses := m.misses }

/-- A map finds what a function makes of the values of the other. -/
theorem find?_map {μ : Type} (f : ν → μ) (m : RecentMap κ ν) (key : κ) :
    (m.map f).find? key = (m.find? key).map f := by
  unfold find?
  dsimp only [map]
  induction m.entries with
  | nil => rfl
  | cons entry entries ih =>
    rw [List.map_cons, List.lookup_cons, List.lookup_cons, ih]
    split <;> rfl

/-- **A look-up does the same** whatever the values are, as long as they are made alike. -/
theorem fetch_map {μ : Type} {f : ν → μ} {make : κ → Except ε ν} {make' : κ → Except ε μ}
    (alike : ∀ key, make' key = (make key).map f) (m : RecentMap κ ν) (bound : Nat) (key : κ) :
    (m.map f).fetch bound make' key =
      ((m.fetch bound make key).1.map f, (m.fetch bound make key).2.map f) := by
  have found := find?_map f m key
  have made := alike key
  cases old : m.find? key with
  | some value =>
    rw [old] at found
    rw [fetch_of_some old, fetch_of_some found]
    refine Prod.ext rfl ?_
    simp only [touch, map, List.map_cons, List.filter_map, Function.comp_def]
  | none =>
    rw [old] at found
    cases new : make key with
    | error e =>
      rw [new] at made
      rw [fetch_of_refused old new, fetch_of_refused found made]
      rfl
    | ok value =>
      rw [new] at made
      rw [fetch_of_made old new, fetch_of_made found made]
      refine Prod.ext rfl ?_
      simp only [store, map, List.map_take, List.map_cons]

end RecentMap

end PeriodText
