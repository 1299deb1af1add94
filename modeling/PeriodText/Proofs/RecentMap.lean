import PeriodText.Proofs.Answer
import PeriodText.RecentMap

/-!
# Look-ups that the map does not change

A map is faithful to the function that makes its values if every entry is what the function makes
of its key. The empty map is, and looking up a key keeps it so; and as long as it is so, a look-up
answers what the function makes, whether it is a hit or a miss.
-/

set_option autoImplicit false

namespace PeriodText

namespace RecentMap

variable {κ ν ε : Type} {make : κ → Except ε ν} {m : RecentMap κ ν} {key : κ} {value : ν}

/-- Every entry is what the function makes of its key. -/
def Faithful (make : κ → Except ε ν) (m : RecentMap κ ν) : Prop :=
  ∀ entry ∈ m.entries, make entry.1 = .ok entry.2

theorem faithful_empty (make : κ → Except ε ν) : Faithful make {} := by
  intro entry mem
  cases mem

/-- A miss adds what the function makes, and may drop an entry. -/
theorem Faithful.store (faithful : m.Faithful make) (made : make key = .ok value) (bound : Nat) :
    (m.store bound key value).Faithful make := by
  intro entry mem
  rcases List.mem_cons.mp (List.mem_of_mem_take mem) with rfl | old
  · exact made
  · exact faithful entry old

variable [DecidableEq κ]

/-- A value that is found is the value of an entry. -/
theorem mem_of_find? (found : m.find? key = some value) : (key, value) ∈ m.entries :=
  mem_of_lookup found

/-- A value that is found is the one that the function makes. -/
theorem Faithful.make_eq (faithful : m.Faithful make) (found : m.find? key = some value) :
    make key = .ok value :=
  faithful _ (mem_of_find? found)

/-- A hit only moves an entry. -/
theorem Faithful.touch (faithful : m.Faithful make) (found : m.find? key = some value) :
    (m.touch key value).Faithful make := by
  intro entry mem
  rcases List.mem_cons.mp mem with rfl | old
  · exact faithful.make_eq found
  · exact faithful entry ((List.mem_filter.mp old).1)

/-! ## Hits and misses -/

/-- A key that is found is a hit. -/
theorem fetch_of_some {bound : Nat} (found : m.find? key = some value) :
    m.fetch bound make key = (.ok value, m.touch key value) := by
  rw [fetch, found]

/-- A key that is not found is a miss, and its value is made. -/
theorem fetch_of_made {bound : Nat} (found : m.find? key = none) (made : make key = .ok value) :
    m.fetch bound make key = (.ok value, m.store bound key value) := by
  simp only [fetch, found, made]

/-- A key that is not found and whose value cannot be made is only counted. -/
theorem fetch_of_refused {bound : Nat} {e : ε} (found : m.find? key = none)
    (refused : make key = .error e) : m.fetch bound make key = (.error e, m.miss) := by
  simp only [fetch, found, refused]

/-- Every look-up is a hit or a miss. -/
theorem hits_add_misses_fetch (m : RecentMap κ ν) (bound : Nat) (make : κ → Except ε ν) (key : κ) :
    (m.fetch bound make key).2.hits + (m.fetch bound make key).2.misses =
      m.hits + m.misses + 1 := by
  unfold fetch
  split
  · exact Nat.add_right_comm m.hits 1 m.misses
  · split <;> rfl

/-- A look-up of a key whose value can be made gives a value. -/
theorem exists_fetch (m : RecentMap κ ν) (bound : Nat) (made : ∃ value, make key = .ok value) :
    ∃ value, (m.fetch bound make key).1 = .ok value := by
  obtain ⟨new, made⟩ := made
  cases found : m.find? key with
  | some old => exact ⟨old, congrArg Prod.fst (fetch_of_some found)⟩
  | none => exact ⟨new, congrArg Prod.fst (fetch_of_made found made)⟩

/-- **A look-up answers what the function makes**, and leaves the map faithful to it. -/
theorem Faithful.fetch (faithful : m.Faithful make) (bound : Nat) (key : κ) :
    (m.fetch bound make key).1 = make key ∧ (m.fetch bound make key).2.Faithful make := by
  cases found : m.find? key with
  | some value =>
    rw [fetch_of_some found]
    exact ⟨(faithful.make_eq found).symm, faithful.touch found⟩
  | none =>
    cases made : make key with
    | ok value =>
      rw [fetch_of_made found made]
      exact ⟨rfl, faithful.store made bound⟩
    | error e =>
      rw [fetch_of_refused found made]
      exact ⟨rfl, faithful⟩

end RecentMap

end PeriodText
