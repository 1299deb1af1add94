import Mathlib.Data.List.Forall2

/-!
# Answers in sequence and by key

An answer made of two in sequence is one exactly if both are, and its error is the first that comes.
So it is with the answers for the items of a list. A list of entries answers by key: it has an answer
exactly for the keys of its entries, the one of the first entry.
-/

set_option autoImplicit false

namespace PeriodText

variable {ε α β : Type}

/-- Two answers in sequence are an answer exactly if the first is one, and then the second. -/
theorem bind_eq_ok {x : Except ε α} {f : α → Except ε β} {b : β} :
    x >>= f = .ok b ↔ ∃ a, x = .ok a ∧ f a = .ok b := by
  cases x with
  | error e =>
    constructor
    · rintro ⟨⟩
    · rintro ⟨_, ⟨⟩, _⟩
  | ok a =>
    constructor
    · intro second
      exact ⟨a, rfl, second⟩
    · rintro ⟨_, ⟨⟩, second⟩
      exact second

/-- A function of an answer is an answer exactly if it is that of one. -/
theorem map_eq_ok {x : Except ε α} {f : α → β} {b : β} :
    x.map f = .ok b ↔ ∃ a, x = .ok a ∧ f a = b := by
  cases x with
  | error e =>
    constructor
    · rintro ⟨⟩
    · rintro ⟨_, ⟨⟩, _⟩
  | ok a =>
    constructor
    · rintro ⟨⟩
      exact ⟨a, rfl, rfl⟩
    · rintro ⟨_, ⟨⟩, rfl⟩
      rfl

/-- A function of an answer is the second of two in sequence. -/
theorem bind_ok_eq_map (x : Except ε α) (f : α → β) : (x >>= fun a => .ok (f a)) = x.map f := by
  cases x <;> rfl

/-- Two answers in sequence are an error exactly if the first is it, or else the second. -/
theorem bind_eq_error {x : Except ε α} {f : α → Except ε β} {e : ε} :
    x >>= f = .error e ↔ x = .error e ∨ ∃ a, x = .ok a ∧ f a = .error e := by
  cases x with
  | error other =>
    constructor
    · rintro ⟨⟩
      exact .inl rfl
    · rintro (⟨⟨⟩⟩ | ⟨_, ⟨⟩, _⟩)
      rfl
  | ok a =>
    constructor
    · intro second
      exact .inr ⟨a, rfl, second⟩
    · rintro (⟨⟨⟩⟩ | ⟨_, ⟨⟩, second⟩)
      exact second

/-- A function of an answer has the errors of the answer. -/
theorem map_eq_error {x : Except ε α} {f : α → β} {e : ε} :
    x.map f = .error e ↔ x = .error e := by
  cases x with
  | error other => exact ⟨fun | rfl => rfl, fun | rfl => rfl⟩
  | ok a =>
    constructor
    · rintro ⟨⟩
    · rintro ⟨⟩

/-! ## Items of a list -/

/-- A function of the answer for each item is that function of the answers for all. -/
theorem mapM_map {answer : α → Except ε β} {γ : Type} (f : β → γ) (items : List α) :
    items.mapM (fun a => (answer a).map f) = (items.mapM answer).map (List.map f) := by
  induction items with
  | nil => rfl
  | cons a items ih =>
    rw [List.mapM_cons, List.mapM_cons, ih]
    cases answer a with
    | error e => rfl
    | ok b => cases items.mapM answer <;> rfl

/-- Where every item is answered, so is the list. -/
theorem mapM_eq_ok_map {answer : α → Except ε β} {f : α → β} {items : List α}
    (each : ∀ a ∈ items, answer a = .ok (f a)) : items.mapM answer = .ok (items.map f) := by
  induction items with
  | nil => rfl
  | cons a items ih =>
    obtain ⟨first, others⟩ := List.forall_mem_cons.mp each
    rw [List.mapM_cons, first, ih others]
    rfl

/-- Where a list is answered, so is every item. -/
theorem forall_of_mapM_eq_ok {answer : α → Except ε β} {items : List α} {bs : List β}
    (done : items.mapM answer = .ok bs) : ∀ a ∈ items, ∃ b, answer a = .ok b := by
  induction items generalizing bs with
  | nil => exact fun a mem => absurd mem List.not_mem_nil
  | cons a items ih =>
    rw [List.mapM_cons] at done
    obtain ⟨b, first, others⟩ := bind_eq_ok.mp done
    obtain ⟨rest, later, -⟩ := bind_eq_ok.mp others
    exact List.forall_mem_cons.mpr ⟨⟨b, first⟩, ih later⟩

/-- The error for a list is that of an item. -/
theorem exists_of_mapM_eq_error {answer : α → Except ε β} {items : List α} {e : ε}
    (refused : items.mapM answer = .error e) : ∃ a ∈ items, answer a = .error e := by
  induction items with
  | nil => cases refused
  | cons a items ih =>
    rw [List.mapM_cons] at refused
    rcases bind_eq_error.mp refused with first | ⟨b, -, others⟩
    · exact ⟨a, List.mem_cons_self, first⟩
    · rcases bind_eq_error.mp others with later | ⟨bs, -, impossible⟩
      · obtain ⟨other, mem, again⟩ := ih later
        exact ⟨other, .tail _ mem, again⟩
      · cases impossible

/-- A list is answered by the answers of its items, in their order. -/
theorem mapM_eq_ok_iff {answer : α → Except ε β} {items : List α} {bs : List β} :
    items.mapM answer = .ok bs ↔ List.Forall₂ (fun a b => answer a = .ok b) items bs := by
  induction items generalizing bs with
  | nil =>
    rw [List.forall₂_nil_left_iff]
    exact ⟨fun done => (Except.ok.inj done).symm, fun none => none ▸ rfl⟩
  | cons a items ih =>
    rw [List.mapM_cons, bind_eq_ok, List.forall₂_cons_left_iff]
    refine exists_congr fun b => ?_
    constructor
    · rintro ⟨first, others⟩
      obtain ⟨rest, later, whole⟩ := bind_eq_ok.mp others
      exact ⟨rest, first, ih.mp later, (Except.ok.inj whole).symm⟩
    · rintro ⟨rest, first, later, rfl⟩
      exact ⟨first, bind_eq_ok.mpr ⟨rest, ih.mpr later, rfl⟩⟩

/-- The first item that is refused decides the error for a list. -/
theorem mapM_eq_error_of_first {answer : α → Except ε β} {before after : List α} {a : α} {e : ε}
    (answered : ∀ other ∈ before, ∃ b, answer other = .ok b) (refused : answer a = .error e) :
    (before ++ a :: after).mapM answer = .error e := by
  induction before with
  | nil =>
    rw [List.nil_append, List.mapM_cons, refused]
    rfl
  | cons first before ih =>
    obtain ⟨⟨b, here⟩, others⟩ := List.forall_mem_cons.mp answered
    rw [List.cons_append, List.mapM_cons, here, ih others]
    rfl

/-! ## Entries by key -/

section

variable {κ ν : Type} [BEq κ] [LawfulBEq κ] {key : κ} {value : ν} {entries : List (κ × ν)}

/-- A key is found exactly if there is an entry of it. -/
theorem isSome_lookup_iff : (entries.lookup key).isSome = true ↔ key ∈ entries.map (·.1) := by
  rw [List.lookup_isSome_iff, List.mem_map]
  constructor
  · rintro ⟨entry, mem, same⟩
    exact ⟨entry, mem, (beq_iff_eq.mp same).symm⟩
  · rintro ⟨entry, mem, rfl⟩
    exact ⟨entry, mem, beq_self_eq_true _⟩

/-- A key is not found exactly if there is no entry of it. -/
theorem lookup_eq_none_iff : entries.lookup key = none ↔ key ∉ entries.map (·.1) := by
  rw [← isSome_lookup_iff, Option.not_isSome_iff_eq_none]

/-- What is found for a key is the value of its first entry. -/
theorem exists_split_of_lookup (found : entries.lookup key = some value) :
    ∃ before after, entries = before ++ (key, value) :: after ∧ key ∉ before.map (·.1) := by
  obtain ⟨before, after, split, others⟩ := List.lookup_eq_some_iff.mp found
  refine ⟨before, after, split, fun again => ?_⟩
  obtain ⟨entry, mem, rfl⟩ := List.mem_map.mp again
  exact absurd (others entry mem) (by simp)

/-- What is found for a key is the value of an entry. -/
theorem mem_of_lookup (found : entries.lookup key = some value) : (key, value) ∈ entries := by
  obtain ⟨before, after, rfl, -⟩ := exists_split_of_lookup found
  exact List.mem_append_right before List.mem_cons_self

end

end PeriodText
