import PeriodText.Text.Ranges

/-!
# Sets and tables of code points

The tables of characters are too long to be searched again and again when a fact about all their
entries is evaluated. A set of code points is therefore also given as a number, whose bits are the
members: that two sets have no member in common is then a single operation. And a table whose
keys ascend is also given as a search tree, `Index`.
-/

set_option autoImplicit false

namespace PeriodText.Text

/-! ## Sets -/

/-- The number whose bits are the members of a set. -/
def bits (members : List Nat) : Nat := members.foldr (fun n set => 1 <<< n ||| set) 0

/-- Its bits are the members. -/
theorem testBit_bits {members : List Nat} {n : Nat} :
    (bits members).testBit n = true ↔ n ∈ members := by
  induction members with
  | nil => simp [bits]
  | cons m members ih =>
    rw [bits, List.foldr_cons, ← bits, Nat.testBit_or, Bool.or_eq_true, ih, List.mem_cons,
      Nat.one_shiftLeft, Nat.testBit_two_pow, decide_eq_true_iff, eq_comm]

/-- What is made of an entry of a table is among what is made of the entries. -/
theorem testBit_bits_map {α : Type} {table : List α} {entry : α} (code : α → Nat)
    (mem : entry ∈ table) : (bits (table.map code)).testBit (code entry) = true :=
  testBit_bits.mpr (List.mem_map_of_mem mem)

/-- The number whose bits are the members of ranges. -/
def Ranges.bits (ranges : Ranges) : Nat :=
  ranges.foldr (fun range set => (1 <<< (range.2 + 1 - range.1) - 1) <<< range.1 ||| set) 0

/-- Its bits are the members. -/
theorem Ranges.testBit_bits (ranges : Ranges) (n : Nat) :
    ranges.bits.testBit n = ranges.has n := by
  induction ranges with
  | nil => simp [bits, has]
  | cons range ranges ih =>
    have here : ((1 <<< (range.2 + 1 - range.1) - 1) <<< range.1).testBit n =
        (decide (range.1 ≤ n) && decide (n ≤ range.2)) := by
      rw [Nat.testBit_shiftLeft, Nat.one_shiftLeft, Nat.testBit_two_pow_sub_one, Bool.eq_iff_iff]
      simp only [Bool.and_eq_true, decide_eq_true_eq]
      omega
    rw [bits, List.foldr_cons, ← bits, Nat.testBit_or, ih, here]
    rfl

/-- What is inside one of the ranges is a member. -/
theorem Ranges.testBit_of_mem {ranges : Ranges} {range : Nat × Nat} {n : Nat}
    (mem : range ∈ ranges) (inside : range.1 ≤ n ∧ n ≤ range.2) :
    ranges.bits.testBit n = true :=
  (ranges.testBit_bits n).trans (has_iff.mpr ⟨range, mem, inside⟩)

/-- Sets with no bit in common have no member in common. -/
theorem testBit_of_disjoint {set other n : Nat} (disjoint : set &&& other = 0)
    (mem : set.testBit n = true) : other.testBit n = false := by
  have none := congrArg (·.testBit n) disjoint
  simpa [Nat.testBit_and, mem] using none

/-! ## Tables -/

/-- A table as a search tree. -/
inductive Index (α : Type) where
  | leaf
  | node (smaller : Index α) (key : Nat) (value : α) (larger : Index α)

namespace Index

variable {α : Type}

/-- The entries in order. -/
def entries : Index α → List (Nat × α)
  | leaf => []
  | node smaller key value larger => smaller.entries ++ (key, value) :: larger.entries

/-- The tree of the first entries of a table, and the entries that are left. It is full, of the
given depth. -/
def build : Nat → List (Nat × α) → Index α × List (Nat × α)
  | 0, table => (leaf, table)
  | depth + 1, table =>
    match build depth table with
    | (smaller, []) => (smaller, [])
    | (smaller, (key, value) :: rest) =>
      match build depth rest with
      | (larger, rest) => (node smaller key value larger, rest)

/-- The value at a key. -/
def find? : Index α → Nat → Option α
  | leaf, _ => none
  | node smaller key value larger, n =>
    cond (n.blt key) (smaller.find? n) (cond (key.blt n) (larger.find? n) (some value))

/-- What is found is an entry. -/
theorem mem_of_find? {tree : Index α} {n : Nat} {value : α} (found : tree.find? n = some value) :
    (n, value) ∈ tree.entries := by
  induction tree with
  | leaf => cases found
  | node smaller key other larger ihSmaller ihLarger =>
    rw [entries, List.mem_append, List.mem_cons]
    rw [find?] at found
    cases below : n.blt key with
    | true =>
      rw [below] at found
      exact .inl (ihSmaller found)
    | false =>
      cases above : key.blt n with
      | true =>
        rw [below, above] at found
        exact .inr (.inr (ihLarger found))
      | false =>
        rw [below, above] at found
        cases found
        have notBelow : ¬n < key := fun less => by simp [Nat.blt_eq.mpr less] at below
        have notAbove : ¬key < n := fun less => by simp [Nat.blt_eq.mpr less] at above
        rw [show n = key by omega]
        exact .inr (.inl rfl)

/-- The entries of a tree and those that are left are the table. -/
theorem entries_build (depth : Nat) (table : List (Nat × α)) :
    (build depth table).1.entries ++ (build depth table).2 = table := by
  induction depth generalizing table with
  | zero => rfl
  | succ depth ih =>
    have first := ih table
    rw [build]
    split
    · next smaller built =>
      rw [built] at first
      exact first
    · next smaller key value rest built =>
      have second := ih rest
      rw [built] at first
      rw [← first, entries, List.append_assoc, List.cons_append, second]

/-- What is found in the tree of a table is an entry of the table. -/
theorem mem_of_find?_build {depth n : Nat} {table : List (Nat × α)} {value : α}
    (found : (build depth table).1.find? n = some value) : (n, value) ∈ table := by
  rw [← entries_build depth table]
  exact List.mem_append_left _ (mem_of_find? found)

end Index

end PeriodText.Text
