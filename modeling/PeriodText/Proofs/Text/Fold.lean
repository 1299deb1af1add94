import PeriodText.Proofs.Text.Blank
import PeriodText.Text.Fold

/-!
# Folded names

A name is folded by composing it, taking the white space off its ends and taking lower case, in this
order. Lower case keeps canonical equivalence, so that the name in lower case is folded into the
composition of the folded name (`fold_lower`). This is the folded name itself unless lower case has
left it with something to compose: then the two are canonically equivalent, and yet different names.
The same holds of the folded name that is folded again (`fold_fold`).
-/

set_option autoImplicit false

namespace PeriodText.Text

variable {word other : List Char}

/-- Nothing more is taken off the ends of a text. -/
theorem strip_strip (text : List Char) : strip (strip text) = strip text := by
  obtain ⟨-, -, -, -, -, first, last⟩ := exists_strip text
  have same := strip_eq (List.forall_mem_nil _) (List.forall_mem_nil _) first last
  rwa [List.nil_append, List.append_nil] at same

/-- Names that are composed alike are folded alike. -/
theorem fold_congr (same : compose word = compose other) : fold word = fold other := by
  rw [fold, fold, same]

/-- A word may be composed, and the white space taken off its ends, before it is folded. -/
theorem fold_strip_compose (word : List Char) : fold (strip (compose word)) = fold word := by
  rw [fold, ← keepsBlanks_compose.strip_comm, compose_compose, strip_strip]
  rfl

/-- **A word in lower case is folded into the composition of the folded word.** -/
theorem fold_lower (word : List Char) : fold (lower word) = compose (fold word) := by
  have equivalent : compose (lower word) = compose (lower (compose word)) := by
    rw [compose_eq_iff, canonical_lower, canonical_lower (compose word), canonical_compose]
  calc fold (lower word)
      = strip (lower (compose (lower word))) := (keepsBlanks_lower.strip_comm _).symm
    _ = strip (compose (lower (compose word))) := by rw [lower_compose_lower, equivalent]
    _ = compose (strip (lower (compose word))) := keepsBlanks_compose.strip_comm _
    _ = compose (fold word) := by rw [keepsBlanks_lower.strip_comm, fold]

/-- **A folded word is folded again into its composition.** -/
theorem fold_fold (word : List Char) : fold (fold word) = compose (fold word) := by
  calc fold (fold word)
      = compose (fold (strip (compose word))) := fold_lower _
    _ = compose (fold word) := by rw [fold_strip_compose]

end PeriodText.Text
