/-!
# Runs of a class of characters

A reader that takes as many characters of one class as there are stops at the first that is of
another class, or at the end. So where a run is followed by no character of its class, the text
determines the run and what follows it: `run_unique`.
-/

set_option autoImplicit false

namespace PeriodText.Text

/-- The text begins with a character of the class. -/
def opens (p : Char → Bool) (text : List Char) : Bool := text.head?.any p

variable {p : Char → Bool}

@[simp] theorem opens_nil : opens p [] = false := rfl

@[simp] theorem opens_cons (c : Char) (rest : List Char) : opens p (c :: rest) = p c := rfl

/-- A text that is not empty decides how it begins. -/
theorem opens_append {text : List Char} (present : text ≠ []) (rest : List Char) :
    opens p (text ++ rest) = opens p text := by
  cases text with
  | nil => exact absurd rfl present
  | cons c text => rfl

/-- The front of a text begins like the text. -/
theorem opens_take {width : Nat} (present : 0 < width) (text : List Char) :
    opens p (text.take width) = opens p text := by
  cases text with
  | nil => rw [List.take_nil]
  | cons c rest =>
    cases width with
    | zero => cases present
    | succ width => rfl

/-- A run that is not empty begins with a character of its class. -/
theorem opens_run {run : List Char} (inside : ∀ c ∈ run, p c = true) (present : run ≠ [])
    (rest : List Char) : opens p (run ++ rest) = true := by
  cases run with
  | nil => exact absurd rfl present
  | cons c run => exact inside c List.mem_cons_self

/-- So does the run alone. -/
theorem opens_of_run {run : List Char} (inside : ∀ c ∈ run, p c = true) (present : run ≠ []) :
    opens p run = true := by
  have first := opens_run inside present []
  rwa [List.append_nil] at first

/-- What is left after the characters of a class begins with none of them. -/
theorem opens_dropWhile (text : List Char) : opens p (text.dropWhile p) = false := by
  induction text with
  | nil => rfl
  | cons c rest ih =>
    rw [List.dropWhile_cons]
    split
    · exact ih
    · next outside => exact Bool.eq_false_iff.mpr outside

/-- No character of a class is taken from a text that does not begin with one. -/
theorem takeWhile_eq_nil {text : List Char} (stop : opens p text = false) :
    text.takeWhile p = [] := by
  cases text with
  | nil => rfl
  | cons c rest => exact List.takeWhile_cons_of_neg (Bool.eq_false_iff.mp stop)

/-- Nothing is dropped from a text that does not begin with a character of the class. -/
theorem dropWhile_eq_self {text : List Char} (stop : opens p text = false) :
    text.dropWhile p = text := by
  cases text with
  | nil => rfl
  | cons c rest => exact List.dropWhile_cons_of_neg (Bool.eq_false_iff.mp stop)

/-- The characters taken from a run before a stop are the run. -/
theorem takeWhile_run {run rest : List Char} (inside : ∀ c ∈ run, p c = true)
    (stop : opens p rest = false) : (run ++ rest).takeWhile p = run := by
  rw [List.takeWhile_append_of_pos inside, takeWhile_eq_nil stop, List.append_nil]

/-- All characters of a run are taken. -/
theorem takeWhile_eq_self {run : List Char} (inside : ∀ c ∈ run, p c = true) :
    run.takeWhile p = run := by
  have whole := takeWhile_run inside opens_nil
  rwa [List.append_nil] at whole

/-- What is left of a run before a stop is what follows the run. -/
theorem dropWhile_run {run rest : List Char} (inside : ∀ c ∈ run, p c = true)
    (stop : opens p rest = false) : (run ++ rest).dropWhile p = rest := by
  rw [List.dropWhile_append_of_pos inside, dropWhile_eq_self stop]

/-- The characters taken from a text are its first ones. -/
theorem take_length_takeWhile (text : List Char) :
    text.take (text.takeWhile p).length = text.takeWhile p :=
  (List.prefix_iff_eq_take.mp (List.takeWhile_prefix p)).symm

/-- What is left of a text is all but the characters taken. -/
theorem drop_length_takeWhile (text : List Char) :
    text.drop (text.takeWhile p).length = text.dropWhile p := by
  have whole := List.take_append_drop (text.takeWhile p).length text
  rw [take_length_takeWhile] at whole
  exact List.append_cancel_left (whole.trans List.takeWhile_append_dropWhile.symm)

/-- The characters that are taken are of the class. -/
theorem of_mem_takeWhile {text : List Char} {c : Char} (taken : c ∈ text.takeWhile p) :
    p c = true :=
  List.all_eq_true.mp List.all_takeWhile c taken

/-- The characters taken from the front of a text are the first of those taken from the text. -/
theorem takeWhile_take (width : Nat) (text : List Char) :
    (text.take width).takeWhile p = (text.takeWhile p).take width := by
  induction text generalizing width with
  | nil => simp
  | cons c rest ih =>
    cases width with
    | zero => rfl
    | succ width =>
      rw [List.take_succ_cons, List.takeWhile_cons, List.takeWhile_cons]
      split
      · rw [List.take_succ_cons, ih]
      · rfl

/-- **A text is a run before a stop in one way.** -/
theorem run_unique {run other rest after : List Char} (inside : ∀ c ∈ run, p c = true)
    (stop : opens p rest = false) (otherInside : ∀ c ∈ other, p c = true)
    (otherStop : opens p after = false) (same : run ++ rest = other ++ after) :
    run = other ∧ rest = after := by
  constructor
  · rw [← takeWhile_run inside stop, same, takeWhile_run otherInside otherStop]
  · rw [← dropWhile_run inside stop, same, dropWhile_run otherInside otherStop]

end PeriodText.Text
