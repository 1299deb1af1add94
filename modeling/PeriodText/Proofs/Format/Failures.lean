import PeriodText.Proofs.Format.Grammar
import PeriodText.Proofs.Locale.Lookup

/-!
# Why a text is not read

Where the locale is known, there are two reasons that a text is not read in a format: it does not
match, or it has a number with more digits than are read (`Format.read_eq_error`). And what is read
has no undated value and no value that is too long to be shown again in a message
(`Format.readable_of_read`).
-/

set_option autoImplicit false

namespace PeriodText

open Numeral (isDigit digitLimit isWritable)

/-- The text has more digits in a row than are read. -/
def Text.Overlong (text : List Char) : Prop :=
  ∃ run, run <:+: text ∧ (∀ c ∈ run, isDigit c = true) ∧ digitLimit < run.length

/-- A text is overlong if what is left of it is. -/
theorem Text.Overlong.of_drop {text : List Char} {taken : Nat} (long : Overlong (text.drop taken)) :
    Overlong text := by
  obtain ⟨run, inside, digits, length⟩ := long
  exact ⟨run, inside.trans (List.drop_suffix taken text).isInfix, digits, length⟩

/-- The error is one of reading, or the text has a number that is too long. -/
def ReadFailure (text : List Char) (e : Error) : Prop :=
  (∃ cause, e = .read cause) ∨
    (Text.Overlong text ∧ ∃ digits, e = .numeral (.tooLongToRead digits))

/-! ## Fields and tokens -/

namespace Field

variable {f : Field} {l : Locale} {position taken : Nat} {text : List Char} {n : Int} {e : Error}

/-- The digits that a field takes stand in the text as they are. -/
theorem digits_infix (f : Field) (text : List Char) : f.digits text <:+: text := by
  have inside : (if f.takesSign text then text.drop 1 else text) <:+ text := by
    split
    · exact List.drop_suffix 1 text
    · exact List.suffix_refl text
  have within (rest : List Char) : f.within rest <+: rest := by
    unfold Field.within
    split
    · exact List.take_prefix f.width rest
    · exact List.prefix_refl rest
  exact ((List.takeWhile_prefix isDigit).trans (within _)).isInfix.trans inside.isInfix

theorem isDigit_of_mem_digits {c : Char} (mem : c ∈ f.digits text) : isDigit c = true :=
  Text.of_mem_takeWhile mem

theorem readNumber_eq_error (refused : f.readNumber position text = .error e) :
    ReadFailure text e := by
  unfold readNumber at refused
  dsimp only at refused
  split at refused
  · cases refused
    exact .inl ⟨_, rfl⟩
  · split at refused
    · cases refused
      exact .inl ⟨_, rfl⟩
    · split at refused
      · next long =>
        cases refused
        exact .inr ⟨⟨_, f.digits_infix text, fun _ => isDigit_of_mem_digits, long⟩, _, rfl⟩
      · split at refused <;> cases refused

theorem readMonth_eq_error {style : NameStyle}
    (refused : f.readMonth style (.ok l) position text = .error e) :
    ∃ cause, e = .read cause := by
  unfold readMonth at refused
  dsimp only at refused
  split at refused
  · cases refused
    exact ⟨_, rfl⟩
  · rcases bind_eq_error.mp refused with impossible | ⟨_, ⟨⟩, named⟩
    · cases impossible
    · rcases bind_eq_error.mp named with unknown | ⟨month, -, impossible⟩
      · unfold Locale.readMonth at unknown
        split at unknown
        · cases unknown
        · cases unknown
          exact ⟨_, rfl⟩
      · cases impossible

/-- Where a field is not read, the text does not match or has a number that is too long. -/
theorem read_eq_error (refused : f.read (.ok l) position text = .error e) :
    ReadFailure text e := by
  unfold Field.read at refused
  split at refused
  · exact .inl (readMonth_eq_error refused)
  · exact readNumber_eq_error refused

theorem isWritable_of_readNumber (done : f.readNumber position text = .ok (n, taken)) :
    isWritable n = true := by
  unfold readNumber at done
  dsimp only at done
  split at done
  · cases done
  · split at done
    · cases done
    · next present =>
      split at done
      · cases done
      · next short =>
        have digits : 1 ≤ (f.digits text).length :=
          List.length_pos_iff.mpr (by simpa using present)
        have small := Numeral.ofDigits_lt_pow fun c (mem : c ∈ f.digits text) =>
          isDigit_of_mem_digits mem
        refine Numeral.isWritable_of_lt_pow digits (Nat.not_lt.mp short) ?_
        split at done
        · cases done
          simpa using small
        · cases done
          simpa using small

theorem isWritable_of_readMonth {style : NameStyle}
    (done : f.readMonth style (.ok l) position text = .ok (n, taken)) : isWritable n = true := by
  obtain ⟨-, rfl, -⟩ := isName_of_readMonth done
  have last : (l.month? style (text.take taken)).getD 0 ≤ 12 := by
    cases known : l.month? style (text.take taken) with
    | none => decide
    | some month => exact (Locale.month?_bounds known).2
  refine Numeral.isWritable_of_lt_pow (by decide : 1 ≤ 2) (by decide) ?_
  rw [Int.natAbs_natCast]
  omega

/-- What a field is read as can be shown. -/
theorem isWritable_of_read (done : f.read (.ok l) position text = .ok (n, taken)) :
    isWritable n = true := by
  unfold Field.read at done
  split at done
  · exact isWritable_of_readMonth done
  · exact isWritable_of_readNumber done

/-- No field is undated. -/
theorem kind_ne_undated (f : Field) : f.kind ≠ .undated := by
  unfold Field.kind
  cases f.specifier <;> decide

end Field

namespace Token

variable {t : Token} {l : Locale} {position : Nat} {text : List Char} {e : Error}

theorem read_eq_error (refused : t.read (.ok l) position text = .error e) :
    ReadFailure text e := by
  cases t with
  | literal expected =>
    unfold Token.read at refused
    dsimp only at refused
    split at refused
    · cases refused
    · cases refused
      exact .inl ⟨_, rfl⟩
  | field f =>
    rcases bind_eq_error.mp refused with inner | ⟨_, -, impossible⟩
    · exact Field.read_eq_error inner
    · cases impossible

end Token

/-! ## Formats -/

/-- What can have been read: no undated value, and none that cannot be shown. -/
def FieldValues.Readable (values : FieldValues) : Prop :=
  ∀ kind n, values.get? kind = some n → kind ≠ .undated ∧ isWritable n = true

theorem FieldValues.readable_nil : Readable [] := by
  intro kind n found
  cases found

namespace Format

variable {l : Locale} {e : Error}

/-- Tokens are not read where one of them is not. -/
theorem readFrom_eq_error {tokens : List Token} {position : Nat} {values : FieldValues}
    {text : List Char} (refused : readFrom (.ok l) position values tokens text = .error e) :
    ReadFailure text e := by
  induction tokens generalizing position values text with
  | nil => cases refused
  | cons t tokens ih =>
    rcases bind_eq_error.mp refused with first | ⟨⟨entry, taken⟩, -, others⟩
    · exact Token.read_eq_error first
    · rcases ih others with cause | ⟨long, digits⟩
      · exact .inl cause
      · exact .inr ⟨long.of_drop, digits⟩

/-- **Where a text is not read**, it does not match or has a number that is too long. -/
theorem read_eq_error {f : Format} {text : String} (refused : f.read (.ok l) text = .error e) :
    ReadFailure text.toList e := by
  rcases bind_eq_error.mp refused with inside | ⟨reading, -, last⟩
  · exact readFrom_eq_error inside
  · split at last
    · cases last
    · cases last
      exact .inl ⟨_, rfl⟩

/-- A token adds a value that can have been read. -/
theorem readable_putEntry {t : Token} {position taken : Nat} {text : List Char}
    {values : FieldValues} {entry : Option (Kind × Int)} (readable : values.Readable)
    (done : t.read (.ok l) position text = .ok (entry, taken)) :
    (values.putEntry entry).Readable := by
  cases t with
  | literal expected =>
    obtain ⟨-, rfl, -⟩ := Token.read_literal_eq_ok.mp done
    exact readable
  | field f =>
    obtain ⟨n, inner, rfl⟩ := Token.read_field_eq_ok.mp done
    intro kind m found
    rw [FieldValues.putEntry, FieldValues.get?_put] at found
    split at found
    · next same =>
      cases found
      exact ⟨same ▸ f.kind_ne_undated, Field.isWritable_of_read inner⟩
    · exact readable kind m found

/-- Tokens add values that can have been read. -/
theorem readable_of_readFrom {tokens : List Token} {position : Nat} {values : FieldValues}
    {text : List Char} {reading : Reading} (readable : values.Readable)
    (done : readFrom (.ok l) position values tokens text = .ok reading) :
    reading.values.Readable := by
  induction tokens generalizing position values text with
  | nil =>
    cases done
    exact readable
  | cons t tokens ih =>
    obtain ⟨⟨entry, taken⟩, first, others⟩ := bind_eq_ok.mp done
    exact ih (readable_putEntry readable first) others

/-- **What is read** has no undated value and none that cannot be shown. -/
theorem readable_of_read {f : Format} {text : String} {values : FieldValues}
    (done : f.read (.ok l) text = .ok values) : values.Readable := by
  obtain ⟨reading, inside, last⟩ := bind_eq_ok.mp done
  have readable := readable_of_readFrom FieldValues.readable_nil inside
  split at last
  · cases last
    exact readable
  · cases last

end Format

end PeriodText
