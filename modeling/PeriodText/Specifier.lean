import PeriodText.Kind

/-!
# Field letters

The letters that stand for fields in a pattern. Three letters stand for the month: as a number, as
an abbreviated name and as a full name.
-/

set_option autoImplicit false

namespace PeriodText

/-- The two ways to name a month in words. -/
inductive NameStyle where
  | abbreviated
  | full
  deriving DecidableEq, Repr

/-- What messages call a name of the style. -/
def NameStyle.phrase : NameStyle → String
  | .abbreviated => "month abbreviation"
  | .full => "month name"

/-- A letter that stands for a field. -/
inductive Specifier where
  | year
  | semester
  | quarter
  | month
  | monthAbbreviation
  | monthName
  | week
  | day
  deriving DecidableEq, Repr

namespace Specifier

/-- All specifiers, in the order in which messages list them. -/
def all : List Specifier :=
  [year, semester, quarter, month, monthAbbreviation, monthName, week, day]

/-- The letter in a pattern. -/
def letter : Specifier → Char
  | year => 'y'
  | semester => 's'
  | quarter => 'q'
  | month => 'm'
  | monthAbbreviation => 'u'
  | monthName => 'U'
  | week => 'w'
  | day => 'd'

/-- The kind of the field. -/
def kind : Specifier → Kind
  | year => .year
  | semester => .semester
  | quarter => .quarter
  | month => .month
  | monthAbbreviation => .month
  | monthName => .month
  | week => .week
  | day => .day

/-- How the field is put in words, for the letters that name a month. -/
def style? : Specifier → Option NameStyle
  | monthAbbreviation => some .abbreviated
  | monthName => some .full
  | _ => none

/-- The specifier of a letter. -/
def ofLetter? (c : Char) : Option Specifier := all.find? (·.letter = c)

/-- The character stands for a field. -/
def isLetter (c : Char) : Bool := (ofLetter? c).isSome

/-- The letters of all specifiers. -/
def letters : String := String.ofList (all.map letter)

/-- A letter stands for its specifier. -/
@[simp] theorem ofLetter?_letter (s : Specifier) : ofLetter? s.letter = some s := by
  cases s <;> decide

end Specifier

end PeriodText
