import PeriodText.Datum
import PeriodText.Text.Fold
import PeriodText.Text.Similarity

/-!
# Locales

A locale names the twelve months of one language in two ways, in full and abbreviated. A name is
recognised by its folded form; where two months have the same folded name, the later one has it.
A name that is not recognised comes back with the closest name of the locale, if one is close.
-/

set_option autoImplicit false

namespace PeriodText

/-- The month names of one language. -/
structure Locale where
  name : String
  /-- The full names, January first. -/
  months : List String
  /-- The abbreviated names, January first. -/
  abbreviations : List String
  /-- There is a full name for every month. -/
  months_length : months.length = 12
  /-- There is an abbreviation for every month. -/
  abbreviations_length : abbreviations.length = 12
  deriving DecidableEq, Repr

namespace Locale

/-- The names of a style, January first. -/
def names (l : Locale) : NameStyle → List String
  | .full => l.months
  | .abbreviated => l.abbreviations

/-- Numbered entries without those whose name comes again later. -/
def latest : List (Nat × List Char) → List (Nat × List Char)
  | [] => []
  | entry :: rest => if rest.any (·.2 = entry.2) then latest rest else entry :: latest rest

/-- The folded names of a style with the months they stand for, in the order of the months. -/
def folded (l : Locale) (style : NameStyle) : List (Nat × List Char) :=
  latest (((l.names style).zipIdx 1).map fun (name, month) => (month, Text.fold name.toList))

/-- The month that a word names. -/
def month? (l : Locale) (style : NameStyle) (word : List Char) : Option Nat :=
  ((l.folded style).find? (·.2 = Text.fold word)).map (·.1)

/-- The least score at which a name is suggested. -/
def suggestionThreshold : Rat := 80

/-- The name of the locale that a word may have been meant for. -/
def suggestion? (l : Locale) (style : NameStyle) (word : List Char) : Option String :=
  (Text.Similarity.closest? suggestionThreshold word
    ((l.names style).map String.toList)).map String.ofList

/-- The month that a word names, or the reason that it names none. The site is where the word was
read, if it was read from a text. -/
def readMonth (l : Locale) (style : NameStyle) (word : List Char) (site : Option Site) :
    Except Error Nat :=
  match l.month? style word with
  | some month => .ok month
  | none => .error (.read
    (.unknownMonth style (String.ofList word) l.name (l.suggestion? style word) site))

/-- The name of a month. -/
def monthName (l : Locale) (style : NameStyle) (month : Int) : Except Error String :=
  if 1 ≤ month && month ≤ 12 then .ok ((l.names style).getD (month.toNat - 1) "")
  else .error (Error.showing month (.read (.monthOutOfRange style month l.name)))

/-! ## Locales from data -/

/-- The items of a datum: of a list, or of a text its characters. -/
def items : Datum → Except Error (List Datum)
  | .list ds => .ok ds
  | .text s => .ok (s.toList.map fun c => .text (String.singleton c))
  | d => .error (.type (.notIterable d.typeName))

/-- A datum as a name. -/
def nameOf : Datum → Except Error String
  | .text s => .ok s
  | .absent => .error (.type (.notName "None"))
  | d => .error (.type (.notName d.typeName))

/-- The locale of two lists of twelve names. -/
def ofNames (name : String) (months abbreviations : List String) : Except Error Locale :=
  if lengths : months.length = 12 ∧ abbreviations.length = 12 then
    .ok ⟨name, months, abbreviations, lengths.1, lengths.2⟩
  else .error (.localeSize name)

/-- The locale of two data. Both have to have twelve items before any item is looked at. -/
def ofData (name : String) (months abbreviations : Datum) : Except Error Locale := do
  let monthItems ← items months
  let abbreviationItems ← items abbreviations
  if monthItems.length ≠ 12 ∨ abbreviationItems.length ≠ 12 then
    throw (.localeSize name)
  let monthNames ← monthItems.mapM nameOf
  let abbreviationNames ← abbreviationItems.mapM nameOf
  ofNames name monthNames abbreviationNames

end Locale

end PeriodText
