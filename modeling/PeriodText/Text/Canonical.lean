import PeriodText.Text.Canonical.Table

/-!
# Canonical composition

Two spellings of one text, such as a letter with an accent and the letter followed by the
accent's mark, have one composed form. It is reached in three steps: decompose every character
as far as it goes, sort each run of marks by combining class without moving marks of one class
past each other, and compose every base with the marks that nothing blocks.
-/

set_option autoImplicit false

namespace PeriodText.Text

/-- The first code point that is a mark, or that composes with the character before it. -/
def firstMark : Nat := 0x300

/-- The combining class of a character; zero for a base. -/
def combiningClass (c : Char) : Nat :=
  let n := c.toNat
  if n < firstMark then 0
  else match combiningClasses.find? fun (first, last, _) => first ≤ n && n ≤ last with
  | some (_, _, rank) => rank
  | none => 0

/-! ## Hangul syllables

A syllable is a leading consonant, a vowel and perhaps a trailing consonant, numbered in that
order, so both directions are arithmetic. -/

/-- The first syllable. -/
def firstSyllable : Nat := 0xAC00
/-- The first leading consonant. -/
def firstLeading : Nat := 0x1100
/-- The first vowel. -/
def firstVowel : Nat := 0x1161
/-- The code point before the first trailing consonant. -/
def noTrailing : Nat := 0x11A7

/-- The parts of a Hangul syllable. -/
def syllableParts (n : Nat) : Option (List Nat) :=
  if firstSyllable ≤ n && n < firstSyllable + 19 * 588 then
    let index := n - firstSyllable
    let trailing := index % 28
    some ([firstLeading + index / 588, firstVowel + index % 588 / 28] ++
      if trailing = 0 then [] else [noTrailing + trailing])
  else none

/-- The syllable that two Hangul parts join into. -/
def joinSyllable (first second : Nat) : Option Nat :=
  if firstLeading ≤ first && first < firstLeading + 19 &&
      firstVowel ≤ second && second < firstVowel + 21 then
    some (firstSyllable + ((first - firstLeading) * 21 + (second - firstVowel)) * 28)
  else if firstSyllable ≤ first && first < firstSyllable + 19 * 588 &&
      (first - firstSyllable) % 28 = 0 && noTrailing < second && second < noTrailing + 28 then
    some (first + (second - noTrailing))
  else none

/-! ## The three steps -/

/-- The first code point that decomposes. -/
def firstComposite : Nat := 0xC0

/-- One step of decomposition. -/
def decomposeOnce (n : Nat) : List Nat :=
  if n < firstComposite then [n]
  else match syllableParts n with
  | some parts => parts
  | none =>
    match canonicalPairs.find? (·.1 == n) with
    | some (_, first, second) => [first, second]
    | none =>
      match canonicalSingletons.find? (·.1 == n) with
      | some (_, other) => [other]
      | none => [n]

/-- The full decomposition of a text. No entry of the tables needs more than three steps. -/
def decompose (text : List Char) : List Char :=
  let step (ns : List Nat) := ns.flatMap decomposeOnce
  (step (step (step (text.map Char.toNat)))).map Char.ofNat

/-- Put a mark in front of a text whose leading marks are sorted: past the marks of smaller
class, and before one of its own class. -/
def insertMark (c : Char) : List Char → List Char
  | [] => [c]
  | d :: rest =>
    if 0 < combiningClass d && combiningClass d < combiningClass c then d :: insertMark c rest
    else c :: d :: rest

/-- Each run of marks sorted by combining class. -/
def sortMarks : List Char → List Char
  | [] => []
  | c :: rest => insertMark c (sortMarks rest)

/-- The character that a base and the next character compose into. -/
def composePair (base c : Char) : Option Char :=
  if c.toNat < firstMark then none
  else match joinSyllable base.toNat c.toNat with
  | some n => some (Char.ofNat n)
  | none =>
    match canonicalPairs.find? fun (n, first, second) =>
        first == base.toNat && second == c.toNat && !compositionExclusions.contains n with
    | some (n, _, _) => some (Char.ofNat n)
    | none => none

/-- Compose what follows a base. `marks` are the marks that stayed apart since the base, and
`last` the class of the latest one; a character is blocked from the base when a mark of its class
or a higher one stands between. -/
def composeFrom (base : Char) (marks : List Char) (last : Nat) : List Char → List Char
  | [] => base :: marks
  | c :: rest =>
    let rank := combiningClass c
    match if last = 0 || last < rank then composePair base c else none with
    | some joined => composeFrom joined marks last rest
    | none =>
      if rank = 0 then base :: marks ++ composeFrom c [] 0 rest
      else composeFrom base (marks ++ [c]) rank rest

/-- The composed form of a text. -/
def compose (text : List Char) : List Char :=
  match sortMarks (decompose text) with
  | [] => []
  | c :: rest => composeFrom c [] 0 rest

end PeriodText.Text
