import PeriodText.Text.Blank

/-!
# Similarity of names

A score between 0 and 100 for how alike two texts are, as an exact fraction. It rests on the
length of the longest common subsequence, and takes the best of several views of the two texts:
as they stand, as their words in sorted order, as sets of words, and, when one text is much longer
than the other, as the shorter one against windows of the longer. A view that ignores more of the
texts counts for less.
-/

set_option autoImplicit false

namespace PeriodText.Text.Similarity

/-- The greater of two scores. -/
def best (x y : Rat) : Rat := if x < y then y else x

/-- The greatest of some scores, none below zero. -/
def greatest (scores : List Rat) : Rat := scores.foldl best 0

/-! ## Longest common subsequence -/

/-- The next row of the table of common subsequence lengths: `above` is the row for the characters
before `x`, `left` the entry just written and `corner` the entry above it. -/
def nextRow (x : Char) : (text : List Char) → (above : List Nat) → (left corner : Nat) → List Nat
  | y :: text, up :: above, left, corner =>
    let entry := if x = y then corner + 1 else Nat.max up left
    entry :: nextRow x text above entry up
  | _, _, _, _ => []

/-- The length of the longest common subsequence of two texts. -/
def common (a b : List Char) : Nat :=
  (a.foldl (fun row x => nextRow x b row 0 0) (b.map fun _ => 0)).getLastD 0

/-- Twice the common length over the sum of the lengths, in percent. -/
def ratio (a b : List Char) : Rat :=
  if a.length + b.length = 0 then 100
  else 100 * (2 * common a b : Nat) / (a.length + b.length : Nat)

/-! ## Windows -/

/-- From each place of a text on, the next `n` characters, or as many as there are. -/
def stretches (n : Nat) : List Char → List (List Char)
  | [] => []
  | c :: rest => (c :: rest).take n :: stretches n rest

/-- The windows of `b` that a shorter text of `n` characters is held against: the beginnings
shorter than `n`, the stretches of `n` characters, and the ends shorter than that. -/
def windows (n : Nat) (b : List Char) : List (List Char) :=
  (List.range (n - 1)).map (fun i => b.take (i + 1)) ++ stretches n b

/-- The best ratio of `a` with a window of `b`, which is no shorter. -/
def againstWindows (a b : List Char) : Rat := greatest ((windows a.length b).map (ratio a))

/-- The best ratio of the shorter text with a window of the longer. -/
def partialRatio (a b : List Char) : Rat :=
  if a.isEmpty && b.isEmpty then 100
  else if a.isEmpty || b.isEmpty then 0
  else if a.length < b.length then againstWindows a b
  else if b.length < a.length then againstWindows b a
  else best (againstWindows a b) (againstWindows b a)

/-! ## Words -/

/-- Words joined by single spaces. -/
def joinWords (ws : List (List Char)) : List Char := List.intercalate [' '] ws

/-- Text order, by code point. -/
def wordLe (a b : List Char) : Bool := !decide (b < a)

/-- The words of a text in sorted order. -/
def sortedWords (text : List Char) : List (List Char) := (words text).mergeSort wordLe

/-- The words of a text in sorted order, each once. -/
def wordSet (text : List Char) : List (List Char) := (sortedWords text).eraseDups

/-- The ratio of two texts as sets of words: the shared words against each side's own. -/
def wordSetRatio (a b : List Char) : Rat :=
  let setA := wordSet a
  let setB := wordSet b
  if setA.isEmpty || setB.isEmpty then 0
  else
    let shared := setA.filter fun w => setB.contains w
    let onlyA := joinWords (setA.filter fun w => !setB.contains w)
    let onlyB := joinWords (setB.filter fun w => !setA.contains w)
    if !shared.isEmpty && (onlyA.isEmpty || onlyB.isEmpty) then 100
    else
      let s := (joinWords shared).length
      let x := onlyA.length
      let y := onlyB.length
      let gap := if s = 0 then 0 else 1
      let sideA := s + gap + x
      let sideB := s + gap + y
      let distance := x + y - 2 * common onlyA onlyB
      let whole : Rat := 100 - 100 * (distance : Nat) / (sideA + sideB : Nat)
      if s = 0 then whole
      else
        best whole (best
          (100 - 100 * (1 + x : Nat) / (s + sideA : Nat))
          (100 - 100 * (1 + y : Nat) / (s + sideB : Nat)))

/-- The best window ratio of two texts as sorted words, with and without repeated words; a shared
word is a full match. -/
def partialWordRatio (a b : List Char) : Rat :=
  if (wordSet a).any fun w => (wordSet b).contains w then 100
  else
    best (partialRatio (joinWords (sortedWords a)) (joinWords (sortedWords b)))
      (partialRatio (joinWords (wordSet a)) (joinWords (wordSet b)))

/-! ## The score -/

/-- How alike two texts are. Texts of like length are compared whole; when one is at least half
as long again as the other, windows count instead of word sets, and for less when it is over
eight times as long. -/
def score (a b : List Char) : Rat :=
  if a.isEmpty || b.isEmpty then 0
  else
    let long := Nat.max a.length b.length
    let short := Nat.min a.length b.length
    let plain := ratio a b
    if 2 * long < 3 * short then
      best plain (95 / 100 * best (wordSetRatio a b)
        (ratio (joinWords (sortedWords a)) (joinWords (sortedWords b))))
    else
      let weight : Rat := if long ≤ 8 * short then 9 / 10 else 6 / 10
      best plain (best (weight * partialRatio a b) (95 / 100 * weight * partialWordRatio a b))

/-- The first of the candidates with the highest score, if that reaches the threshold. -/
def closest? (threshold : Rat) (word : List Char) (candidates : List (List Char)) :
    Option (List Char) :=
  let pick (found : Option (Rat × List Char)) (candidate : List Char) :=
    let s := score word candidate
    match found with
    | some (top, _) => if top < s then some (s, candidate) else found
    | none => if threshold ≤ s then some (s, candidate) else none
  (candidates.foldl pick none).map (·.2)

end PeriodText.Text.Similarity
