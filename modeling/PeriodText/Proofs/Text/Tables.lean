import PeriodText.Proofs.Text.CodePoints
import PeriodText.Text.Blank
import PeriodText.Text.Canonical
import PeriodText.Text.LowerCase
import Mathlib.Data.List.Chain

/-!
# What the tables of characters are like

Everything that is known of composition, lower case and white space from the characters themselves is
read off the tables here, by evaluation: which sets of characters have none in common, and what the
entries have in common one by one. What follows from it for texts needs no table any more.
-/

set_option autoImplicit false

namespace PeriodText.Text

/-! ## Decomposition -/

/-- The syllables and the letters that they are made of. -/
def hangul : Ranges := [(0x1100, 0x11FF), (0xAC00, 0xD7A3)]

/-- The code points in the tables of decomposition, each with its first part. -/
def firstParts : List (Nat × Nat) :=
  canonicalPairs.map (fun (n, first, _) => (n, first)) ++ canonicalSingletons

/-- The code points that decompose. -/
def composites : Nat := bits (firstParts.map (·.1)) ||| Ranges.bits [(0xAC00, 0xD7A3)]

/-- The code points in the tables whose first part does not decompose, or is one of the given. -/
def decomposeTo (given : Nat) : Nat :=
  bits ((firstParts.filter fun (_, first) =>
    !composites.testBit first || given.testBit first).map (·.1))

/-- What the tables of decomposition are like. -/
structure DecompositionTables : Prop where
  /-- The code points in a table ascend. -/
  ascending_pairs : canonicalPairs.IsChain (·.1 < ·.1)
  ascending_singletons : canonicalSingletons.IsChain (·.1 < ·.1)
  /-- No code point is in both tables. -/
  pairs_singletons : bits (canonicalPairs.map (·.1)) &&& bits (canonicalSingletons.map (·.1)) = 0
  /-- No letter below the first composite, and nothing Hangul, is in the tables. -/
  outside : bits (firstParts.map (·.1)) &&& Ranges.bits ((0, firstComposite - 1) :: hangul) = 0
  /-- Second parts do not decompose. -/
  whole_seconds : bits (canonicalPairs.map (·.2.2)) &&& composites = 0
  /-- First parts decompose twice at most. -/
  depth_firsts : decomposeTo (decomposeTo (decomposeTo 0)) = bits (firstParts.map (·.1))
  /-- All of them are code points of characters. -/
  valid_pairs : canonicalPairs.all (fun e => decide e.1.isValidChar && decide e.2.1.isValidChar &&
    decide e.2.2.isValidChar) = true
  valid_singletons : canonicalSingletons.all (fun e => decide e.1.isValidChar &&
    decide e.2.isValidChar) = true

/-! ## Capitals -/

/-- The code points of marks. -/
def marks : Ranges := combiningClasses.map fun (first, last, _) => (first, last)

/-- The capitals with their small letters, but for the capital I with a dot above. -/
def capitalLetters : List (Nat × Nat) :=
  capitals.flatMap fun run => (List.range ((run.2.1 - run.1) / run.2.2.1 + 1)).map fun i =>
    (run.1 + i * run.2.2.1, (((run.1 + i * run.2.2.1 : Nat) : Int) + run.2.2.2).toNat)

/-- The capitals. -/
def capitalBits : Nat := bits (0x130 :: capitalLetters.map (·.1))

/-- The small letters of capitals: the I with a dot above has two characters, and the sigma has two
forms. -/
def smallBits : Nat := bits (0x69 :: 0x307 :: 0x3C2 :: 0x3C3 :: capitalLetters.map (·.2))

/-- The code point is one of the run, tested in the way that is evaluated fastest. -/
def inRun (n : Nat) (run : Nat × Nat × Nat × Int) : Bool :=
  cond (run.1.ble n) (cond (n.ble run.2.1) (((n - run.1) % run.2.2.1).beq 0) false) false

/-- The code point of the small letter, but for the capital I with a dot above. -/
def smallCode (n : Nat) : Nat :=
  match capitals.find? (inRun n) with
  | some run => (n + run.2.2.2).toNat
  | none => n

/-- The pairs that decompose, as a search tree. -/
def pairIndex : Index (Nat × Nat) := (Index.build 11 canonicalPairs).1

/-- What the table of capitals is like beside those of decomposition. -/
structure CapitalTables : Prop where
  /-- A character of a table is a capital exactly if its first part is. -/
  firsts : firstParts.all (fun e => capitalBits.testBit e.1 == capitalBits.testBit e.2) = true
  /-- Neither second parts nor Hangul nor marks are capitals. -/
  apart : (bits (canonicalPairs.map (·.2.2)) ||| hangul.bits ||| marks.bits) &&& capitalBits = 0
  /-- The runs are ranges. -/
  ordered : capitals.all (fun run => decide (run.1 ≤ run.2.1)) = true
  /-- Small letters are characters, and no capitals. -/
  valid : capitalLetters.all (fun e => decide e.2.isValidChar) = true
  small : smallBits &&& capitalBits = 0
  /-- The small letter of a pair is the pair of the small letter, and the same mark. -/
  small_pairs : canonicalPairs.all (fun e => !capitalBits.testBit e.1 || e.1.beq 0x130 ||
    (!e.2.1.beq 0x130 &&
    decide (pairIndex.find? (smallCode e.1) = some (smallCode e.2.1, e.2.2)))) = true
  /-- The small letter of a singleton is that of the other character, or decomposes into it. -/
  small_singletons : canonicalSingletons.all (fun e => !capitalBits.testBit e.1 ||
    (!e.1.beq 0x130 && !e.2.beq 0x130 && (smallCode e.1 == smallCode e.2 ||
      canonicalSingletons.contains (smallCode e.1, smallCode e.2)))) = true

/-! ## Casing -/

/-- A character has a case, or it has none, so that a word ends at it. -/
inductive Casing where
  | cased
  | uncased
deriving DecidableEq

/-- The casing of a code point, or that casing passes over it. -/
def caseOf (n : Nat) : Option Casing :=
  if caseIgnorables.bits.testBit n then none
  else some (if caseds.bits.testBit n then .cased else .uncased)

/-- What the tables of casing are like beside those of decomposition. -/
structure CasingTables : Prop where
  /-- A character of a table is for casing what each of its parts is, or the parts that casing does
  not pass over. -/
  pairs : canonicalPairs.all (fun e =>
    caseOf e.1 == (caseOf e.2.1).or (caseOf e.2.2) &&
      caseOf e.1 == (caseOf e.2.2).or (caseOf e.2.1)) = true
  singletons : canonicalSingletons.all (fun e => caseOf e.1 == caseOf e.2) = true
  /-- Hangul has no case, and casing does not pass over it. -/
  hangul_apart : hangul.bits &&& (caseIgnorables.bits ||| caseds.bits) = 0
  /-- No mark has a case. -/
  marks_apart : marks.bits &&& caseds.bits = 0
  /-- The capital sigma is no first part of another character, and has no parts. -/
  sigma_part : firstParts.all (fun e => e.2 != 0x3A3) = true
  sigma_capital : capitalBits.testBit 0x3A3 = true
  sigma_whole : composites.testBit 0x3A3 = false

/-! ## White space -/

/-- What is no white space: capitals and small letters, what has a case or is passed over by casing,
marks, Hangul, and what decomposes into two parts and these parts. -/
def solid : Nat :=
  capitalBits ||| smallBits ||| caseIgnorables.bits ||| caseds.bits ||| marks.bits ||| hangul.bits |||
    bits (canonicalPairs.map (·.1)) ||| bits (canonicalPairs.map (·.2.1)) |||
    bits (canonicalPairs.map (·.2.2))

/-- What the table of white space is like beside all others. -/
structure BlankTables : Prop where
  apart : solid &&& blanks.bits = 0
  /-- Singletons are white space exactly if what they decompose into is. -/
  singletons : canonicalSingletons.all
    (fun e => blanks.bits.testBit e.1 == blanks.bits.testBit e.2) = true
  /-- Marks are no bases of characters that are made again, nor Hangul. -/
  bases : canonicalPairs.all
    (fun e => !marks.bits.testBit e.2.1 || compositionExclusions.contains e.1) = true
  hangul_marks : hangul.bits &&& marks.bits = 0

/-! ## Evaluation -/

theorem decompositionTables : DecompositionTables where
  ascending_pairs := by decide +kernel
  ascending_singletons := by decide +kernel
  pairs_singletons := by decide +kernel
  outside := by decide +kernel
  whole_seconds := by decide +kernel
  depth_firsts := by decide +kernel
  valid_pairs := by decide +kernel
  valid_singletons := by decide +kernel

theorem capitalTables : CapitalTables where
  firsts := by decide +kernel
  apart := by decide +kernel
  ordered := by decide +kernel
  valid := by decide +kernel
  small := by decide +kernel
  small_pairs := by decide +kernel
  small_singletons := by decide +kernel

theorem casingTables : CasingTables where
  pairs := by decide +kernel
  singletons := by decide +kernel
  hangul_apart := by decide +kernel
  marks_apart := by decide +kernel
  sigma_part := by decide +kernel
  sigma_capital := by decide +kernel
  sigma_whole := by decide +kernel

theorem blankTables : BlankTables where
  apart := by decide +kernel
  singletons := by decide +kernel
  bases := by decide +kernel
  hangul_marks := by decide +kernel

end PeriodText.Text
