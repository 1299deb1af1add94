import PeriodText.Text.Ranges

/-!
# White space

The white space of Unicode 14 together with the four ASCII separators U+001C to U+001F. Text is
trimmed of it on both sides, and split into words between it.
-/

set_option autoImplicit false

namespace PeriodText.Text

/-- The code points that count as white space. -/
def blanks : Ranges :=
  [(0x9, 0xD), (0x1C, 0x20), (0x85, 0x85), (0xA0, 0xA0), (0x1680, 0x1680), (0x2000, 0x200A),
    (0x2028, 0x2029), (0x202F, 0x202F), (0x205F, 0x205F), (0x3000, 0x3000)]

/-- The character is white space. -/
def isBlank (c : Char) : Bool := blanks.has c.toNat

/-- The text without the white space at its two ends. -/
def strip (text : List Char) : List Char :=
  ((text.dropWhile isBlank).reverse.dropWhile isBlank).reverse

/-- The words of a text, in order: its maximal runs of characters that are not white space. -/
def words (text : List Char) : List (List Char) :=
  (text.splitOnP isBlank).filter (!·.isEmpty)

end PeriodText.Text
