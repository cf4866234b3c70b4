/-
Blank characters.

Two classes of blanks occur: `isBlank`, the characters that trimming removes
and that may stand inside a registration call, and `isNumberBlank`, those that
may surround a written integer. They differ on the four information separators
U+001C to U+001F, which are blank but may not surround an integer.
-/
import RouteDoc.Text.Ranges

namespace RouteDoc.Text

/-- The blank characters: spaces, separators of lines and paragraphs, and the controls that act
as such. -/
def blankRanges : Ranges := [
  (0x9, 0xD), (0x1C, 0x20), (0x85, 0x85), (0xA0, 0xA0), (0x1680, 0x1680), (0x2000, 0x200A),
  (0x2028, 0x2029), (0x202F, 0x202F), (0x205F, 0x205F), (0x3000, 0x3000)]

def isBlank (c : Char) : Bool := blankRanges.has c.toNat

/-- Blanks that may stand around a written integer. -/
def isNumberBlank (c : Char) : Bool :=
  isBlank c && !(decide (0x1C ≤ c.toNat) && decide (c.toNat ≤ 0x1F))

/-- `s` without the blanks at its two ends. -/
def trim (s : List Char) : List Char :=
  ((s.dropWhile isBlank).reverse.dropWhile isBlank).reverse

end RouteDoc.Text
