import TableGateway.Text.CodeRange

/-!
# Blank characters

The characters with the Unicode property `White_Space`. Numbers given as text may be surrounded by
them.
-/

namespace TableGateway.Text

/-- The ranges of code points with the property `White_Space`, ends included. -/
def blankRanges : RangeTable where
  ranges :=
    [(0x09, 0x0D), (0x20, 0x20), (0x85, 0x85), (0xA0, 0xA0), (0x1680, 0x1680), (0x2000, 0x200A),
      (0x2028, 0x2029), (0x202F, 0x202F), (0x205F, 0x205F), (0x3000, 0x3000)]
  ascend := by decide

/-- Whether a character is blank. -/
def isBlank (c : Char) : Bool := blankRanges.holds c.toNat

/-- A text without the blank characters at its two ends. -/
def trimBlank (cs : List Char) : List Char :=
  ((cs.dropWhile isBlank).reverse.dropWhile isBlank).reverse

end TableGateway.Text
