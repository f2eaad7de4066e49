import Stencil.Text.Ranges

namespace Stencil.Text

/-- The characters that the standard lists as white space. -/
def blankRanges : List (Nat × Nat) :=
  [ (0x9, 0xD), (0x20, 0x20), (0x85, 0x85), (0xA0, 0xA0), (0x1680, 0x1680), (0x2000, 0x200A),
    (0x2028, 0x2029), (0x202F, 0x202F), (0x205F, 0x205F), (0x3000, 0x3000)]

/-- A white-space character. -/
def isBlank (c : Char) : Bool :=
  inRanges blankRanges c.toNat

/-- A text without the white space at its end. -/
def trimEnd (t : Text) : Text :=
  t.reverse.dropWhile isBlank |>.reverse

/-- A text without the white space at its two ends. -/
def trim (t : Text) : Text :=
  trimEnd (t.dropWhile isBlank)

end Stencil.Text
