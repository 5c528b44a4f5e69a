import Colloquy.Text.Ranges

/-!
# Blanks

The code points that count as white space at the ends of a text.
-/

namespace Colloquy.Text

/-- The ranges of white space. -/
def blankRanges : List (CodePoint × CodePoint) := [
  (0x9, 0xd), (0x1c, 0x20), (0x85, 0x85), (0xa0, 0xa0), (0x1680, 0x1680), (0x2000, 0x200a),
  (0x2028, 0x2029), (0x202f, 0x202f), (0x205f, 0x205f), (0x3000, 0x3000)]

/-- Whether a code point is white space. The four separators below the space are, the
zero-width space is not. -/
def isBlank (c : CodePoint) : Bool :=
  inRanges c blankRanges

/-- Text without the white space at both ends. -/
def strip (text : Text) : Text :=
  stripBy isBlank text

end Colloquy.Text
