import Colloquy.Text.Mark
import Colloquy.Text.Printable

/-!
# Direction

Some scripts run from right to left, and a mark runs with its letter. What is said
here of a code point holds of those that the label of a host name may have: small
letters, marks, figures, hyphens and joiners.
-/

namespace Colloquy.Text

/-- The ways in which a code point takes part in the direction of a text. -/
inductive Direction
  | leftToRight
  | rightToLeft
  | arabic
  | arabicNumber
  | europeanNumber
  | separator
  | neutral
  | boundary
  | nonspacing
  deriving DecidableEq

/-- The ranges that run from right to left, other than those of Arabic. -/
def rightToLeftRanges : List (CodePoint × CodePoint) := [
  (0x5d0, 0x5f4), (0x7c0, 0x858), (0x10800, 0x10cf2), (0x10e80, 0x10f27), (0x10f70, 0x10ff6),
  (0x1e800, 0x1e959)]

/-- The ranges of Arabic letters and of scripts like it. -/
def arabicRanges : List (CodePoint × CodePoint) := [
  (0x620, 0x64a), (0x66e, 0x6ef), (0x6fa, 0x7b1), (0x860, 0x8c9), (0xfe73, 0xfe73),
  (0x10d00, 0x10d23), (0x10f30, 0x10f45)]

/-- The ranges of figures that run with Arabic letters. -/
def arabicNumberRanges : List (CodePoint × CodePoint) := [
  (0x660, 0x669), (0x10d30, 0x10d39)]

/-- The ranges of figures that run with any letters. -/
def europeanNumberRanges : List (CodePoint × CodePoint) := [
  (0x30, 0x39), (0x6f0, 0x6f9)]

/-- The ranges of what has no direction of its own. -/
def neutralRanges : List (CodePoint × CodePoint) := [
  (0xb7, 0xb7), (0x2b9, 0x2ba), (0x2c6, 0x2cf), (0x2ec, 0x2ec), (0x375, 0x375), (0x2e2f, 0x2e2f),
  (0x30fb, 0x30fb), (0xa67f, 0xa67f), (0xa717, 0xa71f), (0xa788, 0xa788)]

/-- The ranges of marks without room of their own that have a direction nevertheless. -/
def directedMarkRanges : List (CodePoint × CodePoint) := [
  (0xcbf, 0xcbf), (0xcc6, 0xcc6), (0x11a07, 0x11a08), (0x11c3f, 0x11c3f)]

/-- Whether a code point is one of the two joiners, which are not seen. -/
def isJoiner (c : CodePoint) : Bool :=
  c == 0x200c || c == 0x200d

/-- The direction of a code point, none when it is not assigned. -/
def direction? (c : CodePoint) : Option Direction :=
  if isJoiner c then some .boundary
  else if !isPrintable c then none
  else if isNonspacing c && !inRanges c directedMarkRanges then some .nonspacing
  else if inRanges c rightToLeftRanges then some .rightToLeft
  else if inRanges c arabicRanges then some .arabic
  else if inRanges c arabicNumberRanges then some .arabicNumber
  else if inRanges c europeanNumberRanges then some .europeanNumber
  else if inRanges c neutralRanges then some .neutral
  else if c = 0x2d then some .separator
  else some .leftToRight

end Colloquy.Text
