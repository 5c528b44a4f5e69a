import Colloquy.Text.Composed
import Colloquy.Text.Direction
import Colloquy.Text.Joining
import Colloquy.Text.Quoted
import Colloquy.Text.Script
import Colloquy.Url.Letter
import Colloquy.Url.Punycode

/-!
# Labels

The label of a host name is either in ASCII or in other letters, and then it is
written in ASCII by number. Either form is checked in the same way, once it stands
in its own letters. The checks are those of the package for internationalized names.
-/

namespace Colloquy.Url

/-! ## Faults -/

/-- Why a host name is no host name. Positions count from one. -/
inductive NameFault
  | nameTooLong
  | labelTooLong
  | emptyLabel
  | notComposed
  | innerHyphens
  | outerHyphen
  | leadingMark
  | badLetter (c : CodePoint) (position : Nat) (label : Text)
  | badJoiner (c : CodePoint) (position : Nat) (label : Text)
  | badPlace (c : CodePoint) (position : Nat) (label : Text)
  | unknownDirection (position : Nat) (label : Text)
  | noFirstDirection (label : Text)
  | badDirection (position : Nat) (rightToLeft : Bool)
  | mixedFigures
  | badEnd
  | noNumbers
  | endsInHyphen
  | badNumbers
  deriving DecidableEq

/-- A code point by its number. -/
def pointNumber (c : CodePoint) : Text :=
  let digits := Nat.toDigits 16 c
  Text.concat ["U+", (List.replicate (4 - digits.length) '0' ++ digits).map fun d =>
    Text.capital d.toNat]

/-- What a fault says. -/
def NameFault.message : NameFault → Text
  | .nameTooLong => "Domain too long"
  | .labelTooLong => "Label too long"
  | .emptyLabel => "Empty Label"
  | .notComposed => "Label must be in Normalization Form C"
  | .innerHyphens => "Label has disallowed hyphens in 3rd and 4th position"
  | .outerHyphen => "Label must not start or end with a hyphen"
  | .leadingMark => "Label begins with an illegal combining character"
  | .badLetter c position label => Text.concat ["Codepoint ", pointNumber c, " at position ",
      Text.ofNat position, " of ", label.quoted, " not allowed"]
  | .badJoiner c position label => Text.concat ["Unknown codepoint adjacent to joiner ",
      pointNumber c, " at position ", Text.ofNat position, " in ", label.quoted]
  | .badPlace c position label => Text.concat ["Codepoint ", pointNumber c,
      " not allowed at position ", Text.ofNat position, " in ", label.quoted]
  | .unknownDirection position label => Text.concat ["Unknown directionality in label ",
      label.quoted, " at position ", Text.ofNat position]
  | .noFirstDirection label => Text.concat ["First codepoint in label ", label.quoted,
      " must be directionality L, R or AL"]
  | .badDirection position rightToLeft => Text.concat [
      "Invalid direction for codepoint at position ", Text.ofNat position, " in a ",
      if rightToLeft then Text.ofString "right-to-left" else Text.ofString "left-to-right",
      " label"]
  | .mixedFigures => "Can not mix numeral types in a right-to-left label"
  | .badEnd => "Label ends with illegal codepoint directionality"
  | .noNumbers => "Malformed A-label, no Punycode eligible content found"
  | .endsInHyphen => "A-label must not end with a hyphen"
  | .badNumbers => "Invalid A-label"

/-! ## Code points -/

/-- Whether the nearest code point that letters do not join across joins in one of the given
ways. -/
def nearestJoins (side : Text) (ways : List Text.Joining) : Bool :=
  match side.find? fun c => Text.joining? c ≠ some .transparent with
  | some c => ways.any fun way => Text.joining? c = some way
  | none => false

/-- Whether a joiner may stand between two sides, of which `before` is in reverse: after a virama,
and the one that keeps letters apart also between letters that would join. -/
def joinerFits (c : CodePoint) (before after : Text) : Bool :=
  match before with
  | [] => false
  | previous :: _ =>
    (Text.direction? previous).isSome
      && (Text.isVirama previous
        || (c == 0x200c && nearestJoins before [.left, .both]
          && nearestJoins after [.right, .both]))

/-- Whether a code point is one of the figures of Arabic, of its western or its eastern form. -/
def isArabicFigure (eastern : Bool) (c : CodePoint) : Bool :=
  if eastern then 0x6f0 ≤ c && c ≤ 0x6f9 else 0x660 ≤ c && c ≤ 0x669

/-- Whether a sign may stand in a label between two sides, of which `before` is in reverse; none
for a code point that is no sign with such a rule. -/
def signFits? (label : Text) (c : CodePoint) (before after : Text) : Option Bool :=
  if c = 0xb7 then some (before.head? == some 0x6c && after.head? == some 0x6c)
  else if c = 0x375 then some (after.head?.any Text.isGreek)
  else if c = 0x5f3 ∨ c = 0x5f4 then some (before.head?.any Text.isHebrew)
  else if c = 0x30fb then some (label.any Text.isJapanese)
  else if isArabicFigure false c then some (!label.any (isArabicFigure true))
  else if isArabicFigure true c then some (!label.any (isArabicFigure false))
  else none

/-- Checks the code points of a label from some place on; `before` is in reverse. -/
def checkPoints (label before : Text) : Text → Except NameFault Unit
  | [] => .ok ()
  | c :: after =>
    let position := before.length + 1
    let fault? : Option NameFault :=
      if isLabelLetter c then none
      else if Text.isJoiner c then
        if joinerFits c before after then none else some (.badJoiner c position label)
      else match signFits? label c before after with
        | some true => none
        | some false => some (.badPlace c position label)
        | none => some (.badLetter c position label)
    match fault? with
    | some fault => .error fault
    | none => checkPoints label (c :: before) after

/-! ## Direction -/

/-- Checks the code points of a label that runs from right to left. All figures in it are of one
kind: of that of `figures`, once there are any. -/
def checkRightToLeft (position : Nat) (figures : Option Text.Direction) :
    List Text.Direction → Except NameFault Unit
  | [] => .ok ()
  | d :: rest =>
    if d = .leftToRight then .error (.badDirection position true)
    else if d = .arabicNumber ∨ d = .europeanNumber then
      if figures = none ∨ figures = some d then checkRightToLeft (position + 1) (some d) rest
      else .error .mixedFigures
    else checkRightToLeft (position + 1) figures rest

/-- Whether a direction makes a label one that has to obey the rule of directions. -/
def runsLeft (d : Text.Direction) : Bool :=
  d = .rightToLeft || d = .arabic || d = .arabicNumber

/-- Checks the code points of a label that runs from left to right. -/
def checkLeftToRight (directions : List Text.Direction) : Except NameFault Unit :=
  match directions.findIdx? runsLeft with
  | some i => .error (.badDirection (i + 1) false)
  | none => .ok ()

/-- Whether a label may end with a direction, marks aside. -/
def mayEnd (rightToLeft : Bool) (d : Text.Direction) : Bool :=
  d = .europeanNumber || (if rightToLeft then runsLeft d else d = .leftToRight)

/-- The directions of the code points of a label. -/
def directionsOf (label : Text) : Except NameFault (List Text.Direction) :=
  match label.findIdx? fun c => (Text.direction? c).isNone with
  | some i => .error (.unknownDirection (i + 1) label)
  | none => .ok (label.filterMap Text.direction?)

/-- Checks the directions in a label. A label in which nothing runs from right to left may be of
any form. Any other has to begin with a letter, whose direction is that of the label. -/
def checkDirections (label : Text) : Except NameFault Unit := do
  let directions ← directionsOf label
  if !directions.any runsLeft then return
  let rightToLeft ← match directions.head? with
    | some .rightToLeft => pure true
    | some .arabic => pure true
    | some .leftToRight => pure false
    | _ => throw (.noFirstDirection label)
  if rightToLeft then checkRightToLeft 1 none directions else checkLeftToRight directions
  match directions.reverse.find? (· ≠ .nonspacing) with
  | some last => if mayEnd rightToLeft last then return else throw .badEnd
  | none => throw .badEnd

/-! ## Labels -/

/-- The greatest length of a name with a dot at its end. -/
def maxNameLength : Nat := 254

/-- The greatest length of a label in ASCII. -/
def maxLabelLength : Nat := 63

/-- Checks a label in its own letters. -/
def checkLabel (label : Text) : Except NameFault Unit := do
  if label = [] then throw .emptyLabel
  if maxNameLength < label.length then throw .labelTooLong
  if !Text.isComposed label then throw .notComposed
  if (label.drop 2).take 2 = [0x2d, 0x2d] then throw .innerHyphens
  if label.head? = some 0x2d ∨ label.getLast? = some 0x2d then throw .outerHyphen
  if label.head?.any Text.isMark then throw .leadingMark
  checkPoints label [] label
  checkDirections label

/-- What a label by number begins with. -/
def numberMark : Text := "xn--"

/-- A label in ASCII in the letters that it stands for. -/
def readLabel (label : Text) : Except NameFault Text := do
  let label := label.map Text.small
  if Text.startsWith label numberMark then
    let numbers := label.drop numberMark.length
    if numbers = [] then throw .noNumbers
    if numbers.getLast? = some 0x2d then throw .endsInHyphen
    match Punycode.decode? numbers with
    | none => throw .badNumbers
    | some label =>
      checkLabel label
      return label
  else
    checkLabel label
    return label

/-- A label, in small letters, in ASCII. -/
def writeLabel (label : Text) : Except NameFault Text := do
  let written ←
    if label.all (· < 0x80) then do
      let _ ← readLabel label
      pure label
    else do
      checkLabel label
      pure (Text.concat [numberMark, Punycode.encode label])
  if maxLabelLength < written.length then throw .labelTooLong
  return written

end Colloquy.Url
