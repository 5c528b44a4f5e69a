import Colloquy.Decimal.Shortest
import Colloquy.Text.Blank

/-!
# Reading decimals

A decimal numeral is rounded to the nearest float. Free text may also hold blanks
at its ends, digits of any script, underscores between digits, and the names of
the values that are no finite numbers.
-/

namespace Colloquy.Decimal

/-- The float nearest to `mantissa * 10 ^ exponent`. Exponents far outside the range of floats
are settled by the number of digits alone. -/
def nearestFloat (negative : Bool) (mantissa : Nat) (exponent : Int) : Float :=
  let magnitude : Float :=
    let place := exponent + digitCount mantissa
    if mantissa = 0 then 0.0
    else if 400 < place then 1.0 / 0.0
    else if place < -400 then 0.0
    else match exponent with
      | .ofNat e => Float.ofScientific mantissa false e
      | .negSucc e => Float.ofScientific mantissa true (e + 1)
  if negative then -magnitude else magnitude

/-- The number that a row of ASCII digits stands for. -/
def natOfDigits (digits : Text) : Nat :=
  digits.foldl (fun n c => n * 10 + (c - 0x30)) 0

/-- A decimal numeral: its sign, the digits before and after the point, and the exponent. -/
structure Numeral where
  negative : Bool
  whole : Text
  fraction : Text
  exponent : Int

/-- The float nearest to a numeral. -/
def Numeral.toFloat (n : Numeral) : Float :=
  nearestFloat n.negative (natOfDigits (n.whole ++ n.fraction)) (n.exponent - n.fraction.length)

/-- A sign at the front of a text, and the rest. -/
def takeSign : Text → Bool × Text
  | 0x2d :: rest => (true, rest)
  | 0x2b :: rest => (false, rest)
  | text => (false, text)

/-- The exponent that makes up the whole of a text, zero when it is empty. -/
def exponent? : Text → Option Int
  | [] => some 0
  | e :: rest =>
    if e = 0x65 ∨ e = 0x45 then
      let (negative, digits) := takeSign rest
      if digits ≠ [] ∧ digits.all Text.isAsciiDigit then
        some (if negative then -(natOfDigits digits) else natOfDigits digits)
      else none
    else none

/-- The numeral that makes up the whole of a text. A digit has to stand before or after the
point. -/
def numeral? (text : Text) : Option Numeral :=
  let (negative, unsigned) := takeSign text
  let whole := unsigned.takeWhile Text.isAsciiDigit
  let afterWhole := unsigned.dropWhile Text.isAsciiDigit
  let (fraction, tail) : Text × Text := match afterWhole with
    | 0x2e :: rest => (rest.takeWhile Text.isAsciiDigit, rest.dropWhile Text.isAsciiDigit)
    | rest => ([], rest)
  if whole = [] ∧ fraction = [] then none
  else (exponent? tail).map fun e => ⟨negative, whole, fraction, e⟩

/-- The value that a name stands for: infinity or no number, in letters of either case. -/
def named? (text : Text) : Option Float :=
  let (negative, name) := takeSign text
  let small := name.map Text.small
  if small = "inf" ∨ small = "infinity" then
    some (if negative then -(1.0 / 0.0) else 1.0 / 0.0)
  else if small = "nan" then some (0.0 / 0.0)
  else none

/-- Text without underscores, when each of them stands between two digits. -/
def dropUnderscores? (previousDigit : Bool) : Text → Option Text
  | [] => some []
  | 0x5f :: next :: rest =>
    if previousDigit ∧ Text.isAsciiDigit next then
      (dropUnderscores? true rest).map (next :: ·)
    else none
  | 0x5f :: [] => none
  | c :: rest => (dropUnderscores? (Text.isAsciiDigit c) rest).map (c :: ·)

/-- A decimal digit of any script as the one of ASCII. -/
def asciiDigit (c : CodePoint) : CodePoint :=
  match Text.decimalValue? c with
  | some value => 0x30 + value
  | none => c

/-- Whether a code point may stand around a number. The four information separators may not,
although they are white space elsewhere. -/
def isPadding (c : CodePoint) : Bool :=
  Text.isBlank c && !(0x1c ≤ c && c ≤ 0x1f)

/-- The float that a free text stands for. -/
def float? (text : Text) : Option Float :=
  let trimmed := Text.stripBy isPadding (text.map asciiDigit)
  match dropUnderscores? false trimmed with
  | none => none
  | some plain =>
    match named? plain with
    | some value => some value
    | none => (numeral? plain).map Numeral.toFloat

/-! ## Integers -/

/-- The greatest number of digits of an integer that is read or written. -/
def digitLimit : Nat := 4300

/-- Why a free text is no integer. -/
inductive IntegerFault
  | malformed
  | tooManyDigits (count : Nat)
  deriving DecidableEq

/-- Digits without the underscores between them, when each underscore stands between two
digits. -/
def plainDigits? (row : Text) : Option Text :=
  if row.head? = some 0x5f ∨ row.getLast? = some 0x5f ∨ Text.includes row "__" then none
  else some (row.filter Text.isAsciiDigit)

/-- The integer that a free text stands for. A row of too many digits is not read, whatever
follows it. -/
def readInteger (text : Text) : Except IntegerFault Int :=
  let (negative, unsigned) := takeSign (Text.stripBy isPadding (text.map asciiDigit))
  let isRow (c : CodePoint) : Bool := Text.isAsciiDigit c || c == 0x5f
  match plainDigits? (unsigned.takeWhile isRow) with
  | none => .error .malformed
  | some digits =>
    if digitLimit < digits.length then .error (.tooManyDigits digits.length)
    else if digits = [] ∨ unsigned.dropWhile isRow ≠ [] then .error .malformed
    else .ok (if negative then -(natOfDigits digits) else natOfDigits digits)

end Colloquy.Decimal
