import Colloquy.Decimal.Shortest

/-!
# Layout of floats

Where a float is written with an exponent, how the exponent looks, and the names
of the values that are no numbers are decisions of each output format. They are
one record; the digits are the same everywhere.
-/

namespace Colloquy.Decimal

/-- How a format writes floats. -/
structure Layout where
  /-- The least place of the point that is written without an exponent. -/
  lowestPlace : Int
  /-- The greatest place of the point that is written without an exponent. -/
  highestPlace : Int
  /-- The least number of digits of an exponent. -/
  exponentWidth : Nat
  /-- The text of the value that is no number. -/
  notANumber : Text
  /-- The text of positive infinity. -/
  infinity : Text
  /-- The text of negative infinity. -/
  negativeInfinity : Text

/-- A row of zeros. -/
def zeros (count : Nat) : Text :=
  List.replicate count 0x30

/-- Text with zeros in front up to a width. -/
def padLeft (width : Nat) (text : Text) : Text :=
  zeros (width - text.length) ++ text

/-- A decimal without an exponent, with at least one digit on each side of the point. -/
def positional (digits : Text) (place : Int) : Text :=
  match place with
  | .ofNat k =>
    if k = 0 then "0." ++ digits
    else if digits.length ≤ k then digits ++ zeros (k - digits.length) ++ ".0"
    else Text.concat [digits.take k, ".", digits.drop k]
  | .negSucc k => Text.concat ["0.", zeros (k + 1), digits]

/-- A decimal with one digit before the point and an exponent, whose sign is always written. -/
def withExponent (layout : Layout) (digits : Text) (place : Int) : Text :=
  let exponent := place - 1
  let sign : Text := if exponent < 0 then "-" else "+"
  let fraction : Text := match digits.tail with
    | [] => []
    | rest => Text.concat [".", rest]
  Text.concat [digits.take 1, fraction, "e", sign,
    padLeft layout.exponentWidth (Text.ofNat exponent.natAbs)]

/-- The text of a positive decimal. -/
def Layout.ofScaled (layout : Layout) (d : Scaled) : Text :=
  let digits := Text.ofNat d.digits
  let place := d.exponent + digits.length
  if layout.lowestPlace ≤ place ∧ place ≤ layout.highestPlace then positional digits place
  else withExponent layout digits place

/-- The text of a float. -/
def Layout.ofFloat (layout : Layout) (x : Float) : Text :=
  if x.isNaN then layout.notANumber
  else
    let bits := x.toBits.toNat
    let negative := signBit ≤ bits
    if x.isInf then
      if negative then layout.negativeInfinity else layout.infinity
    else
      let b := Binary.ofBits (bits % signBit)
      let magnitude : Text :=
        if b.mantissa = 0 then "0.0" else layout.ofScaled (shortest b)
      if negative then "-" ++ magnitude else magnitude

/-- The layout of floats in messages. -/
def Layout.plain : Layout where
  lowestPlace := -3
  highestPlace := 16
  exponentWidth := 2
  notANumber := "nan"
  infinity := "inf"
  negativeInfinity := "-inf"

/-- The layout of floats in documents. -/
def Layout.document : Layout :=
  { Layout.plain with notANumber := "NaN", infinity := "Infinity", negativeInfinity := "-Infinity" }

/-- The layout of floats in tool output, where what is no finite number is null. -/
def Layout.compact : Layout where
  lowestPlace := -4
  highestPlace := 16
  exponentWidth := 1
  notANumber := "null"
  infinity := "null"
  negativeInfinity := "null"

end Colloquy.Decimal
