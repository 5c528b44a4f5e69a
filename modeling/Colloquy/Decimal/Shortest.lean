import Colloquy.Text.Digit

/-!
# The shortest decimal of a float

Among the decimals that read back as a given float, the shortest is shown, and of
those of one length the nearest. A positive finite float is `m * 2 ^ q`; the reals
that round to it form an interval around it, whose ends belong to it when `m` is
even. On the grid of decimals with a given number of digits it is enough to look
at the two neighbours of the float.
-/

namespace Colloquy.Decimal

/-- A decimal: `digits * 10 ^ exponent`. -/
structure Scaled where
  digits : Nat
  exponent : Int
  deriving DecidableEq, Repr

/-! ## Floats as binary fractions -/

/-- The magnitude of a finite float as `mantissa * 2 ^ exponent`. -/
structure Binary where
  mantissa : Nat
  exponent : Int
  deriving DecidableEq, Repr

/-- The bit that tells the sign of a float. -/
def signBit : Nat := 0x8000000000000000

/-- The leading bit of a mantissa, which the bits of a float leave out. -/
def hiddenBit : Nat := 0x10000000000000

/-- The magnitude that the bits of a finite float stand for. -/
def Binary.ofBits (bits : Nat) : Binary :=
  let field : Nat := bits / hiddenBit % 0x800
  let fraction : Nat := bits % hiddenBit
  if field = 0 then ⟨fraction, -1074⟩ else ⟨fraction + hiddenBit, (field : Int) - 1075⟩

/-- A fraction of naturals. -/
structure Fraction where
  num : Nat
  den : Nat

/-- `n * base ^ e` as a fraction of naturals. -/
def Fraction.scale (n base : Nat) (e : Int) : Fraction :=
  match e with
  | .ofNat k => ⟨n * base.pow k, 1⟩
  | .negSucc k => ⟨n, base.pow (k + 1)⟩

/-- Whether one fraction is at most another. -/
def Fraction.le (a b : Fraction) : Bool :=
  a.num * b.den ≤ b.num * a.den

/-- Whether one fraction is below another. -/
def Fraction.lt (a b : Fraction) : Bool :=
  a.num * b.den < b.num * a.den

/-- The reals that round to a float: the two ends and whether they belong to it. -/
structure Interval where
  low : Fraction
  high : Fraction
  closed : Bool

/-- The interval of a positive finite float. Below a power of two the floats lie twice as dense,
so the lower half of the interval is half as wide there. -/
def Binary.interval (b : Binary) : Interval :=
  let dense := b.mantissa = hiddenBit ∧ b.exponent ≠ -1074
  ⟨.scale (4 * b.mantissa - if dense then 1 else 2) 2 (b.exponent - 2),
    .scale (4 * b.mantissa + 2) 2 (b.exponent - 2), b.mantissa % 2 = 0⟩

/-- Whether a fraction lies in an interval. -/
def Interval.holds (i : Interval) (x : Fraction) : Bool :=
  if i.closed then i.low.le x && x.le i.high else i.low.lt x && x.lt i.high

/-! ## The search -/

/-- The number of decimal digits of a natural number, zero for zero. -/
def digitCount (n : Nat) : Nat :=
  if n = 0 then 0 else (Nat.toDigits 10 n).length

/-- The number of zeros after the point before the first digit of a fraction below one, at
most `fuel`. -/
def leadingZeros (fuel : Nat) (x : Fraction) : Nat :=
  match fuel with
  | 0 => 0
  | fuel + 1 => if x.den ≤ x.num * 10 then 0 else leadingZeros fuel ⟨x.num * 10, x.den⟩ + 1

/-- The place of the point: a positive fraction lies below `10 ^ k` and not below
`10 ^ (k - 1)`. -/
def pointPlace (x : Fraction) : Int :=
  if x.den ≤ x.num then digitCount (x.num / x.den) else -(leadingZeros 330 x)

/-- The nearer of the two neighbours of `x` on the grid of multiples of `10 ^ e` that lie in
the interval. -/
def onGrid (x : Fraction) (i : Interval) (e : Int) : Option Scaled :=
  let unit := Fraction.scale 1 10 (-e)
  let scaled : Fraction := ⟨x.num * unit.num, x.den * unit.den⟩
  let below := scaled.num / scaled.den
  let left := scaled.num % scaled.den
  let fits (d : Nat) : Bool := i.holds (.scale d 10 e)
  let lowFits := below ≠ 0 ∧ fits below
  let highFits := fits (below + 1)
  let nearer := if 2 * left < scaled.den ∨ (2 * left = scaled.den ∧ below % 2 = 0) then below
    else below + 1
  if lowFits ∧ highFits then some ⟨nearer, e⟩
  else if lowFits then some ⟨below, e⟩
  else if highFits then some ⟨below + 1, e⟩
  else none

/-- The shortest decimal of at least `count` digits. -/
def searchFrom (x : Fraction) (i : Interval) (place : Int) (fuel count : Nat) : Scaled :=
  match fuel with
  | 0 => ⟨0, 0⟩
  | fuel + 1 =>
    match onGrid x i (place - count) with
    | some found => found
    | none => searchFrom x i place fuel (count + 1)

/-- A decimal without zeros at its end. -/
def Scaled.trim (fuel : Nat) (d : Scaled) : Scaled :=
  match fuel with
  | 0 => d
  | fuel + 1 =>
    if d.digits ≠ 0 ∧ d.digits % 10 = 0 then Scaled.trim fuel ⟨d.digits / 10, d.exponent + 1⟩ else d

/-- The shortest decimal that reads back as a positive finite float. Seventeen digits always
do. -/
def shortest (b : Binary) : Scaled :=
  let x := Fraction.scale b.mantissa 2 b.exponent
  (searchFrom x b.interval (pointPlace x) 18 1).trim 18

end Colloquy.Decimal
