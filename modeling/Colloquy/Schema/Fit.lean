import Colloquy.Decimal.Reader
import Colloquy.Schema.Basic

/-!
# Fitting values to a shape

A value that was read fits a shape when it can be taken as one of that shape
without loss: a whole float or its text is an integer, a word is a truth value.
Otherwise every fault is listed with the path to it, in the order of the fields.
These are rules of the library for data models, for its models of this kind.
-/

namespace Colloquy

/-- What is wrong with a value at a place. -/
inductive Misfit
  | missing
  | noText
  | noObject
  | noList
  | noInteger
  | fractional
  | noIntegerText
  | integerTooLong
  | notFinite
  | noTruth
  | unknownTruth
  | noNumber
  | noNumberText
  deriving DecidableEq

/-- What is wrong, in words. -/
def Misfit.message : Misfit → Text
  | .missing => "Field required"
  | .noText => "Input should be a valid string"
  | .noObject => "Input should be an object"
  | .noList => "Input should be a valid array"
  | .noInteger => "Input should be a valid integer"
  | .fractional => "Input should be a valid integer, got a number with a fractional part"
  | .noIntegerText => "Input should be a valid integer, unable to parse string as an integer"
  | .integerTooLong => "Unable to parse input string as an integer, exceeded maximum size"
  | .notFinite => "Input should be a finite number"
  | .noTruth => "Input should be a valid boolean"
  | .unknownTruth => "Input should be a valid boolean, unable to interpret input"
  | .noNumber => "Input should be a valid number"
  | .noNumberText => "Input should be a valid number, unable to parse string as a number"

/-- A fault and the names and positions that lead to it. -/
structure ShapeFault where
  path : List Text
  misfit : Misfit

/-- The fault one step further from the root. -/
def ShapeFault.under (step : Text) (fault : ShapeFault) : ShapeFault :=
  { fault with path := step :: fault.path }

/-- What fitting a value gives: the value as one of the shape, or every fault. -/
abbrev Fitted := Except (List ShapeFault) Value

namespace Shape

/-- A single fault at the value itself. -/
def misfit (m : Misfit) : Fitted :=
  .error [⟨[], m⟩]

/-! ## Numbers and truth values -/

/-- The white space that may stand around a number: the standard one, without the four
information separators. -/
def isPadding (c : CodePoint) : Bool :=
  Decimal.isPadding c

/-- The integer that a plain numeral stands for: zero, or digits that do not begin with it, with a
minus sign in front or none. A row of too many digits is not read, whatever follows it. -/
def integerOfPlain (text : Text) : Except Misfit Int :=
  let (negative, unsigned) : Bool × Text := match text with
    | 0x2d :: rest => (true, rest)
    | _ => (false, text)
  let digits := unsigned.takeWhile Text.isAsciiDigit
  let rest := unsigned.drop digits.length
  if digits = [] ∨ (digits.head? = some 0x30 ∧ 1 < digits.length) then .error .noIntegerText
  else if Decimal.digitLimit < text.length - rest.length then .error .integerTooLong
  else if rest ≠ [] then .error .noIntegerText
  else .ok (if negative then -(Decimal.natOfDigits digits) else Decimal.natOfDigits digits)

/-- A numeral from the first digit that counts on: zeros and the underscores between them are left
out before another digit, a minus sign or a point, which keeps what stands before it. -/
def dropZeros? : Text → Option Text
  | [] => none
  | c :: rest =>
    if (0x31 ≤ c ∧ c ≤ 0x39) ∨ c = 0x2d then some (c :: rest)
    else if c ≠ 0x30 then none
    else
      let zeros := (c :: rest).takeWhile fun d => d = 0x30 ∨ d = 0x5f
      match (c :: rest).drop zeros.length with
      | [] => some (zeros.drop (zeros.length - 1))
      | d :: after =>
        if (0x31 ≤ d ∧ d ≤ 0x39) ∨ d = 0x2d then some (d :: after)
        else if d = 0x2e then some (zeros.drop (zeros.length - 1) ++ d :: after)
        else none

/-- A numeral without the zeros after its point, and without the point. -/
def dropFraction? (text : Text) : Option Text :=
  match Text.splitFirst [0x2e] text with
  | none => some text
  | some (whole, fraction) =>
    if fraction ≠ [] ∧ fraction.all (· = 0x30) then some whole else none

/-- A text without its underscores, when there are none at its ends and no two side by side. -/
def dropUnderscores? (text : Text) : Option Text :=
  if text.head? = some 0x5f ∨ text.getLast? = some 0x5f ∨ Text.includes text "__" then none
  else some (text.filter (· ≠ 0x5f))

/-- A numeral without what need not be there: blanks around it, a plus sign, zeros in front,
zeros after the point, underscores. -/
def tidyNumeral? (text : Text) : Option Text := do
  let trimmed := Text.stripBy isPadding text
  let unsigned ← match trimmed with
    | 0x2b :: 0x2d :: _ => none
    | 0x2b :: rest => some rest
    | _ => some trimmed
  let whole ← dropFraction? (← dropZeros? unsigned)
  return (dropUnderscores? whole).getD whole

/-- The integer that a text stands for. -/
def integerOfText (text : Text) : Fitted :=
  let found := match integerOfPlain text with
    | .error .noIntegerText =>
      match tidyNumeral? text with
      | some tidy => integerOfPlain tidy
      | none => .error .noIntegerText
    | found => found
  match found with
  | .ok i => .ok (.int i)
  | .error m => misfit m

/-- The number from which on integers fit no machine word of 64 bits. -/
def wordBound : Nat := 0x8000000000000000

/-- Whether an integer is a machine word of 64 bits. -/
def isWord (i : Int) : Bool :=
  -(wordBound : Int) ≤ i && i < wordBound

/-- The integer that a float is. Floats from the ends of the words on are too large. -/
def integerOfFloat (x : Float) : Fitted :=
  if x.isNaN || x.isInf then misfit .notFinite
  else match Value.intOfFloat? x with
    | some i => if i.natAbs < wordBound then .ok (.int i) else misfit .integerTooLong
    | none => misfit .fractional

/-- The integer that a value stands for. -/
def integerOf : Value → Fitted
  | .int i => .ok (.int i)
  | .bool b => .ok (.int (Value.intOfBool b))
  | .float x => integerOfFloat x
  | .text t => integerOfText t
  | _ => misfit .noInteger

/-- The words for the truth values, in letters of either case. -/
def truthWords : List (Text × Bool) :=
  [("0", false), ("f", false), ("n", false), ("no", false), ("off", false), ("false", false),
    ("1", true), ("t", true), ("y", true), ("on", true), ("yes", true), ("true", true)]

/-- The truth value that an integer stands for. -/
def truthOfInt (i : Int) : Fitted :=
  if i = 0 then .ok (.bool false)
  else if i = 1 then .ok (.bool true)
  else misfit .unknownTruth

/-- The truth value that a value stands for. -/
def truthOf : Value → Fitted
  | .bool b => .ok (.bool b)
  | .int i => if isWord i then truthOfInt i else misfit .noTruth
  | .float x =>
    match integerOfFloat x with
    | .ok (.int i) => truthOfInt i
    | _ => misfit .noTruth
  | .text t =>
    match Assoc.get? truthWords (t.map Text.small) with
    | some b => .ok (.bool b)
    | none => misfit .unknownTruth
  | _ => misfit .noTruth

/-- The float that a numeral or the name of a float stands for. -/
def floatOfPlain? (text : Text) : Option Float :=
  match Decimal.named? text with
  | some x => some x
  | none => (Decimal.numeral? text).map Decimal.Numeral.toFloat

/-- The float that a text stands for. There may be blanks around it, or underscores in it. -/
def floatOfText? (text : Text) : Option Float :=
  match floatOfPlain? (Text.stripBy isPadding text) with
  | some x => some x
  | none => (dropUnderscores? text).bind floatOfPlain?

/-- The float that a value stands for. -/
def numberOf : Value → Fitted
  | .float x => .ok (.float x)
  | .int i =>
    if isWord i then .ok (.float (Decimal.nearestFloat (i < 0) i.natAbs 0)) else misfit .noNumber
  | .bool b => .ok (.float (if b then 1.0 else 0.0))
  | .text t =>
    match floatOfText? t with
    | some x => .ok (.float x)
    | none => misfit .noNumberText
  | _ => misfit .noNumber

/-! ## Shapes -/

/-- Both results, or the faults of both. -/
def both (first : Except (List ShapeFault) α) (rest : Except (List ShapeFault) β)
    (join : α → β → γ) : Except (List ShapeFault) γ :=
  match first, rest with
  | .ok a, .ok b => .ok (join a b)
  | .ok _, .error faults => .error faults
  | .error faults, .ok _ => .error faults
  | .error faults, .error more => .error (faults ++ more)

/-- A result whose faults lie one step further from the root. -/
def under (step : Text) (result : Except (List ShapeFault) α) : Except (List ShapeFault) α :=
  result.mapError fun faults => faults.map (·.under step)

/-- The items of a list, fitted one by one from a position on. -/
def fitItems (fit : Value → Fitted) (position : Nat) :
    List Value → Except (List ShapeFault) (List Value)
  | [] => .ok []
  | item :: rest =>
    both (under (Text.ofNat position) (fit item)) (fitItems fit (position + 1) rest) List.cons

mutual

/-- A value taken as one of a shape. -/
def fit : Shape → Value → Fitted
  | .text, value =>
    match value with
    | .text t => .ok (.text t)
    | _ => misfit .noText
  | .integer, value => integerOf value
  | .number, value => numberOf value
  | .boolean, value => truthOf value
  | .list item, value =>
    match value with
    | .list items => (fitItems (fun v => fit item v) 0 items).map .list
    | _ => misfit .noList
  | .record _ fields, value =>
    match value with
    | .object given => (fitFields fields given).map .object
    | _ => misfit .noObject

/-- The fields of a record, taken from those of an object. Others are left out. -/
def fitFields : List (Text × Shape × Option Value) → Fields → Except (List ShapeFault) Fields
  | [], _ => .ok []
  | (name, shape, fallback) :: rest, given =>
    let own : Fitted := match Assoc.get? given name with
      | some value => fit shape value
      | none =>
        match fallback with
        | some value => .ok value
        | none => misfit .missing
    both (under name own) (fitFields rest given) fun value others => (name, value) :: others

end

end Shape

end Colloquy
