import Colloquy.Json.Reader

/-!
# Reading arguments strictly

The arguments of a tool are read by a second reader, that of the library for data
models, which works on octets and has its own names for what is wrong: it tells an
early end from a wrong octet, knows what it would have expected, and limits the
nesting. Of the fields of one name the last value counts. `Record.model` reads with it.
-/

namespace Colloquy.Json.Strict

/-- Why octets are no document. -/
inductive Reason
  | endInValue
  | endInObject
  | endInList
  | endInString
  | expectedColon
  | expectedCommaOrBrace
  | expectedCommaOrBracket
  | expectedWord
  | expectedValue
  | badEscape
  | badNumber
  | numberTooLong
  | control
  | nameNotText
  | lonelySurrogate
  | shortEscape
  | trailingComma
  | trailing
  | tooDeep
  deriving DecidableEq

/-- A place in octets, given by how many remain there, and what is wrong at it. -/
structure Stop where
  reason : Reason
  remaining : Nat
  deriving DecidableEq

/-- Stops in front of what remains. -/
def stop (reason : Reason) (rest : Bytes) : Except Stop α :=
  .error ⟨reason, rest.length⟩

/-- Whether an octet may stand between the parts of a document. -/
def isSpace (b : UInt8) : Bool :=
  b = 0x20 || b = 0x09 || b = 0x0a || b = 0x0d

/-- The rest of octets after spaces. -/
def skip (octets : Bytes) : Bytes :=
  octets.dropWhile isSpace

/-- Whether an octet is a decimal digit. -/
def isDigit (b : UInt8) : Bool :=
  0x30 ≤ b && b ≤ 0x39

/-! ## Strings -/

/-- The number that four hexadecimal digits at the front stand for, and the rest. -/
def hex4 (octets : Bytes) : Except Stop (Nat × Bytes) :=
  match octets with
  | a :: b :: c :: d :: rest => do
    let digit (x : UInt8) (from_ : Bytes) : Except Stop Nat :=
      match Text.hexValue? x.toNat with
      | some n => .ok n
      | none => stop .badEscape from_
    let a ← digit a octets
    let b ← digit b (octets.drop 1)
    let c ← digit c (octets.drop 2)
    let d ← digit d (octets.drop 3)
    return (((a * 16 + b) * 16 + c) * 16 + d, rest)
  | _ => .error ⟨.endInString, 0⟩

/-- The code point of a numbered escape, whose digits are at the front, and the rest. A first
half of a pair needs the second half as the next escape. -/
def numberedEscape (digits : Bytes) : Except Stop (CodePoint × Bytes) := do
  let (high, rest) ← hex4 digits
  if isLow high then .error ⟨.lonelySurrogate, rest.length + 1⟩
  else if isHigh high then
    match rest with
    | 0x5c :: 0x75 :: more =>
      let (low, after) ← hex4 more
      if isLow low then
        return (0x10000 + (high - 0xd800) * 0x400 + (low - 0xdc00), after)
      else .error ⟨.lonelySurrogate, after.length + 1⟩
    | [] => .error ⟨.endInString, 0⟩
    | [0x5c] => .error ⟨.endInString, 0⟩
    | 0x5c :: more => stop .shortEscape more
    | _ => stop .shortEscape rest
  else return (high, rest)

/-- The octets of a string up to its closing quote, and what follows it. -/
def stringBody : Nat → Bytes → Except Stop (Bytes × Bytes)
  | 0, _ => .error ⟨.endInString, 0⟩
  | _ + 1, [] => .error ⟨.endInString, 0⟩
  | fuel + 1, b :: rest =>
    if b = 0x22 then .ok ([], rest)
    else if b = 0x5c then
      match rest with
      | [] => .error ⟨.endInString, 0⟩
      | e :: more =>
        if e = 0x75 then do
          let (point, after) ← numberedEscape more
          let (octets, after) ← stringBody fuel after
          return (Utf8.encodePoint point ++ octets, after)
        else match simpleEscape? e.toNat with
          | none => stop .badEscape rest
          | some point => do
            let (octets, after) ← stringBody fuel more
            return (Utf8.encodePoint point ++ octets, after)
    else if b < 0x20 then stop .control (b :: rest)
    else do
      let (octets, after) ← stringBody fuel rest
      return (b :: octets, after)

/-- The string whose opening quote was just taken off. -/
def readString (body : Bytes) : Except Stop (Text × Bytes) := do
  let (octets, after) ← stringBody (body.length + 1) body
  return (Utf8.decodeLenient octets, after)

/-! ## Numbers -/

/-- At least one digit has to stand at the front; the digits and the rest. -/
def digits1 (octets : Bytes) : Except Stop (Bytes × Bytes) :=
  match octets with
  | [] => .error ⟨.endInValue, 0⟩
  | b :: _ =>
    if isDigit b then .ok (octets.takeWhile isDigit, octets.dropWhile isDigit)
    else stop .badNumber octets

/-- The code points of octets of ASCII. -/
def ascii (octets : Bytes) : Text :=
  octets.map UInt8.toNat

/-- The exponent after its letter. -/
def readExponent (octets : Bytes) : Except Stop (Int × Bytes) := do
  let (negative, unsigned) : Bool × Bytes := match octets with
    | 0x2d :: rest => (true, rest)
    | 0x2b :: rest => (false, rest)
    | rest => (false, rest)
  let (digits, rest) ← digits1 unsigned
  let n := Decimal.natOfDigits (ascii digits)
  return (if negative then -(n : Int) else n, rest)

/-- The exponent at the front when there is one. -/
def readExponent? (octets : Bytes) : Except Stop (Option Int × Bytes) :=
  match octets with
  | b :: rest =>
    if b = 0x65 ∨ b = 0x45 then do
      let (exponent, after) ← readExponent rest
      return (some exponent, after)
    else .ok (none, octets)
  | [] => .ok (none, [])

/-- The number whose whole part was read: `start` is what stood at its front. -/
def readRest (start : Bytes) (negative : Bool) (whole after : Bytes) :
    Except Stop (Value × Bytes) :=
  let written := whole.length + if negative then 1 else 0
  if Decimal.digitLimit < written then stop .numberTooLong (start.drop (Decimal.digitLimit + 1))
  else do
    let (fraction, after) : Option Bytes × Bytes ← match after with
      | 0x2e :: rest => do
        let (digits, after) ← digits1 rest
        pure (some digits, after)
      | _ => pure (none, after)
    let (exponent, after) ← readExponent? after
    match fraction, exponent with
    | none, none =>
      let n := Decimal.natOfDigits (ascii whole)
      return (.int (if negative then -n else n), after)
    | fraction, exponent =>
      let numeral : Decimal.Numeral :=
        ⟨negative, ascii whole, ascii (fraction.getD []), exponent.getD 0⟩
      return (.float numeral.toFloat, after)

/-- The rest of octets after the rest of a word, whose first octet was read. -/
def finishWord (word : Bytes) (octets : Bytes) : Except Stop Bytes :=
  match word, octets with
  | [], rest => .ok rest
  | _ :: _, [] => .error ⟨.endInValue, 0⟩
  | w :: ws, b :: rest => if w = b then finishWord ws rest else stop .expectedWord (b :: rest)

/-- The octets of a string of ASCII. -/
def octetsOf (s : String) : Bytes :=
  s.toList.map fun c => c.toNat.toUInt8

/-- The number at the front, the names of the values that are no finite numbers included. -/
def readNumber (start : Bytes) : Except Stop (Value × Bytes) :=
  let (negative, unsigned) : Bool × Bytes := match start with
    | 0x2d :: rest => (true, rest)
    | rest => (false, rest)
  match unsigned with
  | [] => .error ⟨.endInValue, 0⟩
  | b :: rest =>
    if b = 0x49 then do
      let after ← finishWord (octetsOf "nfinity") rest
      let infinity : Float := 1.0 / 0.0
      return (.float (if negative then -infinity else infinity), after)
    else if b = 0x4e && !negative then do
      let after ← finishWord (octetsOf "aN") rest
      return (.float (0.0 / 0.0), after)
    else if b = 0x30 then
      match rest with
      | c :: _ =>
        if isDigit c then stop .badNumber rest else readRest start negative [b] rest
      | [] => readRest start negative [b] rest
    else if isDigit b then
      readRest start negative (unsigned.takeWhile isDigit) (unsigned.dropWhile isDigit)
    else if negative then stop .badNumber unsigned
    else stop .expectedValue start

/-! ## Values -/

/-- The greatest depth of nesting. -/
def depthLimit : Nat := 200

mutual

/-- The value at the front of octets that do not begin with a space, inside `depth` containers,
and what follows it. -/
def readValue : Nat → Nat → Bytes → Except Stop (Value × Bytes)
  | 0, _, octets => stop .expectedValue octets
  | fuel + 1, depth, octets =>
    match octets with
    | [] => .error ⟨.endInValue, 0⟩
    | 0x22 :: rest => do
      let (t, after) ← readString rest
      return (.text t, after)
    | 0x7b :: rest =>
      match skip rest with
      | [] => .error ⟨.endInObject, 0⟩
      | 0x7d :: after => .ok (.object [], after)
      | inside => do
        let (fields, after) ← readFields fuel depth [] inside
        return (.object fields, after)
    | 0x5b :: rest =>
      match skip rest with
      | [] => .error ⟨.endInList, 0⟩
      | 0x5d :: after => .ok (.list [], after)
      | inside => do
        let (items, after) ← readItems fuel depth inside
        return (.list items, after)
    | 0x6e :: rest => (finishWord (octetsOf "ull") rest).map fun after => (.null, after)
    | 0x74 :: rest => (finishWord (octetsOf "rue") rest).map fun after => (.bool true, after)
    | 0x66 :: rest => (finishWord (octetsOf "alse") rest).map fun after => (.bool false, after)
    | _ => readNumber octets

/-- The items of a list up to its closing bracket, and what follows it. -/
def readItems : Nat → Nat → Bytes → Except Stop (List Value × Bytes)
  | 0, _, octets => stop .expectedValue octets
  | fuel + 1, depth, octets =>
    if depthLimit ≤ depth then stop .tooDeep octets
    else do
      let (item, after) ← readValue fuel (depth + 1) octets
      match skip after with
      | [] => .error ⟨.endInList, 0⟩
      | 0x5d :: rest => return ([item], rest)
      | 0x2c :: rest =>
        match skip rest with
        | [] => .error ⟨.endInValue, 0⟩
        | 0x5d :: rest => stop .trailingComma (0x5d :: rest)
        | next =>
          let (items, after) ← readItems fuel depth next
          return (item :: items, after)
      | rest => stop .expectedCommaOrBracket rest

/-- The fields of an object up to its closing brace, set one after the other, and what follows
it. -/
def readFields : Nat → Nat → Fields → Bytes → Except Stop (Fields × Bytes)
  | 0, _, _, octets => stop .expectedValue octets
  | fuel + 1, depth, fields, octets =>
    match octets with
    | 0x22 :: rest => do
      let (name, after) ← readString rest
      match skip after with
      | [] => .error ⟨.endInObject, 0⟩
      | 0x3a :: rest =>
        match skip rest with
        | [] => .error ⟨.endInValue, 0⟩
        | inside =>
          if depthLimit ≤ depth then stop .tooDeep inside
          else
            let (value, after) ← readValue fuel (depth + 1) inside
            let fields := Assoc.set fields name value
            match skip after with
            | [] => .error ⟨.endInObject, 0⟩
            | 0x7d :: rest => return (fields, rest)
            | 0x2c :: rest =>
              match skip rest with
              | [] => .error ⟨.endInValue, 0⟩
              | 0x7d :: rest => stop .trailingComma (0x7d :: rest)
              | next => readFields fuel depth fields next
            | rest => stop .expectedCommaOrBrace rest
      | rest => stop .expectedColon rest
    | _ => stop .nameNotText octets

end

/-! ## Documents -/

/-- What is wrong with octets that are no document, and where. -/
structure Fault where
  reason : Reason
  octets : Bytes
  position : Nat

/-- The value of octets that are a document. -/
def read (octets : Bytes) : Except Fault Value :=
  let fault (s : Stop) : Fault := ⟨s.reason, octets, octets.length - s.remaining⟩
  match readValue (2 * octets.length + 2) 0 (skip octets) with
  | .error s => .error (fault s)
  | .ok (value, after) =>
    match skip after with
    | [] => .ok value
    | rest => .error (fault ⟨.trailing, rest.length⟩)

/-! ## Wording -/

/-- What is wrong, in words. -/
def Reason.message : Reason → Text
  | .endInValue => "EOF while parsing a value"
  | .endInObject => "EOF while parsing an object"
  | .endInList => "EOF while parsing a list"
  | .endInString => "EOF while parsing a string"
  | .expectedColon => "expected \x60:\x60"
  | .expectedCommaOrBrace => "expected \x60,\x60 or \x60\x7d\x60"
  | .expectedCommaOrBracket => "expected \x60,\x60 or \x60]\x60"
  | .expectedWord => "expected ident"
  | .expectedValue => "expected value"
  | .badEscape => "invalid escape"
  | .badNumber => "invalid number"
  | .numberTooLong => "number out of range"
  | .control => "control character (\\u0000-\\u001F) found while parsing a string"
  | .nameNotText => "key must be a string"
  | .lonelySurrogate => "lone leading surrogate in hex escape"
  | .shortEscape => "unexpected end of hex escape"
  | .trailingComma => "trailing comma"
  | .trailing => "trailing characters"
  | .tooDeep => "recursion limit exceeded"

/-- The line and the column of a position in octets. Lines are counted from one; so are columns
within the text, while the end of the text has the column of its last octet, and a line feed
belongs to the line it begins. -/
def lineAndColumn (octets : Bytes) (position : Nat) : Nat × Nat :=
  if position < octets.length then
    let front := octets.take (position + 1)
    (front.count 0x0a + 1, (front.reverse.takeWhile (· ≠ 0x0a)).length)
  else
    (octets.count 0x0a + 1, (octets.reverse.takeWhile (· ≠ 0x0a)).length)

/-- What a fault says. -/
def Fault.message (fault : Fault) : Text :=
  let (line, column) := lineAndColumn fault.octets fault.position
  Text.concat [fault.reason.message, " at line ", Text.ofNat line, " column ", Text.ofNat column]

end Colloquy.Json.Strict
