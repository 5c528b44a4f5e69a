import Colloquy.Json.Writer
import Colloquy.Text.Encoding

/-!
# Reading documents

The reader takes a value off the front of a text and names the first place where
the text is no document. Beyond the standard it takes the names of the floats
that are no finite numbers, and surrogates that are not paired. Of the fields of
one name the last value counts, at the place of the first.
-/

namespace Colloquy.Json

/-- Why a text is no document. -/
inductive Reason
  | expectingValue
  | expectingName
  | expectingColon
  | expectingComma
  | unterminated
  | control
  | badEscape
  | badNumberEscape
  | extraData
  | byteOrderMark
  | tooManyDigits (count : Nat)
  | tooDeep (inList : Bool)
  deriving DecidableEq

/-- A place in a text that a reader works on, given by what remains to be read there, and what
is wrong at it. -/
structure Stop where
  reason : Reason
  remaining : Nat
  deriving DecidableEq

/-- Stops in front of what remains. -/
def stop (reason : Reason) (rest : Text) : Except Stop α :=
  .error ⟨reason, rest.length⟩

/-- Whether a code point may stand between the parts of a document. -/
def isSpace (c : CodePoint) : Bool :=
  c = 0x20 || c = 0x09 || c = 0x0a || c = 0x0d

/-- The rest of a text after spaces. -/
def skip (text : Text) : Text :=
  text.dropWhile isSpace

/-! ## Strings -/

/-- The number that four hexadecimal digits at the front of a text stand for, and the rest. -/
def hex4? : Text → Option (Nat × Text)
  | a :: b :: c :: d :: rest =>
    match Text.hexValue? a, Text.hexValue? b, Text.hexValue? c, Text.hexValue? d with
    | some a, some b, some c, some d => some (((a * 16 + b) * 16 + c) * 16 + d, rest)
    | _, _, _, _ => none
  | _ => none

/-- The code point that one letter after a backslash stands for. -/
def simpleEscape? (c : CodePoint) : Option CodePoint :=
  if c = 0x22 ∨ c = 0x5c ∨ c = 0x2f then some c
  else if c = 0x62 then some 0x08
  else if c = 0x66 then some 0x0c
  else if c = 0x6e then some 0x0a
  else if c = 0x72 then some 0x0d
  else if c = 0x74 then some 0x09
  else none

/-- Whether a number is the first half of a pair of surrogates. -/
def isHigh (n : Nat) : Bool :=
  0xd800 ≤ n && n ≤ 0xdbff

/-- Whether a number is the second half of a pair of surrogates. -/
def isLow (n : Nat) : Bool :=
  0xdc00 ≤ n && n ≤ 0xdfff

/-- The code point of a numbered escape, whose digits are at the front of the text. A first
half of a pair joins the second half that follows it as a numbered escape. The digits may not
end the text. -/
def numberedEscape (digits : Text) : Except Stop (CodePoint × Text) :=
  let letter := 0x75 :: digits
  if (digits.drop 4).isEmpty then stop .badNumberEscape letter
  else match hex4? digits with
    | none => stop .badNumberEscape letter
    | some (high, rest) =>
      if isHigh high then
        match rest with
        | 0x5c :: 0x75 :: more =>
          if (more.drop 4).isEmpty then .ok (high, rest)
          else match hex4? more with
            | none => stop .badNumberEscape (0x75 :: more)
            | some (low, rest') =>
              if isLow low then
                .ok (0x10000 + (high - 0xd800) * 0x400 + (low - 0xdc00), rest')
              else .ok (high, rest)
        | _ => .ok (high, rest)
      else .ok (high, rest)

/-- The text of a string up to its closing quote, and what follows it; `start` is what remained
at its opening quote. -/
def stringBody (start : Nat) : Nat → Text → Except Stop (Text × Text)
  | 0, _ => .error ⟨.unterminated, start⟩
  | _ + 1, [] => .error ⟨.unterminated, start⟩
  | fuel + 1, c :: rest =>
    if c = 0x22 then .ok ([], rest)
    else if c = 0x5c then
      match rest with
      | [] => .error ⟨.unterminated, start⟩
      | e :: more =>
        if e = 0x75 then do
          let (point, after) ← numberedEscape more
          let (text, after) ← stringBody start fuel after
          return (point :: text, after)
        else match simpleEscape? e with
          | none => stop .badEscape (c :: rest)
          | some point => do
            let (text, after) ← stringBody start fuel more
            return (point :: text, after)
    else if c < 0x20 then stop .control (c :: rest)
    else do
      let (text, after) ← stringBody start fuel rest
      return (c :: text, after)

/-- The string whose opening quote was just taken off the text. -/
def readString (body : Text) : Except Stop (Text × Text) :=
  stringBody (body.length + 1) (body.length + 1) body

/-! ## Numbers -/

/-- The digits of a whole number at the front of a text: a zero alone, or digits that do not
begin with one. -/
def wholeDigits : Text → Text
  | 0x30 :: _ => [0x30]
  | text => text.takeWhile Text.isAsciiDigit

/-- The digits of a fraction at the front of a text, with the point before them; none when no
digit follows the point. -/
def fractionDigits : Text → Text
  | 0x2e :: rest => rest.takeWhile Text.isAsciiDigit
  | _ => []

/-- The exponent at the front of a text and what follows it, none when no digit belongs to it. -/
def takeExponent? : Text → Option (Int × Text)
  | e :: rest =>
    if e = 0x65 ∨ e = 0x45 then
      let (negative, more) := Decimal.takeSign rest
      let digits := more.takeWhile Text.isAsciiDigit
      if digits = [] then none
      else
        let n := Decimal.natOfDigits digits
        some (if negative then -n else n, more.drop digits.length)
    else none
  | [] => none

/-- The number at the front of a text, and what follows it. A number ends where its longest
part ends that is well formed. -/
def readNumber (text : Text) : Except Stop (Value × Text) :=
  let (negative, unsigned) : Bool × Text := match text with
    | 0x2d :: rest => (true, rest)
    | _ => (false, text)
  let whole := wholeDigits unsigned
  if whole = [] then stop .expectingValue text
  else
    let afterWhole := unsigned.drop whole.length
    let fraction := fractionDigits afterWhole
    let afterFraction := if fraction = [] then afterWhole else afterWhole.drop (fraction.length + 1)
    match takeExponent? afterFraction with
    | some (exponent, rest) =>
      .ok (.float (Decimal.Numeral.toFloat ⟨negative, whole, fraction, exponent⟩), rest)
    | none =>
      if fraction ≠ [] then
        .ok (.float (Decimal.Numeral.toFloat ⟨negative, whole, fraction, 0⟩), afterFraction)
      else if Decimal.digitLimit < whole.length then stop (.tooManyDigits whole.length) text
      else
        let n := Decimal.natOfDigits whole
        .ok (.int (if negative then -n else n), afterWhole)

/-! ## Values -/

/-- The values that are written as words. -/
def words : List (Text × Value) :=
  [("null", .null), ("true", .bool true), ("false", .bool false), ("NaN", .float (0.0 / 0.0)),
    ("Infinity", .float (1.0 / 0.0)), ("-Infinity", .float (-(1.0 / 0.0)))]

/-- The word at the front of a text, and what follows it. -/
def readWord? (text : Text) : Option (Value × Text) :=
  (words.find? fun word => text.startsWith word.1).map fun (word, value) =>
    (value, text.drop word.length)

mutual

/-- The value at the front of a text, and what follows it. There is room for `room` lists and
objects within each other. -/
def readValue : Nat → Nat → Text → Except Stop (Value × Text)
  | 0, _, text => stop .expectingValue text
  | fuel + 1, room, text =>
    match text with
    | 0x22 :: rest => do
      let (t, after) ← readString rest
      return (.text t, after)
    | 0x7b :: rest =>
      if room = 0 then stop (.tooDeep false) text
      else match skip rest with
        | 0x7d :: after => .ok (.object [], after)
        | inside => do
          let (fields, after) ← readFields fuel (room - 1) [] inside
          return (.object fields, after)
    | 0x5b :: rest =>
      if room = 0 then stop (.tooDeep true) text
      else match skip rest with
        | 0x5d :: after => .ok (.list [], after)
        | inside => do
          let (items, after) ← readItems fuel (room - 1) inside
          return (.list items, after)
    | _ =>
      match readWord? text with
      | some found => .ok found
      | none => readNumber text

/-- The items of a list up to its closing bracket, and what follows it. -/
def readItems : Nat → Nat → Text → Except Stop (List Value × Text)
  | 0, _, text => stop .expectingValue text
  | fuel + 1, room, text => do
    let (item, after) ← readValue fuel room text
    match skip after with
    | 0x5d :: rest => return ([item], rest)
    | 0x2c :: rest =>
      let (items, after) ← readItems fuel room (skip rest)
      return (item :: items, after)
    | rest => stop .expectingComma rest

/-- The fields of an object up to its closing brace, set one after the other, and what follows
it. -/
def readFields : Nat → Nat → Fields → Text → Except Stop (Fields × Text)
  | 0, _, _, text => stop .expectingName text
  | fuel + 1, room, fields, text =>
    match text with
    | 0x22 :: rest => do
      let (name, after) ← readString rest
      match skip after with
      | 0x3a :: rest =>
        let (value, after) ← readValue fuel room (skip rest)
        let fields := Assoc.set fields name value
        match skip after with
        | 0x7d :: rest => return (fields, rest)
        | 0x2c :: rest => readFields fuel room fields (skip rest)
        | rest => stop .expectingComma rest
      | rest => stop .expectingColon rest
    | _ => stop .expectingName text

end

/-! ## Documents -/

/-- What is wrong with a text that is no document, and where. -/
structure Fault where
  reason : Reason
  text : Text
  position : Nat
  deriving DecidableEq

/-- The value that makes up the whole of a text. -/
def readWhole (text : Text) : Except Fault Value :=
  let fault (s : Stop) : Fault := ⟨s.reason, text, text.length - s.remaining⟩
  match readValue (2 * text.length + 2) depthLimit (skip text) with
  | .error s => .error (fault s)
  | .ok (value, after) =>
    match skip after with
    | [] => .ok value
    | rest => .error (fault ⟨.extraData, rest.length⟩)

/-- The value of a text that is a document. A text that begins with a byte order mark was not
taken out of its encoding as it should have been. -/
def read (text : Text) : Except Fault Value :=
  if text.head? = some Encoding.mark then .error ⟨.byteOrderMark, text, 0⟩ else readWhole text

/-- Why octets are no document. -/
inductive DocumentFault
  | encoding (failure : Encoding.Failure)
  | text (fault : Fault)
  deriving DecidableEq

/-- The value of octets that are a document. -/
def decode (octets : Bytes) : Except DocumentFault Value :=
  match Encoding.decodeDocument octets with
  | .error failure => .error (.encoding failure)
  | .ok text =>
    match readWhole text with
    | .error fault => .error (.text fault)
    | .ok value => .ok value

/-! ## Wording -/

/-- What is wrong, in words. -/
def Reason.message : Reason → Text
  | .expectingValue => "Expecting value"
  | .expectingName => "Expecting property name enclosed in double quotes"
  | .expectingColon => "Expecting ':' delimiter"
  | .expectingComma => "Expecting ',' delimiter"
  | .unterminated => "Unterminated string starting at"
  | .control => "Invalid control character at"
  | .badEscape => "Invalid \\escape"
  | .badNumberEscape => "Invalid \\uXXXX escape"
  | .extraData => "Extra data"
  | .byteOrderMark => "Unexpected UTF-8 BOM (decode using utf-8-sig)"
  | .tooManyDigits count => Text.concat ["Exceeds the limit (", Text.ofNat Decimal.digitLimit,
      " digits) for integer string conversion: value has ", Text.ofNat count,
      " digits; use sys.set_int_max_str_digits() to increase the limit"]
  | .tooDeep inList => Text.concat ["maximum recursion depth exceeded while decoding a JSON ",
      if inList then Text.ofString "array" else Text.ofString "object", " from a unicode string"]

/-- The line and the column of a position in a text, both counted from one. -/
def lineAndColumn (text : Text) (position : Nat) : Nat × Nat :=
  let front := text.take position
  (front.count 0x0a + 1, (front.reverse.takeWhile (· ≠ 0x0a)).length + 1)

/-- What a fault says. -/
def Fault.message (fault : Fault) : Text :=
  match fault.reason with
  | .tooManyDigits count => (Reason.tooManyDigits count).message
  | .tooDeep inList => (Reason.tooDeep inList).message
  | reason =>
    let (line, column) := lineAndColumn fault.text fault.position
    Text.concat [reason.message, ": line ", Text.ofNat line, " column ", Text.ofNat column,
      " (char ", Text.ofNat fault.position, ")"]

/-- What a fault of a document says. -/
def DocumentFault.message : DocumentFault → Text
  | .encoding failure => failure.message
  | .text fault => fault.message

end Colloquy.Json
