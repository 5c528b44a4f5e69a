import Colloquy.Json.Writer

/-!
# Compact documents

The library for data models writes the output of a tool without spaces. What is no
finite number is null, octets are the text that they encode; a text has to be free of
surrogates. `ModelInstance.ofFields` and `Output.ofValue` write with it.
-/

namespace Colloquy.Json.Compact

/-- Why a value cannot be written. -/
inductive Refusal
  | unknownType (typeName : Text)
  | malformed (position : Nat) (width : Nat) (truncated : Bool)
  | unencodable (failure : Utf8.Unencodable)
  deriving DecidableEq

/-- What a refusal says. -/
def Refusal.message : Refusal → Text
  | .unknownType typeName =>
    Text.concat ["Unable to serialize unknown type: <class '", typeName, "'>"]
  | .malformed position _ true => Text.concat
    ["Error serializing to JSON: incomplete utf-8 byte sequence from index ", Text.ofNat position]
  | .malformed position width false => Text.concat
    ["Error serializing to JSON: invalid utf-8 sequence of ", Text.ofNat width,
      " bytes from index ", Text.ofNat position]
  | .unencodable failure => Text.concat
    ["Error serializing to JSON: UnicodeEncodeError: ", failure.message]

/-- A string with its quotes. -/
def string (text : Text) : Except Refusal Text :=
  match Utf8.encode text with
  | .ok _ => .ok (Json.string text)
  | .error failure => .error (.unencodable failure)

/-- The first malformed stretch among pieces that begin at a position. -/
def firstBad? (position : Nat) : List Utf8.Piece → Option Refusal
  | [] => none
  | .point width _ :: rest => firstBad? (position + width) rest
  | .bad width reason :: _ => some (.malformed position width (reason = .truncated))

/-- The string of octets. -/
def bytes (octets : Bytes) : Except Refusal Text :=
  match firstBad? 0 (Utf8.pieces false octets) with
  | none => .ok (Json.string (Utf8.decodeLenient octets))
  | some refusal => .error refusal

mutual

/-- The text of a value, or the first thing in it that cannot be written. -/
def write : Value → Except Refusal Text
  | .null => .ok "null"
  | .bool b => .ok (if b then "true" else "false")
  | .int i => .ok (Text.ofInt i)
  | .float x => .ok (Decimal.Layout.compact.ofFloat x)
  | .text t => string t
  | .bytes octets => bytes octets
  | .list items => (writeItems items).map fun parts => Text.concat ["[", Text.join "," parts, "]"]
  | .tuple items => (writeItems items).map fun parts => Text.concat ["[", Text.join "," parts, "]"]
  | .object fields =>
    (writeFields fields).map fun parts => Text.concat ["\x7b", Text.join "," parts, "\x7d"]
  | .foreign => .error (.unknownType (Value.typeName .foreign))

/-- The texts of the items of a sequence. -/
def writeItems : List Value → Except Refusal (List Text)
  | [] => .ok []
  | item :: rest => do
    let first ← write item
    let others ← writeItems rest
    return first :: others

/-- The texts of the fields of an object. -/
def writeFields : List (Text × Value) → Except Refusal (List Text)
  | [] => .ok []
  | (name, value) :: rest => do
    let key ← string name
    let first ← write value
    let others ← writeFields rest
    return Text.concat [key, ":", first] :: others

end

end Colloquy.Json.Compact
