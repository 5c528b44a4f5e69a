import Colloquy.Decimal.Reader
import Colloquy.Value

/-!
# Writing documents

A value is written on one line, with a space after each comma and colon, fields
in their order and text unescaped but for quotes, backslashes and controls. A
document for a backend must be finite throughout and free of surrogates.

The writer and the reader descend into a value on the stack of calls, which leaves
them room for so many values within each other. Where the room ends the document is
not refused as one that is wrong: the exception of the stack passes through.
-/

namespace Colloquy.Json

/-- Why a value cannot be written. -/
inductive Refusal
  | unwritable (typeName : Text)
  | notFinite
  | tooManyDigits
  | unencodable (failure : Utf8.Unencodable)
  | tooDeep (doing : Text)
  deriving DecidableEq

/-- What a refusal says. -/
def Refusal.message : Refusal → Text
  | .unwritable typeName => Text.concat ["Object of type ", typeName, " is not JSON serializable"]
  | .notFinite => "Out of range float values are not JSON compliant"
  | .tooManyDigits => Text.concat ["Exceeds the limit (", Text.ofNat Decimal.digitLimit,
      " digits) for integer string conversion; ",
      "use sys.set_int_max_str_digits() to increase the limit"]
  | .unencodable failure => failure.message
  | .tooDeep doing => Text.concat ["maximum recursion depth exceeded", doing]

/-- Whether a value nests too deep to be written. -/
def Refusal.isTooDeep : Refusal → Bool
  | .tooDeep _ => true
  | _ => false

/-- The room of a call of the library: how many lists and objects may lie within each other in a
document. -/
def depthLimit : Nat := 985

/-- A code point inside a string. -/
def escape (c : CodePoint) : Text :=
  if c = 0x22 then "\\\""
  else if c = 0x5c then "\\\\"
  else if c = 0x08 then "\\b"
  else if c = 0x09 then "\\t"
  else if c = 0x0a then "\\n"
  else if c = 0x0c then "\\f"
  else if c = 0x0d then "\\r"
  else if c < 0x20 then Text.concat ["\\u", Text.hex 4 c]
  else [c]

/-- A string with its quotes. -/
def string (text : Text) : Text :=
  0x22 :: text.flatMap escape ++ [0x22]

/-- A float. What is no finite number has a name only where `names` allows one. -/
def float (names : Bool) (x : Float) : Except Refusal Text :=
  if names || x.isFinite then .ok (Decimal.Layout.document.ofFloat x) else .error .notFinite

/-- An integer within the limit of digits. -/
def integer (i : Int) : Except Refusal Text :=
  if Decimal.digitCount i.natAbs ≤ Decimal.digitLimit then .ok (Text.ofInt i)
  else .error .tooManyDigits

/-- The refusal of a value that no writer knows. To say so takes two units of room. -/
def unknown (room : Nat) (value : Value) : Refusal :=
  match room with
  | 0 => .tooDeep ""
  | 1 => .tooDeep " while calling a Python object"
  | _ + 2 => .unwritable value.typeName

/-- The refusal of a sequence or an object for which there is no room. -/
def unopened : Refusal :=
  .tooDeep " while encoding a JSON object"

mutual

/-- The text of a value, or the first thing in it that cannot be written. There is room for `room`
sequences and objects within each other. -/
def writeValue (names : Bool) : Nat → Value → Except Refusal Text
  | _, .null => .ok "null"
  | _, .bool b => .ok (if b then "true" else "false")
  | _, .int i => integer i
  | _, .float x => float names x
  | _, .text t => .ok (string t)
  | room, .bytes octets => .error (unknown room (.bytes octets))
  | room, .foreign => .error (unknown room .foreign)
  | 0, .list _ => .error unopened
  | 0, .tuple _ => .error unopened
  | 0, .object _ => .error unopened
  | room + 1, .list items =>
    (writeItems names room items).map fun parts => Text.concat ["[", Text.join ", " parts, "]"]
  | room + 1, .tuple items =>
    (writeItems names room items).map fun parts => Text.concat ["[", Text.join ", " parts, "]"]
  | room + 1, .object fields =>
    (writeFields names room fields).map fun parts =>
      Text.concat ["\x7b", Text.join ", " parts, "\x7d"]

/-- The texts of the items of a sequence. -/
def writeItems (names : Bool) (room : Nat) : List Value → Except Refusal (List Text)
  | [] => .ok []
  | item :: rest => do
    let first ← writeValue names room item
    let others ← writeItems names room rest
    return first :: others

/-- The texts of the fields of an object. -/
def writeFields (names : Bool) (room : Nat) : List (Text × Value) → Except Refusal (List Text)
  | [] => .ok []
  | (name, value) :: rest => do
    let first ← writeValue names room value
    let others ← writeFields names room rest
    return Text.concat [string name, ": ", first] :: others

end

/-- The text of a document, or the first thing in it that cannot be written. -/
def write (names : Bool) (value : Value) : Except Refusal Text :=
  writeValue names depthLimit value

/-- The octets of a document for a backend. -/
def encode (value : Value) : Except Refusal Bytes :=
  match write false value with
  | .error e => .error e
  | .ok text =>
    match Utf8.encode text with
    | .error e => .error (.unencodable e)
    | .ok octets => .ok octets

end Colloquy.Json
