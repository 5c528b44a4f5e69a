import Colloquy.Error.Basic
import Colloquy.Value

/-!
# Header lines

Headers travel as lines of ASCII. The case of a name does not matter, and lines of
one name count as one line with commas between their values.
-/

namespace Colloquy

/-- The names of header lines, in small letters, and the octets of their values. -/
abbrev HeaderLines := Assoc Bytes

namespace HeaderLines

/-- The octets of a text in a header. -/
def octetsOf (text : Text) : Except Exception Bytes :=
  (Utf8.encodeAscii text).mapError fun failure =>
    .foreign .unicodeEncode (failure.messageFor "ascii" "ordinal not in range(128)")

/-- The line of a header. -/
def line (name : Text) (value : Value) : Except Exception (Text × Bytes) := do
  let _ ← octetsOf name
  let octets ← match value with
    | .text t => octetsOf t
    | .bytes octets => pure octets
    | other => throw (.type (Text.concat
        ["Header value must be str or bytes, not <class '", other.typeName, "'>"]))
  return (name.map Text.small, octets)

/-- The lines of headers, in their order. -/
def ofFields (headers : Fields) : Except Exception HeaderLines :=
  headers.mapM fun (name, value) => line name value

/-- Whether there is a line of a name. -/
def has (lines : HeaderLines) (name : Text) : Bool :=
  lines.any fun entry => entry.1 = name

/-- The lines with one more unless there is one of its name. -/
def withDefault (lines : HeaderLines) (name : Text) (octets : Bytes) : HeaderLines :=
  if lines.has name then lines else lines ++ [(name, octets)]

/-- The lines with one line of a name in place of all of that name. -/
def replacing (lines : HeaderLines) (name : Text) (octets : Bytes) : HeaderLines :=
  lines.filter (fun entry => entry.1 ≠ name) ++ [(name, octets)]

/-- Lines put over others, which count only where no line of their name is put over them. -/
def atop (lines others : HeaderLines) : HeaderLines :=
  others.filter (fun entry => !lines.has entry.1) ++ lines

/-- The value of all lines of a name, with commas between their values. -/
def joined (lines : HeaderLines) (name : Text) : Bytes :=
  let values := lines.filterMap fun entry => if entry.1 = name then some entry.2 else none
  [0x2c, 0x20].intercalate values

/-- The names of the lines, each once. -/
def names (lines : HeaderLines) : List Text :=
  (lines.map (·.1)).eraseDups

/-- Headers as text, each name once. The octets of all values are read as UTF-8, or, if those of
any value are not, each octet as the code point of its number. -/
def toFields (lines : HeaderLines) : Fields :=
  let isUtf8 := lines.all fun entry => (Utf8.decodeStrict entry.2).isOk
  let read (octets : Bytes) : Text :=
    if isUtf8 then Utf8.decodeLenient octets else octets.map (·.toNat)
  lines.names.map fun name => (name, .text (read (lines.joined name)))

end HeaderLines

end Colloquy
