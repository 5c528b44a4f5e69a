import Colloquy.Url.Basic
import Colloquy.Url.Label

/-!
# Hosts

A host is a numeric address, a name in ASCII, or a name in other letters, whose
labels are then written in ASCII. A name in ASCII is only read, and its labels are
only checked, when its letters are asked for.

Like the rules of `Url.Basic` these are not the library's own. They are those of the
HTTP client's address type and, for `Url.writeName` and what it needs, of the package for
internationalized names that the client calls.
-/

namespace Colloquy.Url

/-! ## Names -/

/-- Whether a code point stands between two labels. -/
def isLabelDot (c : CodePoint) : Bool :=
  c == 0x2e || c == 0x3002 || c == 0xff0e || c == 0xff61

/-- A name with each of its labels changed. Its last label may be empty. -/
def mapLabels (change : Text → Except NameFault Text) (name : Text) : Except NameFault Text := do
  if maxNameLength < name.length then throw .nameTooLong
  let labels := Text.splitOn 0x2e (name.map fun c => if isLabelDot c then 0x2e else c)
  let rooted := labels.getLast? == some []
  let body := if rooted then labels.dropLast else labels
  let changed ← body.mapM change
  return Text.join "." (if rooted then changed ++ [[]] else changed)

/-- A name, in small letters, in ASCII. -/
def writeName (name : Text) : Except NameFault Text := do
  let written ← mapLabels writeLabel name
  let limit := if written.getLast? = some 0x2e then maxNameLength else maxNameLength - 1
  if limit < written.length then throw .nameTooLong
  return written

/-- A name in ASCII in the letters that it stands for. -/
def readName (name : Text) : Except NameFault Text :=
  mapLabels readLabel name

/-! ## Hosts -/

/-- Whether a host stands in brackets. -/
def isBracketed (host : Text) : Bool :=
  host.head? = some 0x5b && host.getLast? = some 0x5d && 2 ≤ host.length

/-- A host in normal form. -/
def normalHost (host : Text) : Except Fault Text :=
  if host = [] then .ok []
  else if looksLikeAddress4 host then
    if isAddress4 host then .ok host else .error (.address4 host)
  else if isBracketed host then
    let address := (host.drop 1).dropLast
    if isAddress6 address then .ok address else .error (.address6 host)
  else if host.all (· < 0x80) then percentEncode hostSafe (lowerAscii host)
  else (writeName (Text.lower host)).mapError fun _ => .hostName host

/-- The host in the letters that it stands for. Only a name that begins with a label by number is
read. -/
def readHost (url : Url) : Except NameFault Text :=
  if url.host.startsWith numberMark then readName url.host else .ok url.host

end Colloquy.Url
