import Colloquy.Error.Basic
import Colloquy.Json.Reader

/-!
# Documents that cannot be read or written

What is no document raises an exception that is not the library's own, and most
callers put an error of the library in its place; so does what cannot be written. A
document that nests too deep is not a mistake of that kind: its exception passes
through.
-/

namespace Colloquy.Json

namespace DocumentFault

/-- The exception for octets that are no document. -/
def exception (fault : DocumentFault) : Exception :=
  let cls : ForeignClass := match fault with
    | .encoding _ => .unicodeDecode
    | .text ⟨.tooManyDigits _, _, _⟩ => .value
    | .text ⟨.tooDeep _, _, _⟩ => .recursion
    | .text _ => .jsonDecode
  .foreign cls fault.message

/-- Whether a document nests too deep. -/
def isTooDeep : DocumentFault → Bool
  | .text ⟨.tooDeep _, _, _⟩ => true
  | _ => false

/-- The exception where the library reports a document that cannot be read, with `front` before
the reason. -/
def reported (front : Text) (fault : DocumentFault) : Exception :=
  if fault.isTooDeep then fault.exception
  else .own (.serialization (Text.concat [front, ": ", fault.message]))

end DocumentFault

/-- The exception where the library reports a payload that cannot be written. -/
def Refusal.reported (refusal : Refusal) : Exception :=
  if refusal.isTooDeep then .foreign .recursion refusal.message
  else .own (.serialization
    (Text.concat ["Request payload is not JSON serializable: ", refusal.message]))

end Colloquy.Json
