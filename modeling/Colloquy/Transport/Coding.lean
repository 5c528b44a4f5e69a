import Colloquy.Error.Basic
import Colloquy.Text.Blank
import Colloquy.Text.Case
import Colloquy.Transport.Inflate

/-!
# Content codings

A reply may come in an encoded form, which a header names. The client decodes it;
names that it does not know are passed over.
-/

namespace Colloquy

/-- The content codings that the client decodes. -/
inductive ContentCoding
  | identity
  | gzip
  | deflate
  deriving DecidableEq

namespace ContentCoding

/-- The coding of a name. -/
def ofName? (name : Text) : Option ContentCoding :=
  let entries : Assoc ContentCoding :=
    [("identity", .identity), ("gzip", .gzip), ("deflate", .deflate)]
  Assoc.get? entries (Text.lower (Text.strip name))

/-- The codings that the value of a header lists, in the order in which they were applied. -/
def listed (value : Text) : List ContentCoding :=
  (Text.splitOn 0x2c value).filterMap ofName?

/-- What was encoded. A stream that is said to be deflated may come with a frame or without. -/
def decode (coding : ContentCoding) (octets : Bytes) : Except Inflate.Fault Bytes :=
  match coding with
  | .identity => .ok octets
  | .gzip => Inflate.run Inflate.file octets
  | .deflate =>
    match Inflate.run Inflate.framed octets with
    | .ok decoded => .ok decoded
    | .error _ => Inflate.run Inflate.blocks octets

/-- What was encoded by several codings, the last of which is undone first. -/
def decodeAll (codings : List ContentCoding) (octets : Bytes) : Except Inflate.Fault Bytes :=
  codings.reverse.foldlM (fun octets coding => coding.decode octets) octets

end ContentCoding

/-- The exception for octets that cannot be decoded. -/
def Inflate.Fault.exception (fault : Inflate.Fault) : Exception :=
  .foreign .decoding
    (Text.concat ["Error -3 while decompressing data: ", fault.message])

end Colloquy
