import Colloquy.Error.Document
import Colloquy.Text.Case

/-!
# Exchanges on the wire

A request is built whole before it is sent, and is shown without the credentials
in its headers. A response is status, headers and octets; header names are
compared without regard to case.
-/

namespace Colloquy

namespace Wire

/-! ## Requests -/

/-- A request ready to be sent. -/
structure Request where
  method : Text
  url : Text
  headers : Fields
  body : Bytes

/-- The names of the headers that carry credentials, in small letters. -/
def credentialHeaders : List Text :=
  ["authorization", "x-api-key", "x-goog-api-key", "api-key", "openai-organization"]

/-- What stands in place of a credential. -/
def redactedMark : Value :=
  .ofString "[REDACTED]"

namespace Request

/-- The headers with every credential hidden. -/
def redactedHeaders (r : Request) : Fields :=
  r.headers.map fun (name, value) =>
    (name, if Text.lower name ∈ credentialHeaders then redactedMark else value)

/-- A request as it is shown: without credentials, and only the size of its body. -/
def shown (r : Request) : Text :=
  Text.concat ["WireRequest(method=", r.method.quoted, ", url=", r.url.quoted, ", headers=",
    (Value.object r.redactedHeaders).shown, ", body=<", Text.ofNat r.body.length, " bytes>)"]

/-- The document in the body, null when there is no body. -/
def document (r : Request) : Except Json.DocumentFault Value :=
  if r.body = [] then .ok .null else Json.decode r.body

end Request

/-! ## Responses -/

/-- The response to a request. The names of its headers are in small letters. -/
structure Response where
  status : Int
  body : Bytes
  headers : Fields

namespace Response

/-- A response with headers under any names; of two names that differ in case alone the later
one counts. -/
def ofHeaders (status : Int) (body : Bytes) (headers : Fields) : Response where
  status := status
  body := body
  headers := Assoc.ofAssignments (headers.map fun (name, value) => (Text.lower name, value))

/-- Whether the exchange succeeded. -/
def isSuccess (r : Response) : Bool :=
  200 ≤ r.status && r.status < 300

/-- The header of a name. -/
def header? (r : Response) (name : Text) : Option Value :=
  Assoc.get? r.headers (Text.lower name)

end Response

end Wire

/-! ## Documents of exchanges -/

/-- The body of a request that carries a payload. -/
def dumpPayload (payload : Value) : Except Exception Bytes :=
  (Json.encode payload).mapError Json.Refusal.reported

/-- The text of a payload that can be sent. -/
def dumpText (payload : Value) : Except Exception Text := do
  let text ← (Json.write false payload).mapError Json.Refusal.reported
  let _ ← dumpPayload payload
  return text

/-- The document in the body of a response. -/
def loadDocument (body : Bytes) : Except Exception Value :=
  (Json.decode body).mapError (Json.DocumentFault.reported "Response body is not valid JSON")

end Colloquy
