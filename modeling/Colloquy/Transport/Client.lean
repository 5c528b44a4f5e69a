import Colloquy.Provider.Endpoint
import Colloquy.Text.Base64
import Colloquy.Text.Capital
import Colloquy.Transport.Coding
import Colloquy.Transport.Header
import Colloquy.Transport.Script
import Colloquy.Url.Parse
import Colloquy.Wire.Interruption

/-!
# The HTTP client

The client brings a request into the form in which a server gets it, and decodes the
reply, whatever its status. A reply that points elsewhere is not followed, but the
address that it points to has to be one. A failure below HTTP becomes an error of the
library; anything else that is raised passes through.
-/

namespace Colloquy

/-! ## Addresses -/

/-- The exception for a text that is no address. -/
def Url.Fault.exception : Url.Fault → Exception
  | .unencodable failure => .foreign .unicodeEncode failure.message
  | fault => .foreign .invalidUrl fault.message

/-- The address that a request is sent to. Without a scheme or without a host only the path and
the query count, from the root on. -/
def requestUrl (text : Text) : Except Exception Url := do
  let url ← (Url.parse text).mapError Url.Fault.exception
  if url.scheme ≠ [] ∧ url.host ≠ [] then return url
  let path := 0x2f :: dropLeadingSlashes url.path
  return { scheme := [], userinfo := [], host := [], port := none, path, query := url.query,
           fragment := none }

/-- The credential in an address, as a header tells it. -/
def Url.credential? (url : Url) : Option Text :=
  let readable (part : Text) : Bytes :=
    (Utf8.decodeLenient (Url.percentDecode part)).flatMap Utf8.encodePoint
  let user := url.userinfo.takeWhile (· ≠ 0x3a)
  let password := url.userinfo.drop (user.length + 1)
  if user = [] ∧ password = [] then none
  else some (Text.concat ["Basic ", Base64.encode (readable user ++ 0x3a :: readable password)])

/-! ## Headers -/

/-- The headers of every request that does not have its own. -/
def usualHeaders : List (Text × Text) :=
  [("accept", "*/*"), ("accept-encoding", "gzip, deflate"), ("connection", "keep-alive"),
    ("user-agent", "python-httpx/0.28.1")]

/-- The header that tells the length of a body. -/
def lengthHeader : Text := "content-length"

/-- The methods whose requests tell the length of their body even when it is empty. -/
def bodyMethods : List Text := ["POST", "PUT", "PATCH"]

/-- The octets of a text that holds signs of ASCII only. -/
def asciiOctets (text : Text) : Bytes :=
  text.map (·.toUInt8)

/-- Header lines with the length of the body, unless they tell it or the body is empty; `always`
asks for the length of an empty body too, unless it is sent in pieces. -/
def withLength (always : Bool) (body : Bytes) (lines : HeaderLines) : HeaderLines :=
  if body = [] && (!always || lines.has "transfer-encoding") then lines
  else lines.withDefault lengthHeader (asciiOctets (Text.ofNat body.length))

/-! ## Exchanges -/

/-- A request as a server gets it. -/
def Wire.Request.delivered (r : Wire.Request) : Except Exception Wire.Request := do
  let url ← requestUrl r.url
  let method := Text.upper r.method
  let usual : HeaderLines := usualHeaders.map fun (name, value) => (name, asciiOctets value)
  let lines := (← HeaderLines.ofFields r.headers).atop usual
  let lines ←
    if lines.has "host" then pure lines
    else do
      let host ← url.readHost.mapError Url.NameFault.exception
      pure (if host = [] then lines else lines.withDefault "host" (asciiOctets url.hostAndPort))
  let lines := withLength (bodyMethods.contains method) r.body lines
  let lines := match url.credential? with
    | some credential => lines.replacing "authorization" (asciiOctets credential)
    | none => lines
  return { method, url := url.toText, body := r.body, headers := lines.toFields }

/-- The codings of a body that header lines name. -/
def HeaderLines.codings (lines : HeaderLines) : List ContentCoding :=
  ContentCoding.listed ((lines.joined "content-encoding").map (·.toNat))

/-- A reply as it comes from a server, with its body decoded. The length in its headers is the
one that the body had before. -/
def Wire.Response.delivered (r : Wire.Response) : Except Exception Wire.Response := do
  let lines ← HeaderLines.ofFields r.headers
  let body ← (ContentCoding.decodeAll lines.codings r.body).mapError Inflate.Fault.exception
  return { r with body, headers := (withLength false r.body lines).toFields }

/-- The statuses of replies that point elsewhere. -/
def redirectStatuses : List Int := [301, 302, 303, 307, 308]

/-- Checks the address that a reply points to. An address with a scheme and without a host takes
the host of the request, and needs a path that can follow a host. -/
def checkRedirect (request : Wire.Request) (reply : Wire.Response) : Except Exception Unit := do
  match reply.header? "location" with
  | some (.text location) =>
    if reply.status ∉ redirectStatuses then return
    let target ← (Url.parse location).mapError fun fault =>
      .foreign .remoteProtocol (Text.concat ["Invalid URL in location header: ", fault.message,
        "."])
    let readHost (url : Url) := url.readHost.mapError Url.NameFault.exception
    let host ← readHost target
    let source ← readHost (← requestUrl request.url)
    if target.scheme ≠ [] ∧ host = [] ∧ source ≠ [] then
      (Url.checkPath target.path true true).mapError Url.Fault.exception
  | _ => return

/-- The transport of a client to a server. The provider is named by the errors of failed
exchanges. -/
def Transport.client (server : Wire.Request → Except Exception Wire.Response) (provider : Value) :
    Transport := fun _ request =>
  let exchange : Except Exception Wire.Response := do
    let sent ← request.delivered
    let reply ← (← server sent).delivered
    checkRedirect sent reply
    return reply
  match exchange with
  | .ok reply => .ok reply
  | .error e => do
    if e.isHttpFailure then throw (.own (← wrapInterruption (.single e) e provider)) else throw e

end Colloquy
