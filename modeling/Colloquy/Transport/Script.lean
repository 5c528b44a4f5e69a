import Colloquy.Ledger
import Colloquy.Provider.Canonical

/-!
# Scripted transports

A transport takes a request to its response. Work without a backend goes through a
scripted one: it gives its replies one after the other, and echoes the last turn of
the user when there are none left.
-/

namespace Colloquy

/-- What answers a request, given what happened before it. -/
abbrev Transport := List Event → Wire.Request → Except Exception Wire.Response

/-- The text of content that a request carries. -/
def echoedContent : Value → Text
  | .text t => t
  | .list parts => (parts.map fun part => (part.field "text").textOrEmpty).flatten
  | _ => []

/-- The text of the last turn of the user among turns. -/
def echoedText (turns : List Value) : Text :=
  let isUser (turn : Value) : Bool := (turn.field "role").same (.ofString "user")
  match turns.reverse.find? isUser with
  | some turn => echoedContent (turn.field "content")
  | none => []

/-- The response with a message in the canonical format. -/
def Wire.Response.ofMessage (message : Message) : Except Exception Wire.Response :=
  (dumpPayload (Canonical.message message)).map fun body => { status := 200, body, headers := [] }

/-- The greatest number of code points that are echoed. -/
def echoLimit : Nat := 100

/-- The message that echoes a text. -/
def echoMessage (text : Text) : Message :=
  .assistant ⟨some (.text (Text.concat ["echo: ", text.take echoLimit])), [], [], .inl rfl⟩

/-- The response that echoes the last turn of the user. -/
def echo (request : Wire.Request) : Except Exception Wire.Response := do
  let document ← request.document.mapError Json.DocumentFault.exception
  Wire.Response.ofMessage (echoMessage (echoedText (document.field "messages").itemsOrNone))

/-- A reply of a script. -/
inductive Reply
  | message (m : Message)
  | response (r : Wire.Response)
  | failure (e : Exception)

/-- The response of a reply. -/
def Reply.respond : Reply → Except Exception Wire.Response
  | .message m => Wire.Response.ofMessage m
  | .response r => .ok r
  | .failure e => .error e

/-- How many requests there are among events. -/
def countRequests (events : List Event) : Nat :=
  ({ events } : Ledger).requests.length

/-- The transport that plays a script. -/
def Transport.scripted (script : List Reply) : Transport := fun events request =>
  match script[countRequests events]? with
  | some reply => reply.respond
  | none => echo request

end Colloquy
