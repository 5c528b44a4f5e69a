import Colloquy.Provider.Anthropic
import Colloquy.Provider.Canonical
import Colloquy.Provider.Capability
import Colloquy.Provider.Endpoint
import Colloquy.Provider.Failure
import Colloquy.Provider.Gemini
import Colloquy.Provider.Ollama
import Colloquy.Provider.OpenAI

/-!
# Exchanges with a backend

A backend turns a chat into a request and the body of a response into a message.
The address of a request is settled first, then the chat is checked against what
the backend can express, and last the payload is written.
-/

namespace Colloquy.Backend

/-! ## Requests -/

/-- The address of the resource that answers for a model. -/
def endpoint (b : Backend) (model : Text) : Except Exception Text :=
  match b.provider with
  | .openai => resolveEndpoint b.base "chat/completions"
  | .mistral => resolveEndpoint b.base "chat/completions"
  | .anthropic => resolveEndpoint b.base "messages"
  | .gemini => do
    let path ← Gemini.path model
    resolveEndpoint b.base path
  | .ollama => resolveEndpoint b.base "chat"
  | .mock => .ok b.provider.defaultBase

/-- The payload of a request. -/
def payload (b : Backend) (model : Text) (chat : Chat) : Except Exception Value :=
  match b.provider with
  | .openai => OpenAI.Dialect.openai.payload model chat
  | .mistral => OpenAI.Dialect.mistral.payload model chat
  | .anthropic => Anthropic.payload model chat
  | .gemini => Gemini.payload chat
  | .ollama => Ollama.payload model chat
  | .mock => .ok (Canonical.payload model chat)

/-- The headers of a request, the only place of a credential. -/
def headers (b : Backend) : Fields :=
  match b.provider with
  | .openai => OpenAI.headers b.apiKey b.organization
  | .mistral => OpenAI.headers b.apiKey .null
  | .anthropic => Anthropic.headers b.apiKey
  | .gemini => Gemini.headers b.apiKey
  | .ollama => Ollama.headers
  | .mock => Canonical.headers

/-- The request for the next message of a chat. -/
def buildRequest (b : Backend) (model : Value) (chat : Chat) : Except Exception Wire.Request := do
  let url ← b.endpoint model.inText
  checkChat chat b.provider.capabilities b.provider.name
  let payload ← b.payload model.inText chat
  let body ← dumpPayload payload
  return { method := "POST", url, headers := b.headers, body }

/-! ## Responses -/

/-- Whether a payload that came with success is looked into for an error. -/
def mayReportError (p : Provider) (payload : Value) : Bool :=
  match p with
  | .anthropic => (payload.field "type").same (.ofString "error")
  | .mock => false
  | _ => true

/-- The message that a payload describes in the format of a provider. -/
def assistantOf (p : Provider) (payload : Fields) : Except Exception AssistantMessage :=
  match p with
  | .openai => OpenAI.assistantOf p.name payload
  | .mistral => OpenAI.assistantOf p.name payload
  | .anthropic => Anthropic.assistantOf payload
  | .gemini => Gemini.assistantOf payload
  | .ollama => Ollama.assistantOf payload
  | .mock => Canonical.assistantOf payload

/-- The message in the body of a response. -/
def parseResponse (p : Provider) (body : Bytes) : Except Exception AssistantMessage := do
  let document ← loadDocument body
  let reported := if mayReportError p document then errorOfPayload? document p.name else none
  match reported with
  | some error => throw (.own error)
  | none =>
    let payload ← (expectObject "expected a JSON object" document).mapError .own
    (assistantOf p payload).mapError (.asMalformed p.name)

end Colloquy.Backend
