import Colloquy.Chat.Basic
import Colloquy.Provider.Expect
import Colloquy.Value.Access
import Colloquy.Wire.Basic

/-!
# The canonical format

Chats and messages as documents of their own form. It serves work without a
backend: a scripted or echoing transport answers in it. Metadata and the detail
of images are no part of it.
-/

namespace Colloquy.Canonical

/-! ## Writing -/

/-- A part of content. -/
def part : Part → Value
  | .text t => .object [("type", .ofString "text"), ("text", .text t)]
  | .image url _ _ => .object [("type", .ofString "image"), ("url", .text url)]

/-- Content, null when there is none. -/
def content : Option Content → Value
  | none => .null
  | some (.text t) => .text t
  | some (.parts items) => .list (items.map part)

/-- A tool call. -/
def toolCall (call : ToolCall) : Value :=
  .object [("id", .text call.id), ("name", .text call.name), ("arguments", .text call.arguments)]

/-- A message. -/
def message (m : Message) : Value :=
  let calls : Fields :=
    if m.calls = [] then [] else [("tool_calls", .list (m.calls.map toolCall))]
  let answered : Fields := match m with
    | .tool id _ _ _ => [("tool_call_id", .text id)]
    | _ => []
  .object (Assoc.concat
    [[("role", .text m.role.name), ("content", content m.content)], calls, answered])

/-- A tool. -/
def tool (spec : ToolSpec) : Value :=
  .object [("name", .text spec.name), ("description", spec.description),
    ("parameters", .object spec.parameters)]

/-- The tool choice. -/
def toolChoice : Option ToolChoice → Value
  | none => .null
  | some choice => .object [("mode", .text choice.mode), ("name", choice.toolName)]

/-- The payload for a chat. -/
def payload (model : Text) (chat : Chat) : Value :=
  .object [("model", .text model), ("system", chat.systemPrompt),
    ("messages", .list (chat.history.map message)), ("tools", .list (chat.tools.map tool)),
    ("tool_choice", toolChoice chat.toolChoice),
    ("max_output_tokens", chat.maxOutputTokens.toValue)]

/-- The headers of a request. -/
def headers : Fields :=
  [("Content-Type", .ofString "application/json")]

/-! ## Reading -/

/-- A tool call. -/
def readCall (raw : Value) : Except Exception ToolCall := do
  let id ← raw.entry "id"
  let name ← raw.entry "name"
  let arguments ← raw.lookup "arguments" (.ofString "\x7b\x7d")
  ToolCall.make? id name arguments

/-- A part of content. -/
def readPart (raw : Value) : Except Exception Part := do
  let kind ← raw.lookup "type" .null
  if kind.same (.ofString "text") then Part.ofText? (← raw.entry "text")
  else Part.ofImage? (← raw.entry "url") .null

/-- Content. -/
def readContent : Value → Except Exception (Option Content)
  | .null => .ok none
  | .text t => .ok (some (.text t))
  | other => do
    let parts ← (← other.iterate).mapM readPart
    return some (.parts parts)

/-- The assistant message of an object with its role. -/
def readAssistant (payload : Fields) : Except Exception AssistantMessage := do
  let raws ← ((Value.ofField payload "tool_calls").orElse (.list [])).iterate
  let calls ← raws.mapM readCall
  let content ← readContent (Value.ofField payload "content")
  if h : content.isSome ∨ calls ≠ [] then return ⟨content, calls, [], h⟩
  else throw (.value "assistant message needs content, tool_calls, or both")

/-- The error for what is no assistant message. -/
def invalid : Exception → Exception
  | .foreign c text =>
    if c.isA .key || c.isA .missingAttribute || c.isA .type || c.isA .value then
      .own (.malformedOf "mock" text)
    else .foreign c text
  | other => other

/-- The assistant message that an object describes. -/
def assistantOf (payload : Fields) : Except Exception AssistantMessage :=
  if (Value.ofField payload "role").same (.ofString "assistant") then
    (readAssistant payload).mapError invalid
  else .error (.own (.malformedOf "mock" "role must be 'assistant'"))

end Colloquy.Canonical
