import Colloquy.Chat.Basic
import Colloquy.Provider.Capability
import Colloquy.Provider.Expect
import Colloquy.Text.Digit
import Colloquy.Value.Access
import Colloquy.Wire.Basic

/-!
# Chat completions

The wire format of OpenAI and of the backends that follow it. Messages go one to
one; arguments of tool calls travel as text. Mistral differs in the words of the
tool choice and in the key of the limit: it cannot force one tool, so a specific
choice narrows the tools to the named one and forces any.
-/

namespace Colloquy.OpenAI

/-! ## Requests -/

/-- Whether a model counts its reasoning in the limit, which then has a key of its own: a small
o followed by a digit. -/
def countsReasoning : Text → Bool
  | 0x6f :: c :: _ => Text.isDigit c
  | _ => false

/-- A part of the content of a user message. -/
def part : Part → Value
  | .text t => .object [("type", .ofString "text"), ("text", .text t)]
  | .image url detail _ =>
    let image : Fields :=
      ("url", .text url) :: if detail.isNull then [] else [("detail", detail)]
    .object [("type", .ofString "image_url"), ("image_url", .object image)]

/-- The content of a user message. -/
def userContent : Option Content → Except Exception Value
  | some (.text t) => .ok (.text t)
  | some (.parts items) => .ok (.list (items.map part))
  | none => .error (Value.notIterable .null)

/-- A tool call of an assistant message. -/
def toolCall (call : ToolCall) : Value :=
  .object [("id", .text call.id), ("type", .ofString "function"),
    ("function", .object [("name", .text call.name), ("arguments", .text call.arguments)])]

/-- A message. -/
def message : Message → Except Exception Value
  | .system content _ =>
    .ok (.object [("role", .ofString "system"), ("content", .text (Content.plainText content))])
  | .user content _ => do
    return .object [("role", .ofString "user"), ("content", ← userContent content)]
  | .tool id content _ _ =>
    .ok (.object [("role", .ofString "tool"), ("tool_call_id", .text id),
      ("content", .text (Content.plainText content))])
  | .assistant turn =>
    let content : Value := match turn.content with
      | none => .null
      | some content => .text (Content.plainText (some content))
    let calls : Fields :=
      if turn.calls = [] then [] else [("tool_calls", .list (turn.calls.map toolCall))]
    .ok (.object (Assoc.concat [[("role", .ofString "assistant"), ("content", content)], calls]))

/-- The messages of a chat, with the system prompt in front. -/
def messages (chat : Chat) : Except Exception (List Value) := do
  let front : List Value :=
    if chat.systemPrompt.truthy then
      [.object [("role", .ofString "system"), ("content", chat.systemPrompt)]]
    else []
  return front ++ (← chat.history.mapM message)

/-- A tool. -/
def tool (spec : ToolSpec) : Value :=
  .object [("type", .ofString "function"),
    ("function", .object [("name", .text spec.name), ("description", spec.description),
      ("parameters", .object spec.parameters)])]

/-- The tool choice. -/
def toolChoice : Option ToolChoice → Value
  | none => .ofString "auto"
  | some .auto => .ofString "auto"
  | some .any => .ofString "required"
  | some .none => .ofString "none"
  | some (.specific name) =>
    .object [("type", .ofString "function"), ("function", .object [("name", name)])]

/-- The dialects of the format. -/
inductive Dialect
  | openai
  | mistral
  deriving DecidableEq

namespace Dialect

/-- The provider that speaks a dialect. -/
def provider : Dialect → Provider
  | .openai => .openai
  | .mistral => .mistral

/-- The key of the limit of tokens for a model. -/
def limitKey (d : Dialect) (model : Text) : Text :=
  match d with
  | .openai => if countsReasoning model then "max_completion_tokens" else "max_tokens"
  | .mistral => "max_tokens"

/-- The tools of a chat that are sent. -/
def tools (d : Dialect) (chat : Chat) : List ToolSpec :=
  match d, chat.toolChoice with
  | .mistral, some (.specific name) => chat.tools.filter fun spec => name.same (.text spec.name)
  | _, _ => chat.tools

/-- The tool choice of a chat. -/
def choice (d : Dialect) (chat : Chat) : Value :=
  match d, chat.toolChoice with
  | .mistral, some .any => .ofString "any"
  | .mistral, some (.specific _) => .ofString "any"
  | _, choice => toolChoice choice

/-- The payload for a chat. -/
def payload (d : Dialect) (model : Text) (chat : Chat) : Except Exception Value := do
  let messages ← messages chat
  let tools := d.tools chat
  let toolFields : Fields :=
    if tools.isEmpty then []
    else [("tools", .list (tools.map tool)), ("tool_choice", d.choice chat)]
  return .object
    (Assoc.concat [[("model", .text model), ("messages", .list messages),
      (d.limitKey model, chat.maxOutputTokens.toValue)], toolFields])

end Dialect

/-- The headers of a request. -/
def headers (apiKey organization : Value) : Fields :=
  Assoc.concat
    [[("Authorization", .text (Text.concat ["Bearer ", apiKey.inText])),
        ("Content-Type", .ofString "application/json")],
      if organization.truthy then [("OpenAI-Organization", organization)] else []]

/-! ## Replies -/

/-- The text of the arguments of a call: as they are when they are a text, else written as a
document, with nothing for the empty object. -/
def argumentsOf (arguments : Value) : Except Exception Text :=
  match arguments with
  | .text t => .ok t
  | .null => dumpText (.object [])
  | other => dumpText other

/-- The error for a reply that holds no message. -/
def malformed (provider : Text) (what : Text) : Error :=
  .malformedOf provider what

/-- A tool call of a reply. -/
def callOf (provider : Text) (raw : Value) : Except Exception ToolCall := do
  let raw ← expectObject "tool call is not an object" raw |>.mapError .own
  let function ← expectObject "tool call has no 'function'" (Value.ofField raw "function")
    |>.mapError .own
  let name ← expectText "tool call has no name" (Value.ofField function "name") |>.mapError .own
  let arguments ← argumentsOf (Value.ofField function "arguments")
  match Value.ofField raw "id" with
  | .text (c :: id) => ToolCall.make? (.text (c :: id)) (.text name) (.text arguments)
  | _ => throw (.own (malformed provider "tool call has no id"))

/-- The single call of a reply in the older form, which has no identifier. -/
def legacyCall? (legacy : Value) : Except Exception (List ToolCall) :=
  match legacy with
  | .object fields =>
    let name := Value.ofField fields "name"
    if name.truthy then do
      let call ← ToolCall.make? (.text (Text.concat ["legacy_function_", name.inText])) name
        ((Value.ofField fields "arguments").orElse (.ofString "\x7b\x7d"))
      return [call]
    else .ok []
  | _ => .ok []

/-- The content of a reply: its text, or without text and calls its refusal. -/
def contentOf (provider : Text) (message : Fields) (calls : List ToolCall) :
    Except Exception (Option Content) :=
  let content := Value.ofField message "content"
  let content :=
    if content.isNull && calls.isEmpty then Value.ofField message "refusal" else content
  match content with
  | .text t => .ok (some (.text t))
  | .null =>
    if calls.isEmpty then
      .error (.own (malformed provider "message has neither content nor tool calls"))
    else .ok none
  | _ => .error (.own (malformed provider "non-text content"))

/-- The message that a reply describes. -/
def assistantOf (provider : Text) (payload : Fields) : Except Exception AssistantMessage := do
  let choices ← expectList "missing 'choices'" (Value.ofField payload "choices") |>.mapError .own
  match choices with
  | [] => throw (.own (malformed provider "empty 'choices'"))
  | choice :: _ =>
    let choice ← expectObject "choice is not an object" choice |>.mapError .own
    let message ← expectObject "choice has no 'message'" (Value.ofField choice "message")
      |>.mapError .own
    let raws ← ((Value.ofField message "tool_calls").orElse (.list [])).iterate
    let modern ← raws.mapM (callOf provider)
    let calls ←
      if modern.isEmpty then legacyCall? (Value.ofField message "function_call") else pure modern
    let content ← contentOf provider message calls
    let metadata := metadataOf
      [("id", Value.ofField payload "id"), ("model", Value.ofField payload "model"),
        ("finish_reason", Value.ofField choice "finish_reason"),
        ("usage", Value.ofField payload "usage")]
    if h : content.isSome ∨ calls ≠ [] then return ⟨content, calls, metadata, h⟩
    else throw (.value "assistant message needs content, tool_calls, or both")

end Colloquy.OpenAI
