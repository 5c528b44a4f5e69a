import Colloquy.Provider.Capability
import Colloquy.Provider.Gemini
import Colloquy.Value.Access

/-!
# Local chat

The wire format of Ollama. Images have to be inline, no tool can be forced, and
calls have no identifiers: the calls of a reply are numbered, and a tool message
carries the name of its call when the history tells it.
-/

namespace Colloquy.Ollama

/-! ## Requests -/

/-- The data of an image, which has to be inline. -/
def imageData (url : Text) : Except Exception Value :=
  match InlineImage.ofUrl? url with
  | some image => .ok (.text image.data)
  | none => .error (.own
      { cls := .unsupportedFeature
        message := "ollama only accepts inline base64 images"
        provider := .ofString "ollama"
        hint := .ofString "Pass images as data:<mime>;base64,<data> URLs." })

/-- The data of a part that is an image. -/
def partData? : Part → Except Exception (Option Value)
  | .text _ => .ok none
  | .image url _ _ => (imageData url).map some

/-- The data of the images of content. -/
def imagesData : Option Content → Except Exception (List Value)
  | some (.parts items) => do return (← items.mapM partData?).filterMap id
  | _ => .ok []

/-- A tool call of an assistant message. -/
def toolCall (call : ToolCall) : Except Exception Value := do
  return .object [("function",
    .object [("name", .text call.name), ("arguments", .object (← call.argumentFields))])]

/-- A message under the names of the earlier calls. -/
def message (names : Gemini.CallNames) (m : Message) : Except Exception Value := do
  let front : Fields := [("role", .text m.role.name), ("content", .text m.plainText)]
  let more : Fields ← match m with
    | .system _ _ => pure []
    | .tool id _ _ _ =>
      pure <| match Assoc.get? names id with
        | some name => [("tool_name", .text name)]
        | none => []
    | .assistant turn =>
      if turn.calls = [] then pure []
      else do
        let calls ← turn.calls.mapM toolCall
        pure [("tool_calls", .list calls)]
    | .user content _ => do
      let images ← imagesData content
      pure (if images.isEmpty then [] else [("images", .list images)])
  return .object (Assoc.concat [front, more])

/-- The messages of a history, each under the names of the calls before it. -/
def messagesFrom (names : Gemini.CallNames) : List Message → Except Exception (List Value)
  | [] => .ok []
  | m :: rest => do
    let first ← message names m
    let others ← messagesFrom (names.add m.calls) rest
    return first :: others

/-- A tool. -/
def tool (spec : ToolSpec) : Value :=
  .object [("type", .ofString "function"),
    ("function", .object [("name", .text spec.name), ("description", spec.description),
      ("parameters", .object spec.parameters)])]

/-- The tools of a chat that are sent: a choice of none sends none. -/
def tools (chat : Chat) : List ToolSpec :=
  match chat.toolChoice with
  | some .none => []
  | _ => chat.tools

/-- The payload for a chat. -/
def payload (model : Text) (chat : Chat) : Except Exception Value := do
  let front : List Value :=
    if chat.systemPrompt.truthy then
      [.object [("role", .ofString "system"), ("content", chat.systemPrompt)]]
    else []
  let messages ← messagesFrom [] chat.history
  let toolFields : Fields :=
    if (tools chat).isEmpty then [] else [("tools", .list ((tools chat).map tool))]
  return .object (Assoc.concat
    [[("model", .text model), ("messages", .list (front ++ messages)),
        ("stream", .bool false),
        ("options", .object [("num_predict", chat.maxOutputTokens.toValue)])],
      toolFields])

/-- The headers of a request. -/
def headers : Fields :=
  [("Content-Type", .ofString "application/json")]

/-! ## Replies -/

/-- The text of the arguments of a call: as they are when they are a text, else written as a
document. -/
def argumentsOf (arguments : Value) : Except Exception Text :=
  match arguments.orElse (.object []) with
  | .text t => .ok t
  | other => dumpText other

/-- The call at `position` in a reply. -/
def callOf (position : Nat) (raw : Value) : Except Exception ToolCall := do
  let raw ← expectObject "tool call is not an object" raw |>.mapError .own
  let function ← expectObject "tool call has no 'function'" (Value.ofField raw "function")
    |>.mapError .own
  let name ← expectText "tool call has no name" (Value.ofField function "name") |>.mapError .own
  let arguments ← argumentsOf (Value.ofField function "arguments")
  ToolCall.make? (.text (Text.concat ["ollama_call_", Text.ofNat position])) (.text name)
    (.text arguments)

/-- The calls of a reply, after `count` calls. -/
def readCalls (count : Nat) : List Value → Except Exception (List ToolCall)
  | [] => .ok []
  | raw :: rest => do
    let call ← callOf (count + 1) raw
    let calls ← readCalls (count + 1) rest
    return call :: calls

/-- A count of tokens, zero when it is none. -/
def tokenCount : Value → Value
  | .int i => .int i
  | .bool b => .bool b
  | _ => .int 0

/-- Whether a value is a count of tokens. -/
def isTokenCount : Value → Bool
  | .int _ => true
  | .bool _ => true
  | _ => false

/-- The usage that a reply tells, null when it tells none. -/
def usage (payload : Fields) : Value :=
  let prompt := Value.ofField payload "prompt_eval_count"
  let completion := Value.ofField payload "eval_count"
  if isTokenCount prompt || isTokenCount completion then
    .object [("input_tokens", tokenCount prompt), ("output_tokens", tokenCount completion)]
  else .null

/-- The content of a reply. Content that counts as false is left out next to calls. -/
def contentOf (content : Value) (calls : List ToolCall) : Except Error (Option Content) :=
  match content with
  | .text t => if t = [] ∧ calls ≠ [] then .ok none else .ok (some (.text t))
  | .null =>
    if calls.isEmpty then .error (.malformedOf "ollama" "empty message") else .ok none
  | _ => .error (.malformedOf "ollama" "non-text content")

/-- The message that a reply describes. -/
def assistantOf (payload : Fields) : Except Exception AssistantMessage := do
  let message ← expectObject "missing 'message'" (Value.ofField payload "message") |>.mapError .own
  let raws ← ((Value.ofField message "tool_calls").orElse (.list [])).iterate
  let calls ← readCalls 0 raws
  let content ← contentOf (Value.ofField message "content") calls |>.mapError .own
  let metadata := metadataOf
    [("model", Value.ofField payload "model"),
      ("finish_reason", Value.ofField payload "done_reason"), ("usage", usage payload)]
  if h : content.isSome ∨ calls ≠ [] then return ⟨content, calls, metadata, h⟩
  else throw (.value "assistant message needs content, tool_calls, or both")

end Colloquy.Ollama
