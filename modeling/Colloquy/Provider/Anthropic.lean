import Colloquy.Chat.Arguments
import Colloquy.Chat.Basic
import Colloquy.Chat.InlineImage
import Colloquy.Provider.Expect
import Colloquy.Text.Case
import Colloquy.Wire.Basic

/-!
# Alternating turns

The wire format of Anthropic. Turns of the user and of the assistant alternate:
tool results travel as blocks of a user turn, and neighbouring turns of one role
are merged. System messages fold into one text at the top.
-/

namespace Colloquy.Anthropic

/-! ## Turns -/

/-- The two sides of a conversation. -/
inductive Side
  | user
  | assistant
  deriving DecidableEq

/-- The name of a side. -/
def Side.name : Side → Text
  | .user => "user"
  | .assistant => "assistant"

/-- The content of a turn: plain text or blocks. -/
inductive TurnContent
  | text (t : Text)
  | blocks (items : List Value)

/-- A turn of one side. -/
structure Turn where
  side : Side
  content : TurnContent

/-- A block of text. -/
def textBlock (t : Text) : Value :=
  .object [("type", .ofString "text"), ("text", .text t)]

/-- The content of a turn as blocks; plain text is one block. -/
def TurnContent.toBlocks : TurnContent → List Value
  | .text t => [textBlock t]
  | .blocks items => items

/-- The turns with one more, which is merged into the last one of the same side. -/
def addTurn (turns : List Turn) (turn : Turn) : List Turn :=
  match turns.getLast? with
  | some last =>
    if last.side = turn.side then
      turns.dropLast ++ [⟨turn.side, .blocks (last.content.toBlocks ++ turn.content.toBlocks)⟩]
    else turns ++ [turn]
  | none => [turn]

/-- A turn as it is sent. -/
def Turn.toValue (turn : Turn) : Value :=
  .object [("role", .text turn.side.name),
    ("content", match turn.content with
      | .text t => .text t
      | .blocks items => .list items)]

/-! ## Messages -/

/-- Where an image is found: its data when it is inline, else its address. -/
def imageSource (url : Text) : Value :=
  match InlineImage.ofUrl? url with
  | some image => .object [("type", .ofString "base64"), ("media_type", .text image.mediaType),
      ("data", .text image.data)]
  | none => .object [("type", .ofString "url"), ("url", .text url)]

/-- The block of a part of content. -/
def partBlock : Part → Value
  | .text t => textBlock t
  | .image url _ _ => .object [("type", .ofString "image"), ("source", imageSource url)]

/-- The content of a user message. -/
def userContent : Option Content → Except Exception TurnContent
  | some (.text t) => .ok (.text t)
  | some (.parts items) => .ok (.blocks (items.map partBlock))
  | none => .error (.type "'NoneType' object is not iterable")

/-- The block of a tool result. -/
def resultBlock (callId : Text) (content : Option Content) : Value :=
  .object [("type", .ofString "tool_result"), ("tool_use_id", .text callId),
    ("content", .text (Content.plainText content))]

/-- The block of a tool call. -/
def callBlock (call : ToolCall) : Except Exception Value := do
  return .object [("type", .ofString "tool_use"), ("id", .text call.id),
    ("name", .text call.name), ("input", .object (← call.argumentFields))]

/-- The blocks of a turn of the model: its text when there is any, then its calls. -/
def assistantBlocks (turn : AssistantMessage) : Except Exception (List Value) := do
  let text := Content.plainText turn.content
  let front := if text = [] then [] else [textBlock text]
  return front ++ (← turn.calls.mapM callBlock)

/-- The turn of a message, none of a system message. -/
def turnOf : Message → Except Exception (Option Turn)
  | .system _ _ => .ok none
  | .user content _ => do return some ⟨.user, ← userContent content⟩
  | .tool id content _ _ => .ok (some ⟨.user, .blocks [resultBlock id content]⟩)
  | .assistant turn => do
    return some ⟨.assistant, .blocks (← assistantBlocks turn)⟩

/-- The merged turns of a history. -/
def turns (history : List Message) : Except Exception (List Turn) := do
  let own ← history.mapM turnOf
  return (own.filterMap id).foldl addTurn []

/-- The text of a system message. -/
def systemText? : Message → Option Text
  | .system content _ => some (Content.plainText content)
  | _ => none

/-- The system prompt and the texts of the system messages, in order. The prompt is left out
when it counts as false. -/
def systemParts (chat : Chat) : List Value :=
  (if chat.systemPrompt.truthy then [chat.systemPrompt] else [])
    ++ (chat.history.filterMap systemText?).map Value.text

/-- The texts that count as true, with a blank line between neighbours. Only texts can be
joined; the exception names the place and type of the first other value. -/
def joinTexts (parts : List Value) : Except Exception Text := do
  let kept := parts.filter Value.truthy
  let texts ← (kept.zipIdx).mapM fun (part, i) => match part with
    | .text t => pure t
    | other => throw (Exception.type (Text.concat ["sequence item ", Text.ofNat i,
        ": expected str instance, ", other.typeName, " found"]))
  return Text.join "\n\n" texts

/-! ## Requests -/

/-- A tool. -/
def tool (spec : ToolSpec) : Value :=
  let schema : Fields :=
    if spec.parameters.isEmpty then [("type", .ofString "object")] else spec.parameters
  .object [("name", .text spec.name), ("description", spec.description),
    ("input_schema", .object schema)]

/-- The tool choice. -/
def toolChoice (choice : ToolChoice) : Value :=
  match choice with
  | .specific name => .object [("type", .ofString "tool"), ("name", name)]
  | other => .object [("type", .text other.mode)]

/-- The payload for a chat. -/
def payload (model : Text) (chat : Chat) : Except Exception Value := do
  let turns ← turns chat.history
  let parts := systemParts chat
  let systemFields : Fields ←
    if parts.isEmpty then pure []
    else do
      let text ← joinTexts parts
      pure [("system", .text text)]
  let toolFields : Fields :=
    if chat.tools.isEmpty then []
    else Assoc.concat
      [[("tools", .list (chat.tools.map tool))],
        match chat.toolChoice with
        | none => []
        | some choice => [("tool_choice", toolChoice choice)]]
  return .object (Assoc.concat
    [[("model", .text model), ("max_tokens", chat.maxOutputTokens.toValue),
        ("messages", .list (turns.map Turn.toValue))],
      systemFields, toolFields])

/-- The headers of a request. -/
def headers (apiKey : Value) : Fields :=
  [("x-api-key", apiKey), ("anthropic-version", .ofString "2023-06-01"),
    ("content-type", .ofString "application/json")]

/-! ## Replies -/

/-- The common name of the reason for which a reply ended. -/
def stopReason (reason : Value) : Value :=
  if reason.isNull then .null
  else
    let name := Text.lower reason.inText
    if name = "end_turn" ∨ name = "stop_sequence" then .ofString "stop"
    else if name = "tool_use" then .ofString "tool_calls"
    else .text name

/-- What a block of a reply adds to it: text, a call, or nothing. -/
inductive ReplyPiece
  | text (t : Text)
  | call (c : ToolCall)
  | other

/-- The piece that a block of a reply stands for. -/
def pieceOf (block : Value) : Except Exception ReplyPiece := do
  let block ← expectObject "content block is not an object" block |>.mapError .own
  let kind := Value.ofField block "type"
  if kind.same (.ofString "text") then
    let t ← expectText "text block has no text" (Value.ofField block "text") |>.mapError .own
    return .text t
  else if kind.same (.ofString "tool_use") then
    let id ← expectText "tool_use block has no id" (Value.ofField block "id") |>.mapError .own
    let name ← expectText "tool_use block has no name" (Value.ofField block "name")
      |>.mapError .own
    let arguments ← dumpText ((Value.ofField block "input").orElse (.object []))
    return .call (← ToolCall.make? (.text id) (.text name) (.text arguments))
  else return .other

/-- The text of a piece. -/
def ReplyPiece.text? : ReplyPiece → Option Text
  | .text t => some t
  | _ => none

/-- The call of a piece. -/
def ReplyPiece.call? : ReplyPiece → Option ToolCall
  | .call c => some c
  | _ => none

/-- The message that a reply describes. -/
def assistantOf (payload : Fields) : Except Exception AssistantMessage := do
  let blocks ← expectList "missing 'content'" (Value.ofField payload "content") |>.mapError .own
  let pieces ← blocks.mapM pieceOf
  let texts := pieces.filterMap ReplyPiece.text?
  let calls := pieces.filterMap ReplyPiece.call?
  let content : Option Content := if texts.isEmpty then none else some (.text texts.flatten)
  let metadata := metadataOf
    [("id", Value.ofField payload "id"), ("model", Value.ofField payload "model"),
      ("finish_reason", stopReason (Value.ofField payload "stop_reason")),
      ("usage", Value.ofField payload "usage")]
  if h : content.isSome ∨ calls ≠ [] then return ⟨content, calls, metadata, h⟩
  else throw (.own (.malformedOf "anthropic" "no text or tool_use blocks"))

end Colloquy.Anthropic
