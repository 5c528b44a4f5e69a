import Colloquy.Chat.Arguments
import Colloquy.Chat.Basic
import Colloquy.Chat.InlineImage
import Colloquy.Provider.Anthropic
import Colloquy.Url.Basic

/-!
# Contents of parts

The wire format of Gemini. A conversation is a sequence of contents, each a role
with parts; neighbouring contents of one role are one. Calls have no identifiers
on the wire, so calls of a reply are numbered, and a tool message is matched to
the name of its call through the history.
-/

namespace Colloquy.Gemini

/-! ## Contents -/

/-- The two roles of contents. -/
inductive Role
  | user
  | model
  deriving DecidableEq

/-- The name of a role. -/
def Role.name : Role → Text
  | .user => "user"
  | .model => "model"

/-- A role with its parts. -/
structure Item where
  role : Role
  parts : List Value

/-- The contents with one more, whose parts go to the last one of the same role. -/
def addItem (items : List Item) (item : Item) : List Item :=
  match items.getLast? with
  | some last =>
    if last.role = item.role then items.dropLast ++ [⟨item.role, last.parts ++ item.parts⟩]
    else items ++ [item]
  | none => [item]

/-- Contents as they are sent. -/
def Item.toValue (item : Item) : Value :=
  .object [("role", .text item.role.name), ("parts", .list item.parts)]

/-! ## Messages -/

/-- A part of content. -/
def part : Part → Value
  | .text t => .object [("text", .text t)]
  | .image url _ _ =>
    match InlineImage.ofUrl? url with
    | some image => .object [("inlineData",
        .object [("mimeType", .text image.mediaType), ("data", .text image.data)])]
    | none => .object [("fileData",
        .object [("mimeType", .ofString "image/jpeg"), ("fileUri", .text url)])]

/-- The parts of content. -/
def parts : Content → List Value
  | .text t => [.object [("text", .text t)]]
  | .parts items => items.map part

/-- The part of a tool call. -/
def callPart (call : ToolCall) : Except Exception Value := do
  return .object [("functionCall",
    .object [("name", .text call.name), ("args", .object (← call.argumentFields))])]

/-- The part of a tool result. -/
def resultPart (name : Text) (content : Option Content) : Value :=
  .object [("functionResponse", .object [("name", .text name),
    ("response", .object [("content", .text (Content.plainText content))])])]

/-- The names of the calls that were made so far, by identifier. -/
abbrev CallNames := Assoc Text

/-- The names after the calls of a message; the last call of an identifier counts. -/
def CallNames.add (names : CallNames) (calls : List ToolCall) : CallNames :=
  calls.foldl (fun names call => Assoc.set names call.id call.name) names

/-- The error for a tool message that answers no call. -/
def unmatched (callId : Text) : Error :=
  { cls := .serialization
    message := Text.concat ["Tool message ", callId.quoted, " has no matching assistant call"]
    hint := .ofString
      "Tool messages must follow the assistant message that requested them." }

/-- The contents of a message under the names of the earlier calls, none of a system message. -/
def itemOf (names : CallNames) : Message → Except Exception (Option Item)
  | .system _ _ => .ok none
  | .user content _ =>
    match content with
    | some content => .ok (some ⟨.user, parts content⟩)
    | none => .error (.type "'NoneType' object is not iterable")
  | .tool id content _ _ =>
    match Assoc.get? names id with
    | some name => .ok (some ⟨.user, [resultPart name content]⟩)
    | none => .error (.own (unmatched id))
  | .assistant turn => do
    let front := (turn.content.map parts).getD []
    return some ⟨.model, front ++ (← turn.calls.mapM callPart)⟩

/-- The contents of a history, each message under the names of the calls before it. -/
def itemsFrom (names : CallNames) : List Message → Except Exception (List Item)
  | [] => .ok []
  | message :: rest => do
    let item ← itemOf names message
    let items ← itemsFrom (names.add message.calls) rest
    return item.toList ++ items

/-- The merged contents of a history. -/
def items (history : List Message) : Except Exception (List Item) := do
  return (← itemsFrom [] history).foldl addItem []

/-! ## Requests -/

/-- A tool. -/
def tool (spec : ToolSpec) : Value :=
  .object [("name", .text spec.name), ("description", spec.description),
    ("parameters", .object spec.parameters)]

/-- The mode of a tool choice. -/
def mode : ToolChoice → Text
  | .auto => "AUTO"
  | .any => "ANY"
  | .none => "NONE"
  | .specific _ => "ANY"

/-- The tool choice. -/
def toolConfig (choice : ToolChoice) : Value :=
  let named : Fields := match choice with
    | .specific name => [("allowedFunctionNames", .list [name])]
    | _ => []
  let settings : Fields := Assoc.concat [[("mode", .text (mode choice))], named]
  .object [("functionCallingConfig", .object settings)]

/-- The payload for a chat. -/
def payload (chat : Chat) : Except Exception Value := do
  let items ← items chat.history
  let system ← Anthropic.joinTexts (Anthropic.systemParts chat)
  let systemFields : Fields :=
    if system = [] then []
    else [("systemInstruction",
      .object [("parts", .list [.object [("text", .text system)]])])]
  let toolFields : Fields :=
    if chat.tools.isEmpty then []
    else Assoc.concat
      [[("tools", .list [.object [("functionDeclarations", .list (chat.tools.map tool))]])],
        match chat.toolChoice with
        | none => []
        | some choice => [("toolConfig", toolConfig choice)]]
  return .object (Assoc.concat
    [[("contents", .list (items.map Item.toValue)),
        ("generationConfig",
          .object [("maxOutputTokens", chat.maxOutputTokens.toValue)])],
      systemFields, toolFields])

/-- Whether an octet stands for itself in the path of a model. -/
def isPlainOctet (b : UInt8) : Bool :=
  Url.isUnreserved b.toNat || b = 0x2f

/-- The name of a model within a path: octets other than letters, digits and a few signs are
written by number. -/
def quoteModel (model : Text) : Except Exception Text :=
  match Utf8.encode model with
  | .ok octets => .ok (octets.flatMap fun b =>
      if isPlainOctet b then [b.toNat] else Url.percentOctet b)
  | .error failure => .error (.foreign .unicodeEncode failure.message)

/-- The path of a model. -/
def path (model : Text) : Except Exception Text := do
  let quoted ← quoteModel (Text.dropFront "models/" model)
  return Text.concat ["models/", quoted, ":generateContent"]

/-- The headers of a request. -/
def headers (apiKey : Value) : Fields :=
  [("x-goog-api-key", apiKey), ("Content-Type", .ofString "application/json")]

/-! ## Replies -/

/-- The common name of the reason for which a reply ended. -/
def finishReason : Value → Value
  | .text reason => .text (Text.lower reason)
  | _ => .null

/-- The identifier of a call: the one of the backend, else its number within the reply. -/
def callId (given : Value) (position : Nat) : Text :=
  match given with
  | .text (c :: id) => c :: id
  | _ => Text.concat ["gemini_call_", Text.ofNat position]

/-- The call of a part that has one, the one at `position` in the reply. -/
def callOf? (position : Nat) (part : Fields) : Except Exception (Option ToolCall) :=
  match Value.ofField part "functionCall" with
  | .object call => do
    let name ← expectText "functionCall has no name" (Value.ofField call "name") |>.mapError .own
    let arguments ← dumpText ((Value.ofField call "args").orElse (.object []))
    return some (← ToolCall.make? (.text (callId (Value.ofField call "id") position))
      (.text name) (.text arguments))
  | _ => .ok none

/-- The text of a part that has one. -/
def textOf? (part : Fields) : Option Text :=
  match Value.ofField part "text" with
  | .text t => some t
  | _ => none

/-- The texts and the calls of the parts of a reply, after `count` calls. -/
def readParts (count : Nat) : List Value → Except Exception (List Text × List ToolCall)
  | [] => .ok ([], [])
  | part :: rest => do
    let part ← expectObject "part is not an object" part |>.mapError .own
    let call ← callOf? (count + 1) part
    let (texts, calls) ← readParts (count + call.toList.length) rest
    return ((textOf? part).toList ++ texts, call.toList ++ calls)

/-- The message that a reply describes. -/
def assistantOf (payload : Fields) : Except Exception AssistantMessage := do
  let candidates ← expectList "missing 'candidates'" (Value.ofField payload "candidates")
    |>.mapError .own
  match candidates with
  | [] => throw (.own (.malformedOf "gemini" (Text.concat ["no candidates (promptFeedback=",
      (Value.ofField payload "promptFeedback").shown, ")"])))
  | candidate :: _ =>
    let candidate ← expectObject "candidate is not an object" candidate |>.mapError .own
    let content ← expectObject "candidate content"
      ((Value.ofField candidate "content").orElse (.object [])) |>.mapError .own
    let parts ← expectList "candidate parts"
      ((Value.ofField content "parts").orElse (.list [])) |>.mapError .own
    let (texts, calls) ← readParts 0 parts
    let text : Option Content := if texts.isEmpty then none else some (.text texts.flatten)
    let metadata := metadataOf
      [("model", Value.ofField payload "modelVersion"),
        ("finish_reason", finishReason (Value.ofField candidate "finishReason")),
        ("usage", Value.ofField payload "usageMetadata")]
    if h : text.isSome ∨ calls ≠ [] then return ⟨text, calls, metadata, h⟩
    else throw (.own (.malformedOf "gemini" "candidate has no parts"))

end Colloquy.Gemini
