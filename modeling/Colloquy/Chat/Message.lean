import Colloquy.Error.Basic

/-!
# Messages

A message is a system, user, assistant or tool message. Its content is plain text
or an ordered sequence of text and image parts. What a message must satisfy is
part of its type; values that a caller offers become messages through checks that
name the first fault.
-/

namespace Colloquy

/-! ## Content -/

/-- A part of content: a span of text, or an image by its address. -/
inductive Part
  | text (t : Text)
  | image (url : Text) (detail : Value) (addressed : url ≠ [])

/-- The content of a message. -/
inductive Content
  | text (t : Text)
  | parts (items : List Part)

namespace Part

/-- The text of a part, none of an image. -/
def text? : Part → Option Text
  | .text t => some t
  | .image .. => none

/-- Whether a part is an image. -/
def isImage : Part → Bool
  | .text _ => false
  | .image .. => true

/-- A span of text. -/
def ofText? : Value → Except Exception Part
  | .text t => .ok (.text t)
  | _ => .error (.type "text: must be a str")

/-- An image. -/
def ofImage? (url detail : Value) : Except Exception Part :=
  let fault := Exception.value "url: must be a non-empty str"
  match url with
  | .text url => if h : url ≠ [] then .ok (.image url detail h) else .error fault
  | _ => .error fault

/-- Whether two parts are equal. -/
def same : Part → Part → Bool
  | .text a, .text b => a == b
  | .image a d _, .image b e _ => a == b && d.same e
  | _, _ => false

end Part

/-- The text of optional content, without what is no text. -/
def Content.plainText : Option Content → Text
  | none => []
  | some (.text t) => t
  | some (.parts items) => (items.filterMap Part.text?).flatten

/-- The images of optional content, in order. -/
def Content.images : Option Content → List Part
  | some (.parts items) => items.filter Part.isImage
  | _ => []

/-- Whether two contents are equal. Text differs from a sequence with one span of it. -/
def Content.same : Option Content → Option Content → Bool
  | none, none => true
  | some (.text a), some (.text b) => a == b
  | some (.parts as), some (.parts bs) =>
    as.length == bs.length && (as.zip bs).all fun (a, b) => a.same b
  | _, _ => false

/-- What a caller offers as a sequence: none when it is no sequence, and in it none for each
item of a wrong type. -/
abbrev Offered (α : Type) := Option (List (Option α))

/-- The items of an offered sequence, when every one has the right type. -/
def Offered.items? (offered : Offered α) : Option (List α) :=
  offered.bind fun items => items.mapM id

/-- What a caller offers as content. -/
inductive OfferedContent
  | absent
  | text (t : Text)
  | sequence (offered : Offered Part)

/-- Content from what a caller offers. -/
def OfferedContent.check : OfferedContent → Except Exception (Option Content)
  | .absent => .ok none
  | .text t => .ok (some (.text t))
  | .sequence offered =>
    match offered.items? with
    | some parts => .ok (some (.parts parts))
    | none => .error (.type "content: must be a str or a sequence of TextPart/ImagePart")

/-! ## Tool calls -/

/-- A request of the model to run a tool. The arguments are the text that the model wrote; they
are read when the tool runs. -/
structure ToolCall where
  id : Text
  name : Text
  arguments : Text
  identified : id ≠ []
  named : name ≠ []
  deriving DecidableEq

/-- A tool call from what a caller offers. -/
def ToolCall.make? (id name arguments : Value) : Except Exception ToolCall :=
  let badId := Exception.value "id: must be a non-empty str"
  let badName := Exception.value "name: must be a non-empty str"
  match id with
  | .text id =>
    if hid : id ≠ [] then
      match name with
      | .text name =>
        if hname : name ≠ [] then
          match arguments with
          | .text arguments => .ok ⟨id, name, arguments, hid, hname⟩
          | _ => .error (.type "arguments: must be a serialized str")
        else .error badName
      | _ => .error badName
    else .error badId
  | _ => .error badId

/-! ## Messages -/

/-- A turn of the model: content, tool calls, or both. -/
structure AssistantMessage where
  content : Option Content
  calls : List ToolCall
  metadata : Fields
  spoken : content.isSome ∨ calls ≠ []

/-- A message of a conversation. -/
inductive Message
  | system (content : Option Content) (metadata : Fields)
  | user (content : Option Content) (metadata : Fields)
  | assistant (turn : AssistantMessage)
  | tool (callId : Text) (content : Option Content) (metadata : Fields) (identified : callId ≠ [])

/-- The roles of messages. -/
inductive Role
  | system
  | user
  | assistant
  | tool
  deriving DecidableEq

/-- The name of a role. -/
def Role.name : Role → Text
  | .system => "system"
  | .user => "user"
  | .assistant => "assistant"
  | .tool => "tool"

namespace Message

/-- The role of a message. -/
def role : Message → Role
  | .system .. => .system
  | .user .. => .user
  | .assistant .. => .assistant
  | .tool .. => .tool

/-- The content of a message. -/
def content : Message → Option Content
  | .system content _ => content
  | .user content _ => content
  | .assistant turn => turn.content
  | .tool _ content _ _ => content

/-- The metadata of a message. -/
def metadata : Message → Fields
  | .system _ metadata => metadata
  | .user _ metadata => metadata
  | .assistant turn => turn.metadata
  | .tool _ _ metadata _ => metadata

/-- The text of a message. -/
def plainText (m : Message) : Text :=
  Content.plainText m.content

/-- Whether a message holds an image. -/
def hasImages (m : Message) : Bool :=
  !(Content.images m.content).isEmpty

/-- The tool calls of a message. -/
def calls : Message → List ToolCall
  | .assistant turn => turn.calls
  | _ => []

/-- The turn of the model that a message is. -/
def assistant? : Message → Option AssistantMessage
  | .assistant turn => some turn
  | _ => none

/-- Whether two messages are equal. -/
def same (a b : Message) : Bool :=
  a.role == b.role && Content.same a.content b.content && a.calls == b.calls
    && (Value.object a.metadata).same (.object b.metadata)
    && match a, b with
      | .tool a _ _ _, .tool b _ _ _ => a == b
      | _, _ => true

/-- A system message from what a caller offers. -/
def system? (content : OfferedContent) (metadata : Fields) : Except Exception Message := do
  return .system (← content.check) metadata

/-- A user message from what a caller offers. -/
def user? (content : OfferedContent) (metadata : Fields) : Except Exception Message := do
  return .user (← content.check) metadata

/-- An assistant message from what a caller offers. -/
def assistantOf? (content : OfferedContent) (calls : Offered ToolCall) (metadata : Fields) :
    Except Exception AssistantMessage := do
  let content ← content.check
  match calls.items? with
  | none => throw (.type "tool_calls: must be a tuple of ToolCall")
  | some calls =>
    if h : content.isSome ∨ calls ≠ [] then
      return ⟨content, calls, metadata, h⟩
    else throw (.value "assistant message needs content, tool_calls, or both")

/-- A tool message from what a caller offers. -/
def tool? (callId : Value) (content : OfferedContent) (metadata : Fields) :
    Except Exception Message :=
  let fault := Exception.value "tool_call_id: must be a non-empty str"
  match callId with
  | .text id =>
    if h : id ≠ [] then do
      return .tool id (← content.check) metadata h
    else .error fault
  | _ => .error fault

/-- A user message of plain text. -/
def ofUser (t : Text) : Message :=
  .user (some (.text t)) []

end Message

end Colloquy
