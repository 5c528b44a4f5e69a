import Colloquy.Chat.Arguments
import Colloquy.Ledger
import Colloquy.Tool.Definition

/-!
# Tools

A tool is a definition and a handler. The model of the definition makes an instance
of the text of the arguments before the handler gets them; what the handler returns
is written as text.
-/

namespace Colloquy

/-- What runs when a tool is called. It sees what has happened so far and its arguments. -/
abbrev Handler := List Event → ModelInstance → Except Exception Output

/-- A definition and the handler that runs for it. -/
structure Tool where
  definition : ToolDefinition
  handler : Handler

/-- What a call of a tool gave, as text. -/
structure ToolResult where
  callId : Text
  content : Text
  toolName : Value

/-- The message that answers a call with its result. -/
def ToolResult.toMessage? (result : ToolResult) : Except Exception Message :=
  Message.tool? result.callId (.text result.content) []

/-! ## Arguments -/

/-- The error for the arguments of a call that no instance can be made of. -/
def ValidationError.reported (e : ValidationError) (call : ToolCall) : Error where
  cls := .toolArguments
  message := Text.concat ["Invalid arguments for tool ", call.name.quoted, ": ",
    Text.ofNat e.faults.length, " error(s)"]
  hint := e.first
  toolName := .text call.name
  toolCallId := .text call.id

namespace Tool

/-- The name of a tool. -/
def name (tool : Tool) : Text :=
  tool.definition.name

/-- The instance that is made of the arguments of a call. -/
def arguments (tool : Tool) (call : ToolCall) : Except Error ModelInstance :=
  (tool.definition.input.validate (argumentText call.arguments)).mapError (·.reported call)

/-! ## Output -/

/-- The document of what the handler returned: of an instance its own, of another value the one that
the type of the output makes, when there is a type. -/
def document (tool : Tool) : Output → Written
  | .text t => .ok t
  | .model i => i.document
  | .other value plain =>
    match tool.definition.output with
    | some type => type.document value
    | none => plain

/-- The error for an output that cannot be written. -/
def unwritable (tool : Tool) (fault : SerializationFault) : Error :=
  .serialization (Text.concat ["Output of tool ", tool.name.quoted,
    " is not JSON serializable: ", fault.text])

/-- The text of what the handler returned: text as it is, anything else as a document. -/
def written (tool : Tool) (output : Output) : Except Error Text :=
  (tool.document output).mapError tool.unwritable

end Tool

end Colloquy
