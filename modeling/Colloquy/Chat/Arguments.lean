import Colloquy.Chat.Message
import Colloquy.Error.Document
import Colloquy.Text.Blank

/-!
# Arguments of tool calls

The arguments of a call are kept as the text that the model wrote. A backend that
wants them as an object reads them here; blank arguments are the empty object.
-/

namespace Colloquy

/-- The text of arguments, with blank ones as the empty object. -/
def argumentText (arguments : Text) : Text :=
  match Text.strip arguments with
  | [] => [0x7b, 0x7d]
  | text => text

/-- The arguments of a call of the tool `toolName` as an object. -/
def loadArguments (arguments toolName : Text) : Except Exception Fields := do
  let front := Text.concat ["Arguments of tool call ", toolName.quoted]
  let value ← (Json.read (argumentText arguments)).mapError fun fault =>
    Json.DocumentFault.reported (front ++ " are not valid JSON") (.text fault)
  match value with
  | .object fields => return fields
  | _ => throw (.own (.serialization (front ++ " must be a JSON object")))

/-- The arguments of a call as an object. -/
def ToolCall.argumentFields (call : ToolCall) : Except Exception Fields :=
  loadArguments call.arguments call.name

end Colloquy
