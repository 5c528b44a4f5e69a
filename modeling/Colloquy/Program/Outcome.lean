import Colloquy.Chat.Basic
import Colloquy.Tool.Basic

/-!
# Outcomes

Failures flow through a program as data: what an operation gives is a success or a
failure, and callbacks may pass on any bare item instead.
-/

namespace Colloquy

/-- What a program can give: a chat, the result of a tool, or any value. -/
inductive Item
  | value (v : Value)
  | chat (c : Chat)
  | toolResult (r : ToolResult)

/-- An item that stands for a success, an exception that stands for a failure, or a bare item. -/
inductive Outcome
  | plain (item : Item)
  | success (item : Item)
  | failure (e : Exception)

/-- The name of the type of an item. -/
def Item.typeName : Item → Text
  | .value v => v.typeName
  | .chat _ => "Chat"
  | .toolResult _ => "ToolResult"

namespace Outcome

/-- The name of the type of an outcome. -/
def typeName : Outcome → Text
  | .plain item => item.typeName
  | .success _ => "Success"
  | .failure _ => "Failure"

/-- The exception that an outcome carries, if it is a failure. -/
def failure? : Outcome → Option Exception
  | .failure e => some e
  | _ => none

/-- The item of a success; a failure raises what it carries. -/
def unwrap : Outcome → Except Exception Item
  | .success item => .ok item
  | .failure e => .error e
  | .plain item => .error (.type (Text.concat ["expected Success or Failure, got ", item.typeName]))

end Outcome

end Colloquy
