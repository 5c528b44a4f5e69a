import Colloquy.Program.Outcome

/-!
# Plans

A plan says how to build a program. It is inert: nothing is issued and no callback
runs before the plan is built. Callbacks give plans, so that every program that
comes of one is a new one.
-/

namespace Colloquy

/-- How to build a program. -/
inductive Plan
  /-- The program with a final value. -/
  | pure (value : Outcome)
  /-- Asks the backend for the next message of a chat. -/
  | generate (chat : Chat)
  /-- Runs the tool of a call. -/
  | execute (call : ToolCall)
  /-- Ends with a result, whatever was to come after. -/
  | done (result : Outcome)
  /-- The first program, and after it the one that the callback gives for its value. -/
  | andThen (first : Plan) (next : Outcome → Plan)
  /-- A program without operation and value. -/
  | neither
  /-- A program with the operation that ends with a result, and with a value too. -/
  | both (result value : Outcome)
  /-- Raises an exception instead of giving a program. -/
  | raise (e : Exception)
  /-- Gives something that is no program. -/
  | stray (value : Outcome)
  /-- Leaves a note when it is built. -/
  | note (name : Text) (plan : Plan)

namespace Plan

instance : Inhabited Plan := ⟨.neither⟩

/-- The plan that raises, or the one that is given. -/
def ofExcept : Except Exception Plan → Plan
  | .ok plan => plan
  | .error e => .raise e

/-- The callback that gives a changed value. -/
def lift (f : Outcome → Except Exception Outcome) (value : Outcome) : Plan :=
  ofExcept ((f value).map .pure)

/-- The program whose value is changed by a function. -/
def map (plan : Plan) (f : Outcome → Except Exception Outcome) : Plan :=
  plan.andThen (lift f)

/-- The program whose value is a chat with a message at its end. -/
def addMessage (chat : Chat) (message : Message) : Plan :=
  .pure (.success (.chat (chat.addMessage message)))

/-- What comes after a chat: the reply to it; anything else is passed on. -/
def reply : Outcome → Plan
  | .success (.chat chat) => .generate chat
  | other => .pure other

/-- Adds the turn of a user and asks for the reply. -/
def send (chat : Chat) (turn : Message) : Plan :=
  (addMessage chat turn).andThen reply

/-- Refuses what is no operation. -/
def ofNonOperation (value : Value) : Plan :=
  .raise (.own (.internal (Text.concat ["Not an operation: ", value.typeName])))

end Plan

end Colloquy
