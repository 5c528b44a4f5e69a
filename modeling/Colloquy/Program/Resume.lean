import Colloquy.Program.Build

/-!
# Going on with a program

The result of an operation goes to its continuation, which gives the next program.
After a generation with tool calls the calls are answered in order, each with one
message, and the model is asked again.
-/

namespace Colloquy

/-! ## Tool rounds -/

/-- The program that runs a tool call, followed by frames. -/
def Program.executing (call : ToolCall) (frames : List Frame) : Act Program := do
  let first ← Cont.issue [] (.callback .pure)
  let k ← frames.foldlM (fun k frame => Cont.issue [] (.extended k frame)) first
  return .pending (.execute call k)

/-- The program that answers the calls of a message in order and then generates again. -/
def ToolLoop.answering (loop : ToolLoop) (chat : Chat) (call : ToolCall) (others : List ToolCall)
    (k : Cont) (count : Nat) : Act Program :=
  Program.executing call
    (.record chat call loop.policy :: others.map (.answer · loop.policy)
      ++ [.regenerate loop k count])

/-- The message that tells the model how a call failed. -/
def ToolCall.failureMessage (call : ToolCall) (e : Exception) : Message :=
  .tool call.id (some (.text (Text.concat ["Error: ", e.text]))) [] call.identified

/-- What answering a call makes of its outcome: the chat with the message that answers it. A
failure is told to the model, or it is passed on. -/
def recordAnswer (chat : Chat) (call : ToolCall) :
    ToolErrorPolicy → Outcome → Except Exception Outcome
  | _, .success (.toolResult result) => do
    return .success (.chat (chat.addMessage (← result.toMessage?)))
  | _, .success item => .error (.missingAttribute item.typeName "to_message")
  | .continue, .failure e => .ok (.success (.chat (chat.addMessage (call.failureMessage e))))
  | .continue, .plain item => .error (.missingAttribute item.typeName "error")
  | .raise, other => .ok other

/-- The calls that a chat ends with. -/
def Chat.pendingCalls (chat : Chat) : List ToolCall :=
  match chat.lastMessage? with
  | some message => message.calls
  | none => []

/-! ## Going on -/

mutual

/-- Goes on with the result of an operation, which uses the continuation up. -/
def Cont.call : Cont → Outcome → Act Program
  | ⟨number, _, body⟩, result => do
    if ← Act.spend number then (← body.call result).expect "Continuation"
    else throw (.own (.internal "Continuation invoked more than once"))

/-- What a continuation does with the result of an operation. -/
def Body.call : Body → Outcome → Act Built
  | .callback f, result => (f result).build
  | .extended k frame, result => do
    let p ← k.call result
    return .program (← p.sequence frame fun value => frame.call value)
  | .rounds loop k count, result =>
    match result with
    | .failure _ => do return .program (← k.call result)
    | .success (.chat chat) =>
      match chat.pendingCalls with
      | [] => do return .program (← k.call result)
      | call :: others => do
        if loop.limit.reached count then
          return .program (← k.call (.failure (.own (.toolRounds loop.limit.toValue))))
        else return .program (← loop.answering chat call others k (count + 1))
    | .success item => throw (.missingAttribute item.typeName "most_recent_message")
    | .plain item => throw (.missingAttribute item.typeName "value")
  | .check names k, result =>
    match result with
    | .success (.chat chat) =>
      if chat.pendingCalls.any fun call => names.contains call.name then
        return .program (.pending (.done result))
      else do return .program (← k.call result)
    | .success item => throw (.missingAttribute item.typeName "most_recent_message")
    | _ => do return .program (← k.call result)

/-- What a frame does with the value of the program before it. -/
def Frame.call : Frame → Outcome → Act Built
  | .callback f, value => (f value).build
  | .answer call policy, value =>
    match value with
    | .failure _ => return .program (.final value)
    | .success (.chat chat) => do
      return .program (← Program.executing call [.record chat call policy])
    | .success item => throw (.missingAttribute item.typeName "add_message")
    | .plain item => throw (.missingAttribute item.typeName "value")
  | .record chat call policy, value => do
    return .program (.final (← Act.ofExcept (recordAnswer chat call policy value)))
  | .regenerate loop k count, value =>
    match value with
    | .failure _ => do return .program (← k.call value)
    | .success (.chat chat) => do
      let next ← Cont.issue [loop.owner] (.rounds loop k count)
      return .program (.pending (.generate chat next))
    | .success item => throw (.missingAttribute item.typeName "history")
    | .plain item => throw (.missingAttribute item.typeName "value")

end

/-- Goes on with the result of the pending operation of a program. -/
def Program.resume (p : Program) (result : Outcome) : Act Program :=
  match p.operation? with
  | some (.generate _ k) => k.call result
  | some (.execute _ k) => k.call result
  | some (.done _) => throw (.missingAttribute "Done" "resume")
  | none => throw (.missingAttribute "NoneType" "resume")

end Colloquy
