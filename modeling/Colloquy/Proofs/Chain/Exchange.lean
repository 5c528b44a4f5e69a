import Colloquy.Chain.Generation
import Colloquy.Proofs.Error.Escape
import Colloquy.Proofs.Ledger.Act

/-!
# Exchanges and tool calls

An exchange and a tool call are given here event by event.  Neither looks at the
numbers of continuations, so each has a course: `Generator.ask` and
`Executor.carryOut`.
-/

namespace Colloquy

/-! ## Settled results -/

/-- What comes of a result whose errors of the library count as data. -/
def Outcome.settle : Except Exception Item → Except Exception Outcome
  | .ok item => .ok (.success item)
  | .error (.own e) => .ok (.failure (.own e))
  | .error e => .error e

theorem Act.settled_apply (a : Act Item) (l : Ledger) :
    a.settled l = (Outcome.settle (a l).1, (a l).2) := by
  unfold Act.settled Outcome.settle
  cases a l with
  | mk r l' =>
    cases r with
    | ok item => rfl
    | error e => cases e <;> rfl

/-! ## Exchanges -/

/-- What a backend writes for a chat after some events, once the request is built. -/
def Generator.reply (g : Generator) (events : List Event) (request : Wire.Request) :
    Except Exception AssistantMessage :=
  g.transport events request >>= g.receive

/-- An exchange: a request that cannot be built leaves no event, any other one event. -/
theorem Generator.exchange_apply (g : Generator) (chat : Chat) (l : Ledger) :
    g.exchange chat l = match g.backend.buildRequest g.model chat with
      | .error e => (.error e, l)
      | .ok request =>
        ((g.reply l.events request).map fun m => .chat (chat.addMessage (.assistant m)),
          { l with events := l.events ++ [.requested request] }) := by
  unfold Generator.exchange Generator.reply
  cases g.backend.buildRequest g.model chat with
  | error e => rfl
  | ok request =>
    simp only [bind_apply, Act.ofExcept_apply, Act.get_apply, Act.record_apply, pure_apply]
    cases g.transport l.events request with
    | error e => rfl
    | ok response =>
      show _ = ((g.receive response).map _, _)
      dsimp only
      cases g.receive response <;> rfl

/-- One exchange, without numbers. -/
def Generator.ask (g : Generator) (chat : Chat) : Course Outcome :=
  (g.generate chat).course

theorem Generator.ask_apply (g : Generator) (chat : Chat) (events : List Event) :
    g.ask chat events = match g.backend.buildRequest g.model chat with
      | .error e => (Outcome.settle (.error e), events)
      | .ok request =>
        (Outcome.settle ((g.reply events request).map fun m =>
          .chat (chat.addMessage (.assistant m))), events ++ [.requested request]) := by
  rw [Generator.ask, Act.course, Generator.generate, Act.settled_apply,
    Generator.exchange_apply]
  cases g.backend.buildRequest g.model chat <;> rfl

theorem Generator.generate_blind (g : Generator) (chat : Chat) : (g.generate chat).Blind := by
  intro l
  show _ = ((g.ask chat l.events).1, { l with events := (g.ask chat l.events).2 })
  rw [Generator.ask_apply, Generator.generate, Act.settled_apply, Generator.exchange_apply]
  cases g.backend.buildRequest g.model chat <;> rfl

/-! ## Tool calls -/

theorem Tool.arguments_cls {tool : Tool} {call : ToolCall} {e : Error}
    (h : tool.arguments call = .error e) : e.cls = .toolArguments := by
  obtain ⟨fault, -, rfl⟩ := mapError_eq_error_iff.1 h
  rfl

theorem Tool.written_cls {tool : Tool} {output : Output} {e : Error}
    (h : tool.written output = .error e) : e.cls = .serialization := by
  obtain ⟨fault, -, rfl⟩ := mapError_eq_error_iff.1 h
  rfl

/-- What the tool of a call gives after some events, once its arguments are read. -/
def Tool.output (tool : Tool) (call : ToolCall) (events : List Event)
    (arguments : ModelInstance) : Except Exception ToolResult := do
  let output ← Registry.ofHandler call (tool.handler events arguments)
  let content ← (tool.written output).mapError .own
  return { callId := call.id, content, toolName := .text call.name }

/-- A tool call: it is handed to the registry, and its arguments to the handler when there is a
tool that they fit. -/
theorem Registry.invoke_apply (r : Registry) (call : ToolCall) (l : Ledger) :
    r.invoke call l = match r.get? call.name with
      | none => (.error (.own (r.unknown call)),
          { l with events := l.events ++ [.invoked call] })
      | some tool => match tool.arguments call with
        | .error e => (.error (.own e), { l with events := l.events ++ [.invoked call] })
        | .ok arguments =>
          (tool.output call (l.events ++ [.invoked call, .handled arguments]) arguments,
            { l with events := l.events ++ [.invoked call, .handled arguments] }) := by
  unfold Registry.invoke
  rw [bind_ok (Act.record_apply _ _)]
  cases r.get? call.name with
  | none => rfl
  | some tool =>
    dsimp only
    cases tool.arguments call with
    | error e => rfl
    | ok arguments =>
      have hevents : l.events ++ [.invoked call] ++ [.handled arguments]
          = l.events ++ [.invoked call, .handled arguments] := List.append_assoc _ _ _
      have hread : (Except.ok arguments : Except Error ModelInstance).mapError Exception.own
          = .ok arguments := rfl
      simp only [bind_apply, Act.ofExcept_apply, Act.get_apply, Act.record_apply, pure_apply,
        hread, Tool.output, hevents]
      cases Registry.ofHandler call (tool.handler _ arguments) with
      | error e => rfl
      | ok output =>
        dsimp only [bind, Except.bind]
        cases tool.written output <;> rfl

/-- One tool call, without numbers. -/
def Executor.carryOut (x : Executor) (call : ToolCall) : Course Outcome :=
  (x.execute call).course

/-- A tool call as it is settled: the result of the tool counts as an item. -/
theorem Executor.execute_apply (x : Executor) (call : ToolCall) (l : Ledger) :
    x.execute call l = (Outcome.settle ((x.registry.invoke call l).1.map .toolResult),
      (x.registry.invoke call l).2) := by
  rw [Executor.execute, Act.settled_apply, bind_apply]
  cases x.registry.invoke call l with
  | mk r l' => cases r <;> rfl

theorem Executor.carryOut_apply (x : Executor) (call : ToolCall) (events : List Event) :
    x.carryOut call events = match x.registry.get? call.name with
      | none => (.ok (.failure (.own (x.registry.unknown call))), events ++ [.invoked call])
      | some tool => match tool.arguments call with
        | .error e => (.ok (.failure (.own e)), events ++ [.invoked call])
        | .ok arguments =>
          (Outcome.settle ((tool.output call (events ++ [.invoked call, .handled arguments])
            arguments).map .toolResult), events ++ [.invoked call, .handled arguments]) := by
  rw [Executor.carryOut, Act.course, Executor.execute_apply, Registry.invoke_apply]
  cases x.registry.get? call.name with
  | none => rfl
  | some tool =>
    dsimp only
    cases tool.arguments call <;> rfl

theorem Executor.execute_blind (x : Executor) (call : ToolCall) : (x.execute call).Blind := by
  intro l
  show _ = ((x.carryOut call l.events).1, { l with events := (x.carryOut call l.events).2 })
  rw [Executor.carryOut_apply, Executor.execute_apply, Registry.invoke_apply]
  cases x.registry.get? call.name with
  | none => rfl
  | some tool =>
    dsimp only
    cases tool.arguments call <;> rfl

end Colloquy
