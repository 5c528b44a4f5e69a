import Colloquy.Chain.Basic
import Colloquy.Provider.Exchange

/-!
# Generations

A generation is one exchange with the backend. Every error of the library that
comes up in it is data; the chat gets its new message only when the whole exchange
succeeds.
-/

namespace Colloquy

/-- What comes of an act whose errors of the library count as data. -/
def Act.settled (act : Act Item) : Act Outcome := fun ledger =>
  match act ledger with
  | (.ok item, ledger) => (.ok (.success item), ledger)
  | (.error (.own e), ledger) => (.ok (.failure (.own e)), ledger)
  | (.error e, ledger) => (.error e, ledger)

namespace Generator

/-- The message in the response to a request. -/
def receive (g : Generator) (response : Wire.Response) : Except Exception AssistantMessage := do
  if response.isSuccess then Backend.parseResponse g.backend.provider response.body
  else throw (.own (← errorOfResponse response g.backend.provider.name))

/-- One exchange: the chat with the message that the backend gave. -/
def exchange (g : Generator) (chat : Chat) : Act Item := do
  let request ← Act.ofExcept (g.backend.buildRequest g.model chat)
  let before := (← get).events
  Act.record (.requested request)
  let response ← Act.ofExcept (g.transport before request)
  let message ← Act.ofExcept (g.receive response)
  return .chat (chat.addMessage (.assistant message))

/-- One exchange, with its errors as data. -/
def generate (g : Generator) (chat : Chat) : Act Outcome :=
  (g.exchange chat).settled

end Generator

/-- One tool call, with its errors as data. -/
def Executor.execute (x : Executor) (call : ToolCall) : Act Outcome :=
  Act.settled do return .toolResult (← x.registry.invoke call)

end Colloquy
