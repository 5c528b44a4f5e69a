import Colloquy.Chat.Message
import Colloquy.Tool.Model
import Colloquy.Wire.Basic

/-!
# What a run does

Running a program asks the backend, calls tools and uses up continuations. A
ledger keeps the account: what happened, in order, and which continuations were
issued and which of them are spent. An act may fail; what it did until then stays
on the ledger.
-/

namespace Colloquy

/-- What can happen during a run: a callback leaves a note, a request is handed to the transport,
a call is handed to the registry, a handler gets its arguments. -/
inductive Event
  | noted (name : Text)
  | requested (request : Wire.Request)
  | invoked (call : ToolCall)
  | handled (arguments : ModelInstance)

/-- The account of a run. Continuations are numbered in the order in which they were issued. -/
structure Ledger where
  events : List Event := []
  issued : Nat := 0
  spent : List Nat := []

/-- What is done on a ledger and may fail. -/
abbrev Act := ExceptT Exception (StateM Ledger)

namespace Ledger

/-- The requests on a ledger, in order. -/
def requests (ledger : Ledger) : List Wire.Request :=
  ledger.events.filterMap fun
    | .requested request => some request
    | _ => none

/-- The calls that were handed to a registry, in order. -/
def invocations (ledger : Ledger) : List ToolCall :=
  ledger.events.filterMap fun
    | .invoked call => some call
    | _ => none

/-- The arguments that handlers got, in order. -/
def handled (ledger : Ledger) : List ModelInstance :=
  ledger.events.filterMap fun
    | .handled arguments => some arguments
    | _ => none

/-- The notes that callbacks left, in order. -/
def notes (ledger : Ledger) : List Text :=
  ledger.events.filterMap fun
    | .noted name => some name
    | _ => none

end Ledger

namespace Act

/-- Puts an event on the ledger. -/
def record (event : Event) : Act Unit :=
  modify fun ledger => { ledger with events := ledger.events ++ [event] }

/-- The number of a new continuation. -/
def issue : Act Nat :=
  modifyGet fun ledger => (ledger.issued, { ledger with issued := ledger.issued + 1 })

/-- Uses up the continuation of a number, and says whether it had not been used up before. -/
def spend (number : Nat) : Act Bool :=
  modifyGet fun ledger =>
    if number ∈ ledger.spent then (false, ledger)
    else (true, { ledger with spent := number :: ledger.spent })

/-- The act that gives a result or fails as given. -/
def ofExcept (result : Except Exception α) : Act α :=
  fun ledger => (result, ledger)

end Act

end Colloquy
