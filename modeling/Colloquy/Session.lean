import Colloquy.Chain.Run
import Colloquy.Config
import Colloquy.Program.Build

/-!
# Sessions

A session is a ready-made chain for a configuration: tools are run automatically, a
turn ends early on the tools that the caller wants to handle, and the backend is
asked through a transport. A session keeps nothing of a conversation.
-/

namespace Colloquy

/-- The transports that a session makes by itself. -/
inductive OwnTransport
  | rehearsal
  | network
  deriving DecidableEq

/-- The transport that a session makes for a backend. -/
def Config.ownTransport (c : Config) : OwnTransport :=
  if c.provider = .mock then .rehearsal else .network

/-- The name of a transport. -/
def OwnTransport.name : OwnTransport → Text
  | .rehearsal => "MockTransport"
  | .network => "HttpxTransport"

/-- A configuration with its tools and its transport. -/
structure Session where
  config : Config
  registry : Registry
  breakOn : Option (List Text)
  transport : Transport

namespace Session

/-- A session from what a caller offers. The tools to end a turn on count only when there are
any. -/
def make? (config : Config) (registry : Registry) (breakOn : Value) (transport : Transport) :
    Except Exception Session := do
  let breakOn ← if breakOn.truthy then (breakNames breakOn).map some else pure none
  return { config, registry, breakOn, transport }

/-- The chain of a session. -/
def chain (s : Session) : Chain :=
  let executor : Executor :=
    { registry := s.registry, auto := true, limit := s.config.maxToolRounds,
      policy := s.config.toolErrorPolicy }
  let generator : Generator :=
    { backend := s.config.backend, model := .text s.config.model, transport := s.transport }
  let breaks : List Link := match s.breakOn with
    | some names => [.breakOn names]
    | none => []
  .executor executor :: breaks ++ [.generation generator, .terminal]

/-- A session as it is shown. -/
def shown (s : Session) : Text :=
  Text.concat ["Runtime(config=", s.config.shown, ", tools=", Text.ofNat s.registry.tools.length,
    ")"]

/-- The outcome of a plan, none when more than `fuel` steps would be needed. -/
def run (s : Session) (fuel : Nat) (plan : Plan) : Act (Option Outcome) := do
  s.chain.run fuel (← (← plan.build).expect "Plan")

/-- The next message of a chat. -/
def generate (s : Session) (fuel : Nat) (chat : Chat) : Act (Option Outcome) :=
  s.run fuel (.generate chat)

/-- The reply to the turn of a user. -/
def send (s : Session) (fuel : Nat) (chat : Chat) (turn : Message) : Act (Option Outcome) :=
  s.run fuel (.send chat turn)

/-! ## Closing -/

/-- How closing a session went: what was logged, and what left it. -/
structure Closing where
  warning : Option Text := none
  raised : Option Exception := none

/-- Closing a session whose own transport is closed with a result. An ordinary exception is no
more than a warning, so that it hides nothing. -/
def close (result : Except Exception Unit) : Closing :=
  match result with
  | .ok () => {}
  | .error e =>
    if e.isOrdinary then { warning := some (Text.concat ["Transport cleanup failed: ", e.text]) }
    else { raised := some e }

end Session

end Colloquy
