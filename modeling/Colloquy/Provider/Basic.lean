import Colloquy.Value

/-!
# Providers

Each provider is a backend with its own wire format. What a backend can express
is told by its capabilities, which are checked before a request is built.
-/

namespace Colloquy

/-- The backends. -/
inductive Provider
  | openai
  | anthropic
  | gemini
  | mistral
  | ollama
  | mock
  deriving DecidableEq

namespace Provider

/-- The backends in the order in which messages list them. -/
def all : List Provider :=
  [.openai, .anthropic, .gemini, .mistral, .ollama, .mock]

/-- The name of a backend. -/
def name : Provider → Text
  | .openai => "openai"
  | .anthropic => "anthropic"
  | .gemini => "gemini"
  | .mistral => "mistral"
  | .ollama => "ollama"
  | .mock => "mock"

/-- The backend of a name. -/
def ofName? (name : Text) : Option Provider :=
  all.find? fun p => p.name = name

/-- The environment variable that holds the key of a backend, for the backends that need one. -/
def keyVariable? : Provider → Option Text
  | .openai => some "OPENAI_API_KEY"
  | .anthropic => some "ANTHROPIC_API_KEY"
  | .gemini => some "GEMINI_API_KEY"
  | .mistral => some "MISTRAL_API_KEY"
  | .ollama => none
  | .mock => none

/-- The address of a backend when none is configured. -/
def defaultBase : Provider → Text
  | .openai => "https://api.openai.com/v1"
  | .anthropic => "https://api.anthropic.com/v1"
  | .gemini => "https://generativelanguage.googleapis.com/v1beta"
  | .mistral => "https://api.mistral.ai/v1"
  | .ollama => "http://localhost:11434/api"
  | .mock => "http://mock.parley.invalid/generate"

end Provider

/-- What a backend can express. -/
structure Capabilities where
  tools : Bool := true
  images : Bool := false
  forcedToolChoice : Bool := true
  specificToolChoice : Bool := true
  deriving DecidableEq

/-- The capabilities of a backend. -/
def Provider.capabilities : Provider → Capabilities
  | .mistral => {}
  | .ollama => { images := true, forcedToolChoice := false, specificToolChoice := false }
  | _ => { images := true }

/-- A backend with the credentials and the address that requests to it use. Null stands for a
credential or an address that is not set. -/
structure Backend where
  provider : Provider
  apiKey : Value := .null
  baseUrl : Value := .null
  organization : Value := .null

namespace Backend

/-- The address that requests are sent to. -/
def base (b : Backend) : Value :=
  if b.baseUrl.truthy then b.baseUrl else .text b.provider.defaultBase

/-- The name under which a backend is shown. -/
def displayName (b : Backend) : Text :=
  match b.provider with
  | .openai => "OpenAITranslator"
  | .anthropic => "AnthropicTranslator"
  | .gemini => "GeminiTranslator"
  | .mistral => "MistralTranslator"
  | .ollama => "OllamaTranslator"
  | .mock => "MockTranslator"

/-- A backend as it is shown, without its credentials. -/
def shown (b : Backend) : Text :=
  match b.provider with
  | .mock => b.displayName
  | _ => Text.concat [b.displayName, "(base_url=", b.base.shown, ")"]

end Backend

end Colloquy
