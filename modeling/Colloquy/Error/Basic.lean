import Colloquy.Error.Foreign
import Colloquy.Value

/-!
# Errors

The library's own errors have a class, a message and, by class, further marks: a
hint, the provider, whether a retry may help. Whatever is raised is such an error
or an exception of a foreign class.
-/

namespace Colloquy

/-! ## The library's own errors -/

/-- The classes of the library's own errors. -/
inductive ErrorClass
  | library
  | configuration
  | serialization
  | baseUrl
  | internal
  | unsupportedFeature
  | api
  | request
  | rateLimit
  | authentication
  | unsupportedModel
  | unavailable
  | contextLength
  | tool
  | toolNotFound
  | toolArguments
  | toolExecution
  | toolRounds
  deriving DecidableEq

namespace ErrorClass

/-- The name of a class and the class right above it. -/
def entry : ErrorClass → Text × Option ErrorClass
  | .library => ("ParleyError", none)
  | .configuration => ("ConfigurationError", some .library)
  | .serialization => ("SerializationError", some .library)
  | .baseUrl => ("BaseUrlError", some .configuration)
  | .internal => ("InternalError", some .library)
  | .unsupportedFeature => ("ProviderFeatureNotSupportedError", some .library)
  | .api => ("APIError", some .library)
  | .request => ("RequestError", some .api)
  | .rateLimit => ("RateLimitError", some .api)
  | .authentication => ("AuthenticationError", some .api)
  | .unsupportedModel => ("UnsupportedModelError", some .api)
  | .unavailable => ("ProviderUnavailableError", some .api)
  | .contextLength => ("ContextLengthExceededError", some .api)
  | .tool => ("ToolError", some .library)
  | .toolNotFound => ("ToolNotFoundError", some .tool)
  | .toolArguments => ("InvalidToolArgumentsError", some .tool)
  | .toolExecution => ("ToolExecutionError", some .tool)
  | .toolRounds => ("MaxToolRoundsExceededError", some .tool)

/-- Every class once. -/
def all : List ErrorClass :=
  [.library, .configuration, .serialization, .baseUrl, .internal, .unsupportedFeature, .api,
    .request, .rateLimit, .authentication, .unsupportedModel, .unavailable, .contextLength, .tool,
    .toolNotFound, .toolArguments, .toolExecution, .toolRounds]

/-- The name of a class. -/
def className (c : ErrorClass) : Text :=
  c.entry.1

/-- The class right above a class. -/
def parent? (c : ErrorClass) : Option ErrorClass :=
  c.entry.2

/-- A class and those above it, nearest first, at most `depth` of them. -/
def lineage (depth : Nat) (c : ErrorClass) : List ErrorClass :=
  match depth with
  | 0 => []
  | depth + 1 =>
    c :: match c.parent? with
      | none => []
      | some above => lineage depth above

/-- A class and all classes above it, nearest first. -/
def ancestors (c : ErrorClass) : List ErrorClass :=
  c.lineage 4

/-- Whether a class is `above` or lies below it. -/
def isA (c above : ErrorClass) : Bool :=
  c.ancestors.contains above

/-- The class of a name. -/
def ofName? (name : Text) : Option ErrorClass :=
  all.find? fun c => c.className = name

end ErrorClass

/-- An error of the library. The marks of classes other than its own stay null. Callers may
attach any value as a mark. -/
structure Error where
  cls : ErrorClass
  message : Text
  hint : Value := .null
  provider : Value := .null
  retryable : Value := .null
  statusCode : Value := .null
  retryAfter : Value := .null
  phase : Value := .null
  toolName : Value := .null
  toolCallId : Value := .null
  maxRounds : Value := .null

namespace Error

/-- Whether an error is of a class or of one below it. -/
def isA (e : Error) (c : ErrorClass) : Bool :=
  e.cls.isA c

/-- The names of the marks that errors of a class have. -/
def markNames (c : ErrorClass) : List Text :=
  let marksOf : List (List Text) :=
    [["hint"],
      if c = .unsupportedFeature ∨ c.isA .api then ["provider"] else [],
      if c.isA .api then ["retryable", "status_code", "retry_after_s", "phase"] else [],
      if c.isA .tool then ["tool_name", "tool_call_id"] else [],
      if c = .toolRounds then ["max_rounds"] else []]
  marksOf.flatten

/-- The marks of an error by name. -/
def marks (e : Error) : Fields :=
  let values : Fields :=
    [("hint", e.hint), ("provider", e.provider), ("retryable", e.retryable),
      ("status_code", e.statusCode), ("retry_after_s", e.retryAfter), ("phase", e.phase),
      ("tool_name", e.toolName), ("tool_call_id", e.toolCallId), ("max_rounds", e.maxRounds)]
  values.filter fun mark => mark.1 ∈ markNames e.cls

/-- A serialization error. -/
def serialization (message : Text) : Error :=
  { cls := .serialization, message }

/-- An internal error. -/
def internal (message : Text) : Error :=
  { cls := .internal, message }

/-- The error of a turn that kept asking for tools beyond the limit of rounds. -/
def toolRounds (limit : Value) : Error where
  cls := .toolRounds
  message := Text.concat ["Model kept requesting tools after ", limit.inText, " rounds"]
  hint := .ofString "Raise Config.max_tool_rounds or use break_on to hand control back."
  maxRounds := limit

end Error

/-! ## Exceptions -/

/-- What can be raised. The text of a foreign exception is what it says when shown. -/
inductive Exception
  | own (e : Error)
  | foreign (cls : ForeignClass) (text : Text)

namespace Exception

instance : Coe Error Exception := ⟨.own⟩

/-- What an exception says. -/
def text : Exception → Text
  | .own e => e.message
  | .foreign _ text => text

/-- The name of the class of an exception. -/
def className : Exception → Text
  | .own e => e.cls.className
  | .foreign c _ => c.className

/-- The names of the classes of an exception, nearest first, up to where the ordinary exceptions
begin; an exception that is not ordinary has its own class only. -/
def classNames : Exception → List Text
  | .own e => e.cls.ancestors.map ErrorClass.className
  | .foreign c _ =>
    if c.isA .ordinary then
      (c.ancestors.takeWhile (· ≠ .ordinary)).map ForeignClass.className
    else [c.className]

/-- Whether an exception is the cancellation of the task it was raised in. -/
def isCancellation : Exception → Bool
  | .own _ => false
  | .foreign c _ => c.isA .cancelled

/-- Whether an exception is an ordinary one, which a caller may handle. -/
def isOrdinary : Exception → Bool
  | .own _ => true
  | .foreign c _ => c.isA .ordinary

/-- Whether an exception is a failed call of a provider. -/
def isApi : Exception → Bool
  | .own e => e.isA .api
  | .foreign _ _ => false

/-- The exception for a value that does not fit. -/
def value (text : Text) : Exception :=
  .foreign .value text

/-- The exception for a value of a wrong type. -/
def type (text : Text) : Exception :=
  .foreign .type text

/-- The exception for an attribute that a value lacks. -/
def missingAttribute (typeName name : Text) : Exception :=
  .foreign .missingAttribute (Text.concat ["'", typeName, "' object has no attribute '", name, "'"])

end Exception

end Colloquy
