import Colloquy.Error.Graph
import Colloquy.Value

/-!
# Interrupted exchanges

An exchange that ends without a response becomes an error of the library. A retry
may help when a failure of the HTTP exchange is found among the linked
exceptions. A cancellation stays what it is.
-/

namespace Colloquy

/-- Whether an exception is a failure of the HTTP exchange after which a retry may help. -/
def Exception.isExchangeFailure : Exception → Bool
  | .own _ => false
  | .foreign c _ => c.isA .httpTimeout || c.isA .httpRequest

/-- Whether an exception was raised by the HTTP client for a failed exchange. -/
def Exception.isHttpFailure : Exception → Bool
  | .own _ => false
  | .foreign c _ => c.isA .http

/-- The error for an exchange that ended without a response. -/
def Error.interrupted (provider : Value) (retryable : Bool) (e : Exception) : Error :=
  let label : Text := if provider.truthy then provider.inText else "http"
  let cause : Text := if e.text = [] then e.className else e.text
  { cls := .request
    message := Text.concat [label, " transport failed: ", cause]
    retryable := .bool retryable
    provider := provider
    phase := .ofString "transport" }

/-- The error for the first exception of a graph, which ended an exchange; or the cancellation
that it is. -/
def wrapInterruption (g : ExceptionGraph) (e : Exception) (provider : Value) :
    Except Exception Error :=
  if e.isCancellation then .error e
  else match e with
    | .own error =>
      if error.isA .api then
        .ok (if error.provider.isNull then { error with provider := provider } else error)
      else .ok (.interrupted provider (g.reached.any Exception.isExchangeFailure) e)
    | .foreign _ _ => .ok (.interrupted provider (g.reached.any Exception.isExchangeFailure) e)

end Colloquy
