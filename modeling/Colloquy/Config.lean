import Colloquy.Chain.Basic
import Colloquy.Provider.Endpoint
import Colloquy.Value.Settings

/-!
# Configurations

A configuration names the backend and the model, and bounds what a turn may do.
Every configuration was checked when it was made: a backend that needs a key has
one, given by the caller or found in the environment. The key is never shown.
-/

namespace Colloquy

/-- The settings of a session. -/
structure Config where
  provider : Provider
  model : Text
  apiKey : Value
  baseUrl : Value
  organization : Value
  timeout : Value
  maxToolRounds : RoundLimit
  toolErrorPolicy : ToolErrorPolicy
  named : model ≠ []

/-- What a caller offers as settings. -/
structure Config.Offer where
  provider : Value
  model : Value
  apiKey : Value := .null
  baseUrl : Value := .null
  organization : Value := .null
  timeout : Value := .float 60.0
  maxToolRounds : Value := .int 8
  toolErrorPolicy : Value := .ofString "raise"

namespace Config

/-- The offer in the fields of an object. What they do not name is as by default, but a provider
and a model have to be named. -/
def Offer.ofFields (fields : Fields) : Except Exception Offer := do
  checkSettings "Config" ["provider", "model"]
    ["api_key", "base_url", "organization", "timeout_s", "max_tool_rounds", "tool_error_policy"]
    fields
  let usual : Offer := { provider := .null, model := .null }
  let entry (name : Text) (other : Value) : Value := (Assoc.get? fields name).getD other
  return {
    provider := entry "provider" usual.provider
    model := entry "model" usual.model
    apiKey := entry "api_key" usual.apiKey
    baseUrl := entry "base_url" usual.baseUrl
    organization := entry "organization" usual.organization
    timeout := entry "timeout_s" usual.timeout
    maxToolRounds := entry "max_tool_rounds" usual.maxToolRounds
    toolErrorPolicy := entry "tool_error_policy" usual.toolErrorPolicy }

/-- A configuration error with its hint. -/
def fault (message hint : Text) : Exception :=
  .own { cls := .configuration, message, hint := .text hint }

/-! ## Checks -/

/-- The backend that a value names. -/
def checkProvider (v : Value) : Except Exception Provider :=
  let unknown := fault (Text.concat ["Unknown provider: ", v.shown])
    (Text.concat ["Supported providers: ", Text.join ", " (Provider.all.map Provider.name)])
  match v with
  | .text name =>
    match Provider.ofName? name with
    | some provider => .ok provider
    | none => .error unknown
  | _ => .error unknown

/-- The bound on the time of an exchange: a number, and not one up to zero. -/
def checkTimeout (v : Value) : Except Exception Unit :=
  match Number.ofValue? v with
  | none => .error (v.incomparable "<=")
  | some n =>
    if n.atMost (.int 0) then
      .error (fault (Text.concat ["timeout_s must be > 0, got ", v.inText])
        "This bounds each HTTP exchange in seconds.")
    else .ok ()

/-- The bound on the tool rounds of a turn. -/
def checkRounds (v : Value) : Except Exception RoundLimit := do
  match ← RoundLimit.ofValue? v with
  | some limit => return limit
  | none => throw (fault (Text.concat ["max_tool_rounds must be ≥ 1, got ", v.inText])
      "This bounds how many tool round-trips one turn may take.")

/-- What a failed tool call does to a turn. -/
def checkPolicy (v : Value) : Except Exception ToolErrorPolicy :=
  match ToolErrorPolicy.ofValue? v with
  | some policy => .ok policy
  | none => .error (fault (Text.concat ["Unknown tool_error_policy: ", v.shown])
      "Use 'raise' to fail the turn or 'continue' to report errors to the model.")

/-- The address of the backend, null when the default one is meant. -/
def checkBase (v : Value) : Except Exception Unit :=
  if v.isNull then .ok () else do
    let _ ← resolveEndpoint v []

/-- The key for a backend: the one that is offered, else the one in the environment. A backend
that needs none takes what is offered. -/
def checkKey (provider : Provider) (offered : Value) (environment : Text → Option Text) :
    Except Exception Value :=
  match provider.keyVariable? with
  | none => .ok offered
  | some keyName =>
    let key := if offered.isNull then Value.ofText? (environment keyName) else offered
    if key.truthy then .ok key
    else .error (fault (Text.concat ["API key required for ", provider.name])
      (Text.concat ["Set ", keyName, " environment variable or pass api_key=..."]))

/-- A configuration from what a caller offers; the first fault counts. -/
def make? (offer : Offer) (environment : Text → Option Text) : Except Exception Config := do
  let provider ← checkProvider offer.provider
  let badModel := fault "model must be a non-empty string"
    "Pass a model identifier, e.g. Config(provider='openai', model='gpt-4o-mini')."
  match offer.model with
  | .text model =>
    if named : model ≠ [] then
      checkTimeout offer.timeout
      let maxToolRounds ← checkRounds offer.maxToolRounds
      let toolErrorPolicy ← checkPolicy offer.toolErrorPolicy
      checkBase offer.baseUrl
      let apiKey ← checkKey provider offer.apiKey environment
      return { provider, model, apiKey, baseUrl := offer.baseUrl,
               organization := offer.organization, timeout := offer.timeout, maxToolRounds,
               toolErrorPolicy, named }
    else throw badModel
  | _ => throw badModel

/-! ## Use -/

/-- The backend of a configuration. -/
def backend (c : Config) : Backend where
  provider := c.provider
  apiKey := if c.apiKey.truthy then c.apiKey else .text []
  baseUrl := c.baseUrl
  organization := c.organization

/-- A configuration as it is shown, without its key. -/
def shown (c : Config) : Text :=
  Text.concat ["Config(provider=", c.provider.name.quoted, ", model=", c.model.quoted, ", api_key=",
    if c.apiKey.truthy then Text.ofString "[REDACTED]" else Value.null.shown,
    ", base_url=", c.baseUrl.shown, ", max_tool_rounds=", c.maxToolRounds.toValue.shown, ")"]

end Config

end Colloquy
