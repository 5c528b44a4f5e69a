import Colloquy.Decimal.Reader
import Colloquy.Provider.Basic
import Colloquy.Text.Blank
import Colloquy.Wire.Basic

/-!
# Failed exchanges

A response without success becomes an error whose class tells what went wrong and
whose marks tell whether and when a retry may help. An error payload that came
with success becomes an error too.
-/

namespace Colloquy

/-! ## Error payloads -/

/-- A text that is not empty. -/
def Value.nonEmptyText? : Value → Option Text
  | .text [] => none
  | .text t => some t
  | _ => none

/-- The message in an error payload: of the error object in it, else the error itself when it is
a text, else the message next to it. -/
def errorMessage? (payload : Value) : Option Text :=
  match payload with
  | .object fields =>
    let error := Value.ofOption (Assoc.get? fields "error")
    (error.field "message").nonEmptyText?
      <|> error.nonEmptyText?
      <|> (payload.field "message").nonEmptyText?
  | _ => none

/-- The error for an error payload that came with success. -/
def errorOfPayload? (payload : Value) (provider : Text) : Option Error :=
  match payload with
  | .object fields =>
    if (Assoc.get? fields "error").isSome then
      let detail := (errorMessage? payload).getD "unknown error"
      some
        { cls := .unavailable
          message := Text.concat [provider, " returned an error payload: ", detail]
          provider := .text provider
          phase := .ofString "generate" }
    else none
  | _ => none

/-! ## Retry delays -/

/-- The seconds of a duration: decimal digits, perhaps with a fraction, and the letter s. A line
feed may end the text. -/
def durationSeconds? (text : Text) : Option Float :=
  let body := if text.getLast? = some 0x0a then text.dropLast else text
  match body.getLast? with
  | some 0x73 =>
    let number := body.dropLast
    let isWhole (part : Text) : Bool := part != [] && part.all Text.isDecimal
    let fits := match Text.splitFirst [0x2e] number with
      | none => isWhole number
      | some (whole, fraction) => isWhole whole && isWhole fraction
    if fits then Decimal.float? number else none
  | _ => none

/-- The delay that one detail of an error payload asks for. -/
def detailDelay? (detail : Value) : Option Float :=
  match detail with
  | .object _ =>
    match detail.field "@type", detail.field "retryDelay" with
    | .text kind, .text delay =>
      if Text.includes kind "RetryInfo" then durationSeconds? delay else none
    | _, _ => none
  | _ => none

/-- The delay that the details of an error payload ask for, the first one that is readable. -/
def payloadDelay? (payload : Value) : Option Float :=
  match (payload.field "error").field "details" with
  | .list details => details.findSome? detailDelay?
  | _ => none

/-- The delay that a header of a response asks for. -/
def headerDelay? (response : Wire.Response) : Option Float :=
  match response.header? "retry-after" with
  | some (.text raw) =>
    if Text.strip raw = [] then none
    else match Decimal.float? raw with
      | some seconds => if 0.0 ≤ seconds then some seconds else none
      | none => none
  | _ => none

/-- The number of seconds after which a retry is asked for: by a header, else by the payload. -/
def retryAfter? (response : Wire.Response) (payload : Value) : Option Float :=
  headerDelay? response <|> payloadDelay? payload

/-! ## Classification -/

/-- The statuses after which a retry may help. -/
def retryableStatuses : List Int :=
  [408, 409, 429, 500, 502, 503, 504]

/-- The phrases by which a backend says that the conversation is too long. -/
def lengthPhrases : List Text :=
  ["contextlength", "context length", "context_length", "context-length",
    "contextwindow", "context window", "context_window", "context-window",
    "maximum context", "too many tokens", "prompt is too long", "token limit",
    "exceeds the maximum"]

/-- Whether a text says that the conversation is too long, in letters of either case. -/
def saysTooLong (text : Text) : Bool :=
  lengthPhrases.any fun phrase => Text.includes (text.map Text.fold) phrase

/-- What an error says besides its provider and status: the message of the payload, else the
front of the body. -/
def responseDetail (body : Bytes) (payload : Value) : Text :=
  match errorMessage? payload with
  | some message => message
  | none => Utf8.decodeLenient (body.take 200)

/-- The hint for credentials that were refused. -/
def credentialHint (provider : Text) : Text :=
  let variable_ := ((Provider.ofName? provider).bind Provider.keyVariable?).getD
    "the provider API key"
  Text.concat ["Check credentials/permissions (try setting ", variable_, " or Config.api_key)."]

/-- The class of a failed exchange and its hint. -/
def classify (status : Int) (detail provider : Text) : ErrorClass × Value :=
  if status = 429 then (.rateLimit, .null)
  else if status = 401 ∨ status = 403 then (.authentication, .text (credentialHint provider))
  else if status = 404 then
    (.unsupportedModel, .ofString "Check the model name against the provider's model list.")
  else if (status = 400 ∨ status = 413) ∧ saysTooLong detail then
    (.contextLength, .ofString "Shorten the history or lower Chat.max_output_tokens.")
  else if 500 ≤ status then (.unavailable, .null)
  else (.api, .null)

/-- The value of optional seconds. -/
def Value.ofSeconds? : Option Float → Value
  | some seconds => .float seconds
  | none => .null

/-- The payload of a response, null when its body is no document. -/
def Wire.Response.payload (response : Wire.Response) : Except Exception Value :=
  match Json.decode response.body with
  | .ok value => .ok value
  | .error fault => if fault.isTooDeep then .error fault.exception else .ok .null

/-- The error for a response without success. -/
def errorOfResponse (response : Wire.Response) (provider : Text) : Except Exception Error := do
  let payload ← response.payload
  let detail := responseDetail response.body payload
  let delay := retryAfter? response payload
  let (cls, hint) := classify response.status detail provider
  let front := Text.concat [provider, " request failed (status=", Text.ofInt response.status, ")"]
  return {
    cls := cls
    message := if detail = [] then front else Text.concat [front, ": ", detail]
    hint := hint
    retryable := .bool (retryableStatuses.contains response.status || delay.isSome)
    statusCode := .int response.status
    retryAfter := .ofSeconds? delay
    provider := .text provider
    phase := .ofString "generate" }

end Colloquy
