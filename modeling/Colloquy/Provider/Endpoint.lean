import Colloquy.Error.HostName
import Colloquy.Url.Parse

/-!
# Endpoints

The address of a request is the configured base with a path after it. The base
has to be an absolute address with a host.
-/

namespace Colloquy

/-- The error for a base that is no address, with the reason when there is one. -/
def Error.badBase (base : Value) (reason : Option Text) : Error :=
  let message := Text.concat ["Invalid base URL ", base.shown]
  match reason with
  | some reason => { cls := .baseUrl, message := Text.concat [message, ": ", reason] }
  | none =>
    { cls := .baseUrl
      message := message
      hint := .ofString "Use an absolute http(s) URL such as https://api.example.com/v1." }

/-- A text without slashes at its end. -/
def dropTrailingSlashes (text : Text) : Text :=
  (text.reverse.dropWhile (· = 0x2f)).reverse

/-- A text without slashes at its front. -/
def dropLeadingSlashes (text : Text) : Text :=
  text.dropWhile (· = 0x2f)

/-- The name of the class of a value within running text. -/
def classTag (value : Value) : Text :=
  Text.concat ["<class '", value.typeName, "'>"]

/-- The address of the resource at `path` below a base. Its host has to be there, and is read to
see that. -/
def resolveEndpoint (base : Value) (path : Text) : Except Exception Text :=
  match base with
  | .text text =>
    match Url.parse text with
    | .error fault => .error (.own (.badBase base (some fault.message)))
    | .ok url => do
      unless url.scheme = "http" ∨ url.scheme = "https" do throw (.own (.badBase base none))
      let host ← url.readHost.mapError Url.NameFault.exception
      if host = [] then throw (.own (.badBase base none))
      return dropTrailingSlashes url.toText ++ [0x2f] ++ dropLeadingSlashes path
  | other => .error (.own (.badBase base (some (Text.concat
      ["Invalid type for url.  Expected str or httpx.URL, got ", classTag other, ": ",
        other.shown]))))

end Colloquy
