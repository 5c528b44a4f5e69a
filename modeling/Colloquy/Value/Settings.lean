import Colloquy.Error.Basic
import Colloquy.Value

/-!
# Settings by name

A caller offers settings as named values. Every name has to be one of those that are
known, and some of them have to be given.
-/

namespace Colloquy

/-- Names between quotes in running text. -/
def enumerateNames : List Text → Text
  | [] => []
  | [name] => Text.concat ["'", name, "'"]
  | [first, last] => Text.concat ["'", first, "' and '", last, "'"]
  | first :: rest => Text.concat ["'", first, "', ", enumerateNames rest]

/-- Checks the names of the settings that are offered to make an `owner`: first that all of them
are known, then that none of the required ones is missing. -/
def checkSettings (owner : Text) (required known : List Text) (offered : Fields) :
    Except Exception Unit :=
  let fault (words : List Text) : Except Exception Unit :=
    .error (.type (Text.concat ([owner, ".__init__() "] ++ words)))
  match (offered.map (·.1)).find? (· ∉ required ++ known) with
  | some name => fault ["got an unexpected keyword argument '", name, "'"]
  | none =>
    match required.filter fun name => (Assoc.get? offered name).isNone with
    | [] => .ok ()
    | missing => fault ["missing ", Text.ofNat missing.length, " required positional argument",
        if missing.length = 1 then [] else [0x73], ": ", enumerateNames missing]

end Colloquy
