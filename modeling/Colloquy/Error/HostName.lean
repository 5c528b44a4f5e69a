import Colloquy.Error.Basic
import Colloquy.Url.Host

/-!
# Host names that cannot be read

An address may have a host in ASCII that stands for no name. That shows only when its
letters are asked for, and then an exception is raised that is not the library's own.
-/

namespace Colloquy

/-- The class of the exception for a fault of a host name. -/
def Url.NameFault.exceptionClass : Url.NameFault → ForeignClass
  | .badLetter _ _ _ => .hostLetter
  | .badPlace _ _ _ => .hostPlace
  | .unknownDirection _ _ => .hostDirection
  | .noFirstDirection _ => .hostDirection
  | .badDirection _ _ => .hostDirection
  | .mixedFigures => .hostDirection
  | .badEnd => .hostDirection
  | _ => .hostName

/-- The exception for a fault of a host name. -/
def Url.NameFault.exception (fault : Url.NameFault) : Exception :=
  .foreign fault.exceptionClass fault.message

end Colloquy
