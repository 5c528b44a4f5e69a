import Colloquy.Decimal.Reader
import Colloquy.Text.Quoted
import Colloquy.Url.Address

/-!
# Addresses of resources

An address is split into its components, each of which is checked and brought
into normal form: scheme and host in small letters, a default port left out, the
dots of the path resolved, and what may not stand in a component written by the
numbers of its octets.

These are the rules of another package, of the address type of the HTTP client httpx.
The library is handed what that type makes of a text, and follows no rule of its own.
They are written out here so that what it says of addresses can be run; what theorems
use of them is gathered in `Url.Rereads`.
-/

namespace Colloquy

/-- The components of an address in normal form. -/
structure Url where
  scheme : Text
  userinfo : Text
  host : Text
  port : Option Int
  path : Text
  query : Option Text
  fragment : Option Text
  deriving DecidableEq

namespace Url

/-! ## Faults -/

/-- Why a text is no address. -/
inductive Fault
  | tooLong
  | control (c : CodePoint) (position : Nat)
  | address4 (host : Text)
  | address6 (host : Text)
  | hostName (host : Text)
  | badPort (port : Text)
  | relativePath
  | doubleSlash
  | leadingColon
  | unencodable (failure : Utf8.Unencodable)

/-- What a fault says. -/
def Fault.message : Fault → Text
  | .tooLong => "URL too long"
  | .control c position => Text.concat ["Invalid non-printable ASCII character in URL, ",
      Text.quoted [c], " at position ", Text.ofNat position, "."]
  | .address4 host => Text.concat ["Invalid IPv4 address: ", host.quoted]
  | .address6 host => Text.concat ["Invalid IPv6 address: ", host.quoted]
  | .hostName host => Text.concat ["Invalid IDNA hostname: ", host.quoted]
  | .badPort text => Text.concat ["Invalid port: ", text.quoted]
  | .relativePath => "For absolute URLs, path must be empty or begin with '/'"
  | .doubleSlash => "Relative URLs cannot have a path starting with '//'"
  | .leadingColon => "Relative URLs cannot have a path starting with ':'"
  | .unencodable failure => failure.message

/-! ## Percent encoding -/

/-- Whether a code point is a letter or digit of ASCII. -/
def isAlphanumeric (c : CodePoint) : Bool :=
  Text.isAsciiDigit c || (0x41 ≤ c && c ≤ 0x5a) || (0x61 ≤ c && c ≤ 0x7a)

/-- Whether a code point stands for itself in every component. -/
def isUnreserved (c : CodePoint) : Bool :=
  isAlphanumeric c || c = 0x2d || c = 0x2e || c = 0x5f || c = 0x7e

/-- An octet as a percent sign and two hexadecimal digits. -/
def percentOctet (b : UInt8) : Text :=
  let digit (d : Nat) : CodePoint := if d < 10 then 0x30 + d else 0x37 + d
  [0x25, digit (b.toNat / 16), digit (b.toNat % 16)]

/-- A code point by the numbers of its octets. -/
def percentPoint (c : CodePoint) : Except Fault Text :=
  match Utf8.encode [c] with
  | .ok octets => .ok (octets.flatMap percentOctet)
  | .error failure => .error (.unencodable failure)

/-- A text in which what `safe` does not admit is written by the numbers of its octets. A
percent sign with two hexadecimal digits after it stays as it is. -/
def percentEncode (safe : CodePoint → Bool) : Text → Except Fault Text
  | [] => .ok []
  | c :: rest => do
    let isEscape : Bool := c == 0x25 && match rest with
      | a :: b :: _ => (Text.hexValue? a).isSome && (Text.hexValue? b).isSome
      | _ => false
    let head ← if isUnreserved c || safe c || isEscape then pure [c] else percentPoint c
    return head ++ (← percentEncode safe rest)

/-- The octets that a text in ASCII stands for. A percent sign without two hexadecimal digits
after it stands for itself. -/
def percentDecode : Text → Bytes
  | [] => []
  | c :: rest =>
    let plain := c.toUInt8 :: percentDecode rest
    if c ≠ 0x25 then plain
    else match rest with
      | a :: b :: more =>
        match Text.hexValue? a, Text.hexValue? b with
        | some a, some b => (a * 16 + b).toUInt8 :: percentDecode more
        | _, _ => plain
      | _ => plain

/-- Whether a code point is visible ASCII other than the given ones. -/
def visibleBut (excluded : Text) (c : CodePoint) : Bool :=
  0x20 ≤ c && c < 0x7f && !excluded.contains c

/-- The code points that stand for themselves in a fragment. -/
def fragmentSafe : CodePoint → Bool :=
  visibleBut " \"<>\x60"

/-- The code points that stand for themselves in a query. -/
def querySafe : CodePoint → Bool :=
  visibleBut " \"#<>"

/-- The code points that stand for themselves in a path. -/
def pathSafe : CodePoint → Bool :=
  visibleBut " \"#<>?\x60\x7b\x7d"

/-- The code points that stand for themselves in the user information. -/
def userinfoSafe : CodePoint → Bool :=
  visibleBut " \"#<>?\x60\x7b\x7d/;=@[\\]^|"

/-- The code points that stand for themselves in a host name. -/
def hostSafe (c : CodePoint) : Bool :=
  ("!$&'()*+,;=\"\x60\x7b\x7d%|\\" : Text).contains c

/-! ## Splitting -/

/-- The text before the first code point of `marks`, and the rest from there. -/
def splitBefore (marks : Text) (text : Text) : Text × Text :=
  (text.takeWhile (!marks.contains ·), text.dropWhile (!marks.contains ·))

/-- Whether a text may stand before the colon as a scheme. -/
def isScheme : Text → Bool
  | [] => true
  | c :: rest =>
    isAlphanumeric c && !Text.isAsciiDigit c
      && rest.all fun c => isAlphanumeric c || c = 0x2b || c = 0x2e || c = 0x2d

/-- The scheme, which may be empty, and the text after its colon. -/
def splitScheme (text : Text) : Text × Text :=
  let (front, rest) := splitBefore ":" text
  match rest with
  | _ :: after => if isScheme front then (front, after) else ([], text)
  | [] => ([], text)

/-- The authority, which two slashes announce, and the text after it. -/
def splitAuthority (text : Text) : Text × Text :=
  match text with
  | 0x2f :: 0x2f :: rest => splitBefore "/?#" rest
  | _ => ([], text)

/-- A component that `mark` announces and that ends before one of `ends`, and the text after
it. -/
def splitMarked (mark : CodePoint) (ends : Text) (text : Text) : Option Text × Text :=
  match text with
  | c :: rest =>
    if c = mark then
      let (component, after) := splitBefore ends rest
      (some component, after)
    else (none, text)
  | [] => (none, [])

/-- The user information of an authority, up to its last at sign, and the rest. -/
def splitUserinfo (authority : Text) : Text × Text :=
  let host := (authority.reverse.takeWhile (· ≠ 0x40)).reverse
  if authority.contains 0x40 then
    (authority.take (authority.length - host.length - 1), host)
  else ([], authority)

/-- The host and the port of an authority without user information. A host in brackets ends at
the last bracket. -/
def splitPort (text : Text) : Text × Text :=
  let (host, rest) : Text × Text :=
    if text.head? = some 0x5b ∧ text.contains 0x5d then
      let tail := (text.reverse.takeWhile (· ≠ 0x5d)).reverse
      (text.take (text.length - tail.length), tail)
    else splitBefore ":@" text
  match rest with
  | 0x3a :: port => (host, port)
  | port => (host, port)

/-! ## Normal forms -/

/-- Small letters of ASCII for capitals. -/
def lowerAscii (text : Text) : Text :=
  text.map Text.small

/-- The port of a scheme that is left out. It is looked up under the scheme as it was
written. -/
def defaultPort? (scheme : Text) : Option Int :=
  if scheme = "http" ∨ scheme = "ws" then some 80
  else if scheme = "https" ∨ scheme = "wss" then some 443
  else if scheme = "ftp" then some 21
  else none

/-- The port of an address. -/
def normalPort (scheme port : Text) : Except Fault (Option Int) :=
  if port = [] then .ok none
  else match Decimal.readInteger port with
    | .error _ => .error (.badPort port)
    | .ok n => .ok (if some n = defaultPort? scheme then none else some n)

/-- Path segments without those of one dot, and with each segment of two dots taking away the
one before it. -/
def resolveDots (segments : List Text) : List Text :=
  segments.foldl
    (fun (kept : List Text) (segment : Text) =>
      if segment = [0x2e] then kept
      else if segment = [0x2e, 0x2e] then (if kept = [] ∨ kept = [[]] then kept else kept.dropLast)
      else kept ++ [segment])
    []

/-- A path without dots. -/
def normalPath (path : Text) : Text :=
  let segments := Text.splitOn 0x2f path
  if segments.any (fun s => s = [0x2e] ∨ s = [0x2e, 0x2e]) then Text.join "/" (resolveDots segments)
  else path

/-- A path has to begin with a slash after an authority; alone it may not begin with two
slashes or a colon. -/
def checkPath (path : Text) (hasScheme hasAuthority : Bool) : Except Fault Unit :=
  if hasAuthority && path != [] && path.head? != some 0x2f then .error .relativePath
  else if !hasScheme && !hasAuthority && Text.startsWith path "//" then .error .doubleSlash
  else if !hasScheme && !hasAuthority && Text.startsWith path ":" then .error .leadingColon
  else .ok ()

/-- The greatest length of an address. -/
def maxLength : Nat := 65536

/-- The first control character of ASCII in a text, and its position. -/
def control? (text : Text) : Option (CodePoint × Nat) :=
  (text.zipIdx).find? fun (c, _) => c < 0x20 ∨ c = 0x7f

/-- A component in normal form. -/
def encodeComponent (safe : CodePoint → Bool) : Option Text → Except Fault (Option Text)
  | none => .ok none
  | some text => (percentEncode safe text).map some

end Url

end Colloquy
