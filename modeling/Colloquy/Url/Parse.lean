import Colloquy.Url.Host

/-!
# Reading and writing addresses

`Url.parse` splits a text into its components and brings each into normal form;
`Url.toText` puts them together again. Both stand for the HTTP client's own functions,
by the rules of `Url.Basic` and `Url.Host`.
-/

namespace Colloquy.Url

/-- The address that a text stands for. -/
def parse (text : Text) : Except Fault Url :=
  if maxLength < text.length then .error .tooLong
  else match control? text with
    | some (c, position) => .error (.control c position)
    | none => do
      let (scheme, afterScheme) := splitScheme text
      let (authority, afterAuthority) := splitAuthority afterScheme
      let (path, afterPath) := splitBefore "?#" afterAuthority
      let (query, afterQuery) := splitMarked 0x3f "#" afterPath
      let (fragment, _) := splitMarked 0x23 [] afterQuery
      let (userinfo, hostAndPort) := splitUserinfo authority
      let (host, port) := splitPort hostAndPort
      let userinfo ← percentEncode userinfoSafe userinfo
      let host ← normalHost host
      let port ← normalPort scheme port
      let hasScheme := scheme != []
      let hasAuthority := userinfo != [] || host != [] || port.isSome
      checkPath path hasScheme hasAuthority
      let path := if hasScheme || hasAuthority then normalPath path else path
      let path ← percentEncode pathSafe path
      let query ← encodeComponent querySafe query
      let fragment ← encodeComponent fragmentSafe fragment
      return { scheme := lowerAscii scheme, userinfo, host, port, path, query, fragment }

/-- The host of an address and its port, with the host in brackets where its colons ask for
them. -/
def hostAndPort (url : Url) : Text :=
  let host : Text := if url.host.contains 0x3a then [0x5b] ++ url.host ++ [0x5d] else url.host
  let port : Text := match url.port with
    | none => []
    | some n => 0x3a :: Text.ofInt n
  host ++ port

/-- The authority of an address. -/
def authority (url : Url) : Text :=
  let userinfo : Text := if url.userinfo = [] then [] else url.userinfo ++ [0x40]
  userinfo ++ url.hostAndPort

/-- The text of an address. -/
def toText (url : Url) : Text :=
  let scheme : Text := if url.scheme = [] then [] else url.scheme ++ [0x3a]
  let authority : Text := if url.authority = [] then [] else [0x2f, 0x2f] ++ url.authority
  let query : Text := match url.query with
    | none => []
    | some query => 0x3f :: query
  let fragment : Text := match url.fragment with
    | none => []
    | some fragment => 0x23 :: fragment
  Text.concat [scheme, authority, url.path, query, fragment]

end Colloquy.Url
