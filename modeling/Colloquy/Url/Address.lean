import Colloquy.Text.Digit

/-!
# Numeric addresses

A host may be a numeric address of version 4, or one of version 6 in brackets. What
counts as one is a rule of the HTTP client's address type, as it is written down in
`Url.Basic`.
-/

namespace Colloquy.Url

/-! ## Version 4 -/

/-- One of the four parts of an address: up to three digits, no needless zero in front, at most
255. -/
def isOctet (part : Text) : Bool :=
  part != [] && part.all Text.isAsciiDigit && part.length ≤ 3
    && (part = [0x30] || part.head? ≠ some 0x30)
    && part.foldl (fun n c => n * 10 + (c - 0x30)) 0 ≤ 255

/-- Whether a text is an address of version 4. -/
def isAddress4 (text : Text) : Bool :=
  let parts := Text.splitOn 0x2e text
  parts.length == 4 && parts.all isOctet

/-- Whether a text looks like an address of version 4: four rows of digits with points between
them. -/
def looksLikeAddress4 (text : Text) : Bool :=
  let parts := Text.splitOn 0x2e text
  parts.length == 4 && parts.all fun part => part != [] && part.all Text.isAsciiDigit

/-! ## Version 6 -/

/-- One of the parts of an address: one to four hexadecimal digits. -/
def isHextet (part : Text) : Bool :=
  part != [] && part.length ≤ 4 && part.all fun c => (Text.hexValue? c).isSome

/-- The parts of an address with a last part of version 4 counted as two. -/
def expandTail (parts : List Text) : Option (List Text) :=
  match parts.getLast? with
  | some last =>
    if last.contains 0x2e then
      if isAddress4 last then some (parts.dropLast ++ [[0x30], [0x30]]) else none
    else some parts
  | none => some parts

/-- Whether the parts of an address are well formed. One empty part between the ends stands for
at least one part of zeros; an end is empty only next to it. -/
def areParts6 (parts : List Text) : Bool :=
  let inner := (parts.drop 1).dropLast
  let gaps := (inner.zipIdx.filter fun (part, _) => part = []).map (·.2)
  match gaps with
  | [] =>
    parts.length == 8 && parts.all isHextet
  | [gap] =>
    let high := parts.take (gap + 1)
    let low := parts.drop (gap + 2)
    let high := if high.head? = some [] then high.drop 1 else high
    let low := if low.getLast? = some [] then low.dropLast else low
    let highFits := parts.head? ≠ some [] || high = []
    let lowFits := parts.getLast? ≠ some [] || low = []
    highFits && lowFits && high.length + low.length < 8 && high.all isHextet && low.all isHextet
  | _ => false

/-- Whether a text is an address of version 6, which may name a zone after a percent sign. -/
def isAddress6 (text : Text) : Bool :=
  let address := text.takeWhile (· ≠ 0x25)
  let zone := text.drop address.length
  let zoneFits := match zone with
    | [] => true
    | _ :: name => name != [] && !name.contains 0x25
  let parts := Text.splitOn 0x3a address
  zoneFits && !text.contains 0x2f && 3 ≤ parts.length
    && match expandTail parts with
      | none => false
      | some parts => parts.length ≤ 9 && areParts6 parts

end Colloquy.Url
