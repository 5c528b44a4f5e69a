import Colloquy.Text.Basic

/-!
# Prefix codes

A compressed stream is read bit by bit. Its symbols have codewords none of which
begins another one. The lengths of the codewords settle the code: of two codewords
the shorter one comes first, and of two that are as long the one of the smaller
symbol.
-/

namespace Colloquy

/-- What is left of a stream: its bits in the order in which they are read. -/
abbrev Bits := List Bool

/-- The bits of octets, of each the lowest one first. -/
def Bits.ofBytes (octets : Bytes) : Bits :=
  octets.flatMap fun b => (List.range 8).map fun i => b.toNat.testBit i

/-- A prefix code: the symbols whose codewords have one bit, those with two bits, and so on. -/
abbrev PrefixCode := List (List Nat)

namespace PrefixCode

/-- The code in which each symbol, counted from zero, has a codeword of the given length; zero
stands for a symbol without one. A code without codewords has one level all the same. -/
def ofLengths (lengths : List Nat) : PrefixCode :=
  (List.range (max 1 (lengths.foldl max 0))).map fun i =>
    lengths.zipIdx.filterMap fun (length, symbol) =>
      if length = i + 1 then some symbol else none

/-- How many codewords as long as the longest ones remain unused after the levels of a code,
where `free` remain before them. None if there are more symbols than codewords. -/
def unused? (free : Nat) : PrefixCode → Option Nat
  | [] => some free
  | level :: deeper =>
    if level.length ≤ 2 * free then unused? (2 * free - level.length) deeper else none

/-- Whether every sequence of bits begins with a codeword. -/
def isComplete (code : PrefixCode) : Bool :=
  unused? 1 code = some 0

/-- Whether a code is complete or at most one bit long. -/
def isUsable (code : PrefixCode) : Bool :=
  code.isComplete || (code.length ≤ 1 && (unused? 1 code).isSome)

/-- What bits begin with. -/
inductive Match
  | symbol (s : Nat) (rest : Bits)
  /-- Nothing yet: the bits are the front of a codeword. -/
  | partly
  /-- No codeword. -/
  | none

/-- What bits begin with, where `offset` counts the codewords that are passed over on this
level. -/
def matchFrom (offset : Nat) : PrefixCode → Bits → Match
  | [], _ => .none
  | _ :: _, [] => .partly
  | level :: deeper, b :: rest =>
    let offset := 2 * offset + b.toNat
    match level[offset]? with
    | some s => .symbol s rest
    | none => matchFrom (offset - level.length) deeper rest

/-- What bits begin with in a code. -/
def front (code : PrefixCode) (bits : Bits) : Match :=
  matchFrom 0 code bits

end PrefixCode

end Colloquy
