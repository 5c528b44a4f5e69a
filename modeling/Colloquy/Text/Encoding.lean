import Colloquy.Text.Utf8

/-!
# Encodings of a document

A document does not say how its octets encode its text. The encoding is told by
a byte order mark, else by where the zero octets stand among the first four.
Surrogates may stand in the text under every encoding.
-/

namespace Colloquy

/-- The order of the octets within a unit of more than one. -/
inductive ByteOrder
  | big
  | little
  deriving DecidableEq

/-- How octets encode text. -/
inductive Encoding
  | utf8
  | utf16 (order : ByteOrder)
  | utf32 (order : ByteOrder)
  deriving DecidableEq

namespace Encoding

/-- Why octets are no text in an encoding. -/
inductive Reason
  | malformed (reason : Utf8.Malformed)
  | truncated
  | outOfRange
  deriving DecidableEq

/-- Octets that are no text: the encoding, where the first bad stretch begins, its octets, and
what is wrong with it. -/
structure Failure where
  encoding : Encoding
  position : Nat
  run : Bytes
  reason : Reason
  deriving DecidableEq

/-- The byte order marks: the octets of each, the encoding that it tells, and how many of its octets
are no part of the text nor of the count of positions. -/
def marks : List (Bytes × Encoding × Nat) :=
  [([0x00, 0x00, 0xfe, 0xff], .utf32 .big, 0), ([0xff, 0xfe, 0x00, 0x00], .utf32 .little, 0),
    ([0xfe, 0xff], .utf16 .big, 0), ([0xff, 0xfe], .utf16 .little, 0),
    ([0xef, 0xbb, 0xbf], .utf8, 3)]

/-- The encoding that the zeros among the first octets tell. -/
def ofZeros (octets : Bytes) : Encoding :=
  match (octets.take 4).map (· == 0x00) with
  | [true, true, _, _] => .utf32 .big
  | [true, false, _, _] => .utf16 .big
  | [false, true, true, true] => .utf32 .little
  | [false, true, _, _] => .utf16 .little
  | [true, _] => .utf16 .big
  | [false, true] => .utf16 .little
  | _ => .utf8

/-- The encoding of a document, and the number of octets of its byte order mark that are no
part of the text nor of the count of positions. -/
def detect (octets : Bytes) : Encoding × Nat :=
  match marks.find? fun mark => mark.1.isPrefixOf octets with
  | some mark => mark.2
  | none => (ofZeros octets, 0)

/-- The number that the octets of one unit stand for. -/
def unit (order : ByteOrder) (octets : Bytes) : Nat :=
  let ordered := match order with
    | .big => octets
    | .little => octets.reverse
  ordered.foldl (fun n b => n * 0x100 + b.toNat) 0

/-- The units of two octets, and what remains at the end. -/
def units16 (order : ByteOrder) : Bytes → List Nat × Bytes
  | a :: b :: rest =>
    let (units, left) := units16 order rest
    (unit order [a, b] :: units, left)
  | left => ([], left)

/-- Two neighbouring units that are a high and a low surrogate become one code point. -/
def joinPairs : List Nat → Text
  | high :: low :: rest =>
    if 0xd800 ≤ high ∧ high ≤ 0xdbff ∧ 0xdc00 ≤ low ∧ low ≤ 0xdfff then
      (0x10000 + (high - 0xd800) * 0x400 + (low - 0xdc00)) :: joinPairs rest
    else high :: joinPairs (low :: rest)
  | units => units

/-- The text of octets in units of two. -/
def decode16 (order : ByteOrder) (octets : Bytes) : Except Failure Text :=
  match units16 order octets with
  | (units, []) => .ok (joinPairs units)
  | (units, left) => .error ⟨.utf16 order, 2 * units.length, left, .truncated⟩

/-- The text of octets in units of four, which begin at `position`. -/
def decode32 (order : ByteOrder) (position : Nat) : Bytes → Except Failure Text
  | a :: b :: c :: d :: rest =>
    let point := unit order [a, b, c, d]
    if point < 0x110000 then
      (decode32 order (position + 4) rest).map (point :: ·)
    else .error ⟨.utf32 order, position, [a, b, c, d], .outOfRange⟩
  | [] => .ok []
  | left => .error ⟨.utf32 order, position, left, .truncated⟩

/-- The byte order mark, which the encodings of larger units take off the front of a text when
they were chosen by it. -/
def mark : CodePoint := 0xfeff

/-- Text without a mark at its front. -/
def dropMark : Text → Text
  | c :: rest => if c = mark then rest else c :: rest
  | [] => []

/-- The text of a document. -/
def decodeDocument (octets : Bytes) : Except Failure Text :=
  match detect octets with
  | (.utf8, skipped) =>
    match Utf8.decode (octets.drop skipped) with
    | .ok text => .ok text
    | .error e => .error ⟨.utf8, e.position, e.run, .malformed e.reason⟩
  | (.utf16 order, _) => (decode16 order octets).map dropMark
  | (.utf32 order, _) => (decode32 order 0 octets).map dropMark

/-! ## Wording -/

/-- The name of an encoding. -/
def name : Encoding → Text
  | .utf8 => "utf-8"
  | .utf16 .big => "utf-16-be"
  | .utf16 .little => "utf-16-le"
  | .utf32 .big => "utf-32-be"
  | .utf32 .little => "utf-32-le"

/-- What is wrong with a stretch of octets, in words. -/
def Reason.message : Reason → Text
  | .malformed .start => "invalid start byte"
  | .malformed .continuation => "invalid continuation byte"
  | .malformed .truncated => "unexpected end of data"
  | .truncated => "truncated data"
  | .outOfRange => "code point not in range(0x110000)"

/-- What a failure to read octets says. -/
def Failure.message (failure : Failure) : Text :=
  let place : Text := match failure.run with
    | [b] => "byte 0x" ++ Text.hex 2 b.toNat ++ " in position " ++ Text.ofNat failure.position
    | run => "bytes in position " ++ Text.ofNat failure.position ++ "-"
        ++ Text.ofNat (failure.position + run.length - 1)
  "'" ++ failure.encoding.name ++ "' codec can't decode " ++ place ++ ": " ++ failure.reason.message

end Encoding

end Colloquy
