import Colloquy.Text.Basic

/-!
# UTF-8

Writing refuses surrogates and says where the first run of them stands. Reading
cuts octets into pieces, each one code point or one malformed stretch; a strict
reader reports the first malformed stretch, a lenient one shows each as U+FFFD.
-/

namespace Colloquy.Utf8

/-! ## Writing -/

/-- Whether a code point is a surrogate. -/
def isSurrogate (c : CodePoint) : Bool :=
  0xd800 ≤ c && c ≤ 0xdfff

/-- The octets of one code point. -/
def encodePoint (c : CodePoint) : Bytes :=
  if c < 0x80 then [c.toUInt8]
  else if c < 0x800 then [(0xc0 + c / 0x40).toUInt8, (0x80 + c % 0x40).toUInt8]
  else if c < 0x10000 then
    [(0xe0 + c / 0x1000).toUInt8, (0x80 + c / 0x40 % 0x40).toUInt8, (0x80 + c % 0x40).toUInt8]
  else
    [(0xf0 + c / 0x40000).toUInt8, (0x80 + c / 0x1000 % 0x40).toUInt8,
      (0x80 + c / 0x40 % 0x40).toUInt8, (0x80 + c % 0x40).toUInt8]

/-- A run of code points in a text that an encoding cannot write: where it begins, and its
points. -/
structure Unencodable where
  position : Nat
  run : Text
  deriving DecidableEq

/-- The first run of code points in a text that satisfy `bad`. -/
def firstRun? (bad : CodePoint → Bool) (text : Text) : Option Unencodable :=
  match text.dropWhile (!bad ·) with
  | [] => none
  | found@(_ :: _) => some ⟨text.length - found.length, found.takeWhile bad⟩

/-- The octets of a text, or the first run of surrogates in it. -/
def encode (text : Text) : Except Unencodable Bytes :=
  match firstRun? isSurrogate text with
  | none => .ok (text.flatMap encodePoint)
  | some run => .error run

/-- The octets of a text in ASCII, or the first run of code points beyond it. -/
def encodeAscii (text : Text) : Except Unencodable Bytes :=
  match firstRun? (0x80 ≤ ·) text with
  | none => .ok (text.map (·.toUInt8))
  | some run => .error run

/-! ## Reading -/

/-- Why a stretch of octets is malformed. -/
inductive Malformed
  | start
  | continuation
  | truncated
  deriving DecidableEq

/-- A stretch of octets: the octets of one code point, or a malformed stretch. -/
inductive Piece
  | point (width : Nat) (c : CodePoint)
  | bad (width : Nat) (reason : Malformed)
  deriving DecidableEq

/-- The number of octets of a piece. -/
def Piece.width : Piece → Nat
  | .point width _ => width
  | .bad width _ => width

/-- Whether an octet can stand after the first one of a code point. -/
def isContinuation (b : UInt8) : Bool :=
  0x80 ≤ b && b ≤ 0xbf

/-- Whether `b` can stand second after the first octet `a`. This excludes overlong forms and
numbers that are too large, and surrogates too. -/
def isSecond (a b : UInt8) : Bool :=
  isContinuation b &&
    !(a == 0xe0 && b < 0xa0) && !(a == 0xed && 0xa0 ≤ b) &&
    !(a == 0xf0 && b < 0x90) && !(a == 0xf4 && 0x90 ≤ b)

/-- The number that the low six bits of the octets after the first add up to. -/
def tailBits (high : Nat) (tail : Bytes) : Nat :=
  tail.foldl (fun n b => n * 0x40 + b.toNat % 0x40) high

/-- The pieces of a sequence of octets. With `surrogates` the three octets of a surrogate make
a piece of their own, otherwise they are malformed. -/
def pieces (surrogates : Bool) : Bytes → List Piece
  | [] => []
  | a :: s₁ =>
    if a < 0x80 then .point 1 a.toNat :: pieces surrogates s₁
    else if a < 0xc2 || 0xf5 ≤ a then .bad 1 .start :: pieces surrogates s₁
    else match s₁ with
      | [] => [.bad 1 .truncated]
      | b :: s₂ =>
        if a < 0xe0 then
          if isContinuation b then
            .point 2 (tailBits (a.toNat % 0x20) [b]) :: pieces surrogates s₂
          else .bad 1 .continuation :: pieces surrogates (b :: s₂)
        else match s₂ with
          | [] =>
            if isSecond a b then [.bad 2 .truncated]
            else .bad 1 .continuation :: pieces surrogates [b]
          | c :: s₃ =>
            if a < 0xf0 then
              if isSecond a b
                  || (surrogates && a == 0xed && isContinuation b && isContinuation c) then
                if isContinuation c then
                  .point 3 (tailBits (a.toNat % 0x10) [b, c]) :: pieces surrogates s₃
                else .bad 2 .continuation :: pieces surrogates (c :: s₃)
              else .bad 1 .continuation :: pieces surrogates (b :: c :: s₃)
            else if !isSecond a b then
              .bad 1 .continuation :: pieces surrogates (b :: c :: s₃)
            else if !isContinuation c then
              .bad 2 .continuation :: pieces surrogates (c :: s₃)
            else match s₃ with
              | [] => [.bad 3 .truncated]
              | d :: s₄ =>
                if isContinuation d then
                  .point 4 (tailBits (a.toNat % 8) [b, c, d]) :: pieces surrogates s₄
                else .bad 3 .continuation :: pieces surrogates (d :: s₄)

/-- The replacement character, which stands for each malformed stretch. -/
def replacement : CodePoint := 0xfffd

/-- The text of octets, each malformed stretch shown as the replacement character. -/
def decodeLenient (octets : Bytes) : Text :=
  (pieces false octets).map fun
    | .point _ c => c
    | .bad _ _ => replacement

/-- Octets that are no text: where the first malformed stretch begins, its octets, and why it
is malformed. -/
structure Undecodable where
  position : Nat
  run : Bytes
  reason : Malformed
  deriving DecidableEq

/-- The code points of pieces that are cut from `octets` at `position`. -/
def collect (octets : Bytes) (position : Nat) : List Piece → Except Undecodable Text
  | [] => .ok []
  | .point width c :: rest => (collect octets (position + width) rest).map (c :: ·)
  | .bad width reason :: _ => .error ⟨position, (octets.drop position).take width, reason⟩

/-- The text of octets, or the first malformed stretch. -/
def decodeStrict (octets : Bytes) : Except Undecodable Text :=
  collect octets 0 (pieces false octets)

/-- The text of octets in which surrogates may stand, or the first malformed stretch. -/
def decode (octets : Bytes) : Except Undecodable Text :=
  collect octets 0 (pieces true octets)

end Colloquy.Utf8
