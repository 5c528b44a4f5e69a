/-!
# Text

Text is a finite sequence of code points. Surrogates are code points like any
other here, so every sequence that a reader or a writer can meet has a value of
this type; only the byte encodings refuse some of them.
-/

namespace Colloquy

/-- A code point: a number below 0x110000, surrogates included. -/
abbrev CodePoint := Nat

/-- A finite sequence of code points. -/
abbrev Text := List CodePoint

/-- A finite sequence of octets. -/
abbrev Bytes := List UInt8

instance : LawfulBEq Text := inferInstance

namespace Text

/-- The code points of a string. -/
def ofString (s : String) : Text :=
  s.toList.map Char.toNat

instance : Coe String Text := ⟨ofString⟩

/-- The pieces one after the other. -/
def concat (parts : List Text) : Text :=
  parts.flatten

/-- The pieces one after the other, with `separator` between neighbours. -/
def join (separator : Text) : List Text → Text
  | [] => []
  | [part] => part
  | part :: rest => part ++ separator ++ join separator rest

/-- The decimal digits of a natural number. -/
def ofNat (n : Nat) : Text :=
  (Nat.toDigits 10 n).map Char.toNat

/-- The decimal digits of an integer, with a minus sign before a negative one. -/
def ofInt : Int → Text
  | .ofNat n => ofNat n
  | .negSucc n => 0x2d :: ofNat (n + 1)

/-- Exactly `width` hexadecimal digits of `n`, the lowest ones, in small letters. -/
def hex (width n : Nat) : Text :=
  match width with
  | 0 => []
  | width + 1 =>
    let d := n % 16
    hex width (n / 16) ++ [if d < 10 then 0x30 + d else 0x57 + d]

/-- Whether `part` stands at the front of `text`. -/
def startsWith (text part : Text) : Bool :=
  part.isPrefixOf text

/-- Text without `part` at its front, or as it is when it does not begin so. -/
def dropFront (part text : Text) : Text :=
  if text.startsWith part then text.drop part.length else text

/-- The text before and after the first occurrence of `mark`. -/
def splitFirst (mark : Text) : Text → Option (Text × Text)
  | [] => if mark = [] then some ([], []) else none
  | c :: rest =>
    if startsWith (c :: rest) mark then
      some ([], (c :: rest).drop mark.length)
    else
      (splitFirst mark rest).map fun (before, after) => (c :: before, after)

/-- Whether `part` occurs anywhere in `text`. -/
def includes (text part : Text) : Bool :=
  (splitFirst part text).isSome

/-- The pieces between the occurrences of the code point `mark`. -/
def splitOn (mark : CodePoint) : Text → List Text
  | [] => [[]]
  | c :: rest =>
    match splitOn mark rest with
    | [] => [[c]]
    | piece :: pieces => if c = mark then [] :: piece :: pieces else (c :: piece) :: pieces

/-- Text without the code points at both ends that satisfy `drop`. -/
def stripBy (drop : CodePoint → Bool) (text : Text) : Text :=
  ((text.dropWhile drop).reverse.dropWhile drop).reverse

/-- The capital of a small letter of ASCII. -/
def capital (c : CodePoint) : CodePoint :=
  if 0x61 ≤ c ∧ c ≤ 0x7a then c - 0x20 else c

/-- The small letter of a capital of ASCII. -/
def small (c : CodePoint) : CodePoint :=
  if 0x41 ≤ c ∧ c ≤ 0x5a then c + 0x20 else c

/-- Lexicographic order by code point. -/
def before : Text → Text → Bool
  | _, [] => false
  | [], _ :: _ => true
  | a :: as, b :: bs => a < b || (a == b && before as bs)

/-- The texts in lexicographic order; equal texts keep their places. -/
def sort (texts : List Text) : List Text :=
  texts.mergeSort fun a b => !before b a

end Text

end Colloquy
