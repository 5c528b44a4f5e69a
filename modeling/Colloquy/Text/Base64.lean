import Colloquy.Text.Basic

/-!
# Base 64

Octets in printable letters: three octets make four letters, and an equals sign
stands for each octet that is missing at the end.
-/

namespace Colloquy.Base64

/-- The letter of a value below 64. -/
def letter (d : Nat) : CodePoint :=
  if d < 26 then 0x41 + d
  else if d < 52 then 0x61 + (d - 26)
  else if d < 62 then 0x30 + (d - 52)
  else if d = 62 then 0x2b
  else 0x2f

/-- Octets in letters. -/
def encode : Bytes → Text
  | a :: b :: c :: rest =>
    let n := (a.toNat * 0x100 + b.toNat) * 0x100 + c.toNat
    letter (n / 0x40000) :: letter (n / 0x1000 % 0x40) :: letter (n / 0x40 % 0x40)
      :: letter (n % 0x40) :: encode rest
  | [a, b] =>
    let n := (a.toNat * 0x100 + b.toNat) * 4
    [letter (n / 0x1000), letter (n / 0x40 % 0x40), letter (n % 0x40), 0x3d]
  | [a] => [letter (a.toNat / 4), letter (a.toNat % 4 * 0x10), 0x3d, 0x3d]
  | [] => []

end Colloquy.Base64
