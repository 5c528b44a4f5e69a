import Colloquy.Text.Printable
import Colloquy.Text.Utf8

/-!
# Quoted text

Messages show a text between quotes. The quotes are single unless the text holds
a single quote and no double one; what is not printable is shown by its number.
-/

namespace Colloquy.Text

/-- A code point shown by its number: two, four or eight hexadecimal digits. -/
def escapeNumber (c : CodePoint) : Text :=
  if c < 0x100 then "\\x" ++ hex 2 c
  else if c < 0x10000 then "\\u" ++ hex 4 c
  else "\\U" ++ hex 8 c

/-- A code point inside quotes of the form `mark`. -/
def escapePoint (mark : CodePoint) (c : CodePoint) : Text :=
  if c = mark ∨ c = 0x5c then [0x5c, c]
  else if c = 0x09 then "\\t"
  else if c = 0x0a then "\\n"
  else if c = 0x0d then "\\r"
  else if isPrintable c then [c]
  else escapeNumber c

/-- The quote that stands around a text. -/
def quoteMark (text : Text) : CodePoint :=
  if 0x27 ∈ text ∧ 0x22 ∉ text then 0x22 else 0x27

/-- A text between quotes. -/
def quoted (text : Text) : Text :=
  let mark := quoteMark text
  mark :: text.flatMap (escapePoint mark) ++ [mark]

end Colloquy.Text

namespace Colloquy.Utf8

/-- What is said of a text that an encoding cannot write. -/
def Unencodable.messageFor (failure : Unencodable) (encoding reason : Text) : Text :=
  let place : Text := match failure.run with
    | [c] => "character '" ++ Text.escapeNumber c ++ "' in position " ++ Text.ofNat failure.position
    | run => "characters in position " ++ Text.ofNat failure.position ++ "-"
        ++ Text.ofNat (failure.position + run.length - 1)
  Text.concat ["'", encoding, "' codec can't encode ", place, ": ", reason]

/-- What a text that cannot be written as octets says. -/
def Unencodable.message (failure : Unencodable) : Text :=
  failure.messageFor "utf-8" "surrogates not allowed"

end Colloquy.Utf8
