import Colloquy.Error.Basic

/-!
# Inline images

An image may be given by its data instead of an address: a `data:` URL whose data
is encoded in base 64.
-/

namespace Colloquy

/-- An image given by its data: the media type and the data as encoded. -/
structure InlineImage where
  mediaType : Text
  data : Text
  deriving DecidableEq

namespace InlineImage

/-- What announces data in an address. -/
def scheme : Text := "data:"

/-- What stands between the media type and the data. -/
def mark : Text := ";base64,"

/-- The media type of data that names none. -/
def defaultMediaType : Text := "application/octet-stream"

/-- Reads an address as an inline image, none when it does not begin as one or has no mark. The
mark is looked for in the whole address, and what stands behind the scheme is parted at the first
mark in it. -/
def read (url : Text) : Except Exception (Option InlineImage) :=
  if url.startsWith scheme && url.includes mark then
    match Text.splitFirst mark (url.drop scheme.length) with
    | some (header, data) =>
      .ok (some ⟨if header = [] then defaultMediaType else header, data⟩)
    | none => .error (.value "not enough values to unpack (expected 2, got 1)")
  else .ok none

/-- The inline image that an address is. -/
def ofUrl? (url : Text) : Option InlineImage :=
  (read url).toOption.join

end InlineImage

end Colloquy
