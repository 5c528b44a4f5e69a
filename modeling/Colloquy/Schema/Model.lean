import Colloquy.Json.Compact
import Colloquy.Json.Strict
import Colloquy.Schema.Fit
import Colloquy.Tool.Model

/-!
# Records as models

A record of plain fields is a model: its schema is that of the record, a text is read
as a document and fitted to the fields, and an instance is written without spaces.
-/

namespace Colloquy

/-- A fault of a shape as validation tells it. -/
def ShapeFault.told (fault : ShapeFault) : ValidationFault where
  path := fault.path
  reason := fault.misfit.message

/-- The error of a single fault at the root. -/
def ValidationError.atRoot (reason : Text) : ValidationError :=
  ⟨[{ reason }]⟩

/-- The compact document of a value. -/
def Json.Compact.document (value : Value) : Written :=
  (write value).mapError fun refusal => ⟨refusal.message⟩

/-- The instance with some fields. -/
def ModelInstance.ofFields (fields : Fields) : ModelInstance where
  content := fields
  document := Json.Compact.document (.object fields)

namespace Record

/-- The fields of a record that a text holds. -/
def read (r : Record) (text : Text) : Except ValidationError Fields :=
  match Utf8.encode text with
  | .error _ => .error (.atRoot
      "Input should be a valid string, unable to parse raw data as a unicode string")
  | .ok octets =>
    match Json.Strict.read octets with
    | .error fault => .error (.atRoot (Text.concat ["Invalid JSON: ", fault.message]))
    | .ok document =>
      match document with
      | .object given =>
        (Shape.fitFields r.fields given).mapError fun faults => ⟨faults.map ShapeFault.told⟩
      | _ => .error (.atRoot Misfit.noObject.message)

/-- A record as a model. -/
def model (r : Record) : InputModel where
  schema := r.schema
  validate text := (r.read text).map .ofFields

end Record

/-- A value as the output of a handler. -/
def Output.ofValue : Value → Output
  | .text t => .text t
  | value => .other value (Json.Compact.document value)

end Colloquy
