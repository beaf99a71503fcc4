import MethodCodec.DataFormat
import MethodCodec.Json.Format
import MethodCodec.Yaml.Format

/-!
Reading protocol documents. A document has to fit its data types first, and the
structural rules after that.
-/

namespace MethodCodec

/-- Why a document cannot be read. -/
inductive DocumentFault
  | json (problem : Json.Problem)
  | yaml
  | violates (violation : Spec.Violation)

/-- The wording of a problem. -/
def Json.Problem.message : Json.Problem → String
  | .data fault => fault.message
  | .lapse .malformed => "malformed text"
  | .lapse .unfinished => "unfinished text"

/-- The wording of a fault. -/
def DocumentFault.message : DocumentFault → String
  | .json problem => "failed to parse JSON: " ++ problem.message
  | .yaml => "failed to parse YAML: not the content of a protocol document"
  | .violates violation => malformedPrefix ++ violation.message

namespace Spec

/-- The content of a document, whether or not it keeps the structural rules. -/
def ofText (format : DataFormat) (text : String) : Except DocumentFault Spec :=
  match format with
  | .json => (Json.specOfText text).mapError .json
  | .yaml =>
      match Yaml.specOfText text with
      | some spec => .ok spec
      | none => .error .yaml

/-- A document that keeps the structural rules. -/
def checked (spec : Spec) : Except DocumentFault Spec :=
  match spec.violation? with
  | some violation => .error (.violates violation)
  | none => .ok spec

/-- Reads a document and checks the structural rules. -/
def read (format : DataFormat) (text : String) : Except DocumentFault Spec :=
  (ofText format text).bind checked

end Spec

end MethodCodec
