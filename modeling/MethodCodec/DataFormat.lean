/-!
The formats that data are read and shown in.
-/

namespace MethodCodec

/-- A format of data. -/
inductive DataFormat
  | json
  | yaml
  deriving DecidableEq

namespace DataFormat

/-- The word for a format. -/
def name : DataFormat → String
  | json => "json"
  | yaml => "yaml"

/-- The format that goes by a name. -/
def ofName? (text : String) : Option DataFormat :=
  if text = json.name then some json
  else if text = yaml.name then some yaml
  else none

end DataFormat

end MethodCodec
