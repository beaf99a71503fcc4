import MethodCodec.Wire.Type

/-!
What the user chooses about the generated source.
-/

namespace MethodCodec

/-- Choices for the generated source. -/
structure SourceSettings where
  /-- The module that has the table type and its two codec functions. -/
  tableModule : String := "crate::table"
  /-- The name of the table type in that module. -/
  tableType : String := "Table"
  /-- What every method structure derives. -/
  derives : List String := ["Debug", "Clone", "PartialEq"]
  /-- Whether the source says at its top that it is generated. -/
  header : Bool := true
  deriving DecidableEq

/-- The type of a structure field in the generated source. -/
def WireType.targetType (settings : SourceSettings) : WireType → String
  | .octet => "u8"
  | .short => "u16"
  | .long => "u32"
  | .longLong | .timestamp => "u64"
  | .bit => "bool"
  | .shortString | .longString => "String"
  | .table => settings.tableType

end MethodCodec
