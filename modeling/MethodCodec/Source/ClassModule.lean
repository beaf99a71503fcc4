import MethodCodec.Source.Settings
import MethodCodec.Source.Statement
import MethodCodec.Text.Quoted

/-!
The module of a class: its imports, its constants, and for each method a
structure with its reading and writing routines.
-/

namespace MethodCodec.Source

/-! ## Imports -/

/-- The import of the byte helpers. -/
def wireImport : String := "use super::wire;"

/-- The import of the trait and the frame type that all methods share. -/
def sharedImport : String := "use super::\x7bMethod, MethodFrame\x7d;"

/-- The import of the table type and its codec. -/
def tableImport (settings : SourceSettings) : String :=
  "use " ++ settings.tableModule ++ "::\x7b" ++ settings.tableType
    ++ ", decode_table, encode_table\x7d;"

/-- The imports that a class needs, and no others. -/
def importLines (cls : ProtocolClass) (settings : SourceSettings) : List String :=
  let needsWire := cls.methods.any fun method =>
    method.fields.any fun field => field.type != .table
  (if needsWire then [wireImport] else [])
    ++ [sharedImport]
    ++ (if cls.uses .table then [tableImport settings] else [])

/-! ## Methods -/

/-- What the structure of a method says of it. -/
def methodComment (method : Method) : String :=
  "Method " ++ Text.decimal method.id.toNat ++ ":" ++ method.name.written
    ++ (if method.synchronous then " (synchronous)" else "")

/-- The constant that holds an id. -/
def idConstant (name : String) (id : UInt16) : String :=
  "pub const " ++ name ++ ": u16 = " ++ Text.decimal id.toNat ++ ";"

/-- The attribute line for the derived traits, if there are any. -/
def deriveLines (settings : SourceSettings) : List String :=
  let derives := joinItems settings.derives
  if derives.isEmpty then [] else ["#[derive(" ++ derives ++ ")]"]

/-- The declaration of a method's structure. -/
def structLines (method : Method) (settings : SourceSettings) : List String :=
  if method.fields.isEmpty then
    ["pub struct " ++ method.name.pascal ++ ";"]
  else
    block ("pub struct " ++ method.name.pascal)
      (method.fields.map fun field =>
        "pub " ++ field.name.snake ++ ": " ++ field.type.targetType settings ++ ",")

/-- The routine that reads a method off a frame, given the lines that read its
arguments. -/
def decodeRoutine (classId : UInt16) (method : Method) (reader : String)
    (reading : List String) : List String :=
  block "fn decode(method_frame: MethodFrame) -> Option<Self>"
    (block
        ("if method_frame.class_id != " ++ Text.decimal classId.toNat
          ++ " || method_frame.method_id != " ++ Text.decimal method.id.toNat)
        ["return None;"]
      ++ (if method.fields.isEmpty then
            ["Some(Self)"]
          else
            ("let mut " ++ reader ++ ": &[u8] = &method_frame.arguments;") :: reading
              ++ blockUntil "\x7d)" "Some(Self"
                (method.fields.map fun field => field.name.snake ++ ",")))

/-- The routine that writes the arguments of a method, given the lines that
write them. -/
def encodeRoutine (method : Method) (writing : List String) : List String :=
  block "fn encode(&self) -> Vec<u8>"
    (if method.fields.isEmpty then
      ["Vec::new()"]
    else
      "let mut buf = Vec::new();" :: writing ++ ["buf"])

/-- The structure of a method and its implementation, given the lines that read
and write its arguments. -/
def methodLines (classId : UInt16) (settings : SourceSettings) (method : Method)
    (reader : String) (reading writing : List String) : List String :=
  ["", "/// " ++ methodComment method]
    ++ deriveLines settings
    ++ structLines method settings
    ++ [""]
    ++ block ("impl Method for " ++ method.name.pascal)
      (decodeRoutine classId method reader reading
        ++ [""]
        ++ encodeRoutine method writing
        ++ [""]
        ++ block "fn name(&self) -> &'static str" [Text.quote method.qualifiedName]
        ++ [""]
        ++ block "fn id(&self) -> u16" [Text.decimal method.id.toNat]
        ++ [""]
        ++ block "fn class_id(&self) -> u16" [Text.decimal classId.toNat])

/-- The lines of a method, blank line first. -/
def methodSection (classId : UInt16) (settings : SourceSettings) (method : Method) :
    Except PlanFault (List String) :=
  let locals := ReadLocals.ofFields method.fields
  match readLines method locals, writeLines method with
  | .ok reading, .ok writing =>
      .ok (methodLines classId settings method locals.reader reading writing)
  | .error fault, _ => .error fault
  | _, .error fault => .error fault

/-! ## Classes -/

/-- The lines of a class module, given those of its methods. -/
def classLines (cls : ProtocolClass) (settings : SourceSettings) (methods : List String) :
    List String :=
  block ("pub mod " ++ cls.name.snake)
    (importLines cls settings
      ++ [""]
      ++ [idConstant "CLASS_ID" cls.id]
      ++ (cls.methods.map fun method => idConstant method.name.screaming method.id)
      ++ methods)

/-- The text of a class module, without a final line break. -/
def classText (cls : ProtocolClass) (settings : SourceSettings) : Except PlanFault String :=
  match cls.methods.mapM (methodSection cls.id settings) with
  | .ok methods => .ok (joinLines (classLines cls settings methods.flatten))
  | .error fault => .error fault

end MethodCodec.Source
