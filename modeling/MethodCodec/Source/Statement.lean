import MethodCodec.Protocol.Basic
import MethodCodec.Source.Block

/-!
The statements of a generated method: those that read every argument into a
local variable of the field's name, and those that append every argument to a
buffer. Both come from the plans of the method's layout.
-/

namespace MethodCodec.Source

/-! ## Names of local variables -/

/-- Adds underscores to a name while it is taken, at most `rounds` times. -/
def freshWithin (taken : List String) : Nat → String → String
  | 0, name => name
  | rounds + 1, name =>
      if name ∈ taken then freshWithin taken rounds (name ++ "_") else name

/-- A name followed by the least number of underscores that keeps it apart from
those taken; there are as many candidates as names taken, and one more. -/
def freshName (base : String) (taken : List String) : String :=
  freshWithin taken taken.length base

/-- The variables of a reading routine that are not arguments. -/
structure ReadLocals where
  /-- Holds the bytes not yet read. -/
  reader : String
  /-- Holds the flags of the byte opened last. -/
  flags : String
  deriving DecidableEq

def ReadLocals.ofFields (fields : List Field) : ReadLocals where
  reader := freshName "reader" (fields.map fun field => field.name.snake)
  flags := freshName "bits" (fields.map fun field => field.name.snake)

/-! ## Reading -/

/-- The functions that read one value. -/
inductive ReadHelper
  | u8
  | u16
  | u32
  | u64
  | shortString
  | longString
  | table
  deriving DecidableEq

/-- The path by which a class module calls a reading function. -/
def ReadHelper.path : ReadHelper → String
  | u8 => "wire::read_u8"
  | u16 => "wire::read_u16"
  | u32 => "wire::read_u32"
  | u64 => "wire::read_u64"
  | shortString => "wire::read_short_str"
  | longString => "wire::read_long_str"
  | table => "decode_table"

/-- The function that reads a value of a type; flags are not read alone. -/
def ReadHelper.ofType? : WireType → Option ReadHelper
  | .octet => some u8
  | .short => some u16
  | .long => some u32
  | .longLong | .timestamp => some u64
  | .shortString => some shortString
  | .longString => some longString
  | .table => some table
  | .bit => none

/-- A statement of a reading routine. -/
inductive ReadStatement
  /-- Binds what a helper reads. -/
  | bind (name : String) (helper : ReadHelper) (reader : String)
  /-- Binds the eight flags of the next byte. -/
  | openFlags (flags reader : String)
  /-- Binds one of the flags bound before. -/
  | takeFlag (name flags : String) (position : Nat)
  deriving DecidableEq

/-- A statement as it is written. -/
def ReadStatement.text : ReadStatement → String
  | bind name helper reader =>
      "let " ++ name ++ " = " ++ helper.path ++ "(&mut " ++ reader ++ ")?;"
  | openFlags flags reader =>
      "let " ++ flags ++ " = wire::unpack_bits(" ++ ReadHelper.u8.path ++ "(&mut " ++ reader
        ++ ")?);"
  | takeFlag name flags position =>
      "let " ++ name ++ " = " ++ flags ++ "[" ++ Text.decimal position ++ "];"

/-- The statement for a step of a reading plan. -/
def ReadStatement.ofStep (fields : List Field) (locals : ReadLocals) :
    ReadStep → Except PlanFault ReadStatement
  | .field index =>
      match fields[index]? with
      | none => .error (.noField index)
      | some field =>
          match ReadHelper.ofType? field.type with
          | some helper => .ok (bind field.name.snake helper locals.reader)
          | none => .error (.loneFlag index)
  | .flagByte => .ok (openFlags locals.flags locals.reader)
  | .flag index position =>
      match fields[index]? with
      | none => .error (.noField index)
      | some field => .ok (takeFlag field.name.snake locals.flags position)

/-- The statements that read the arguments of a method. -/
def readStatements (method : Method) (locals : ReadLocals) :
    Except PlanFault (List ReadStatement) :=
  method.readPlan.mapM (ReadStatement.ofStep method.fields locals)

/-! ## Writing -/

/-- A statement of a writing routine. -/
inductive WriteStatement
  | octet (name : String)
  | number (name : String)
  | shortString (name : String)
  | longString (name : String)
  | table (name : String)
  /-- Writes a run of flags at once. -/
  | flags (names : List String)
  deriving DecidableEq

/-- A field of the structure that is being written. -/
def ownField (name : String) : String :=
  "self." ++ name

/-- A statement as it is written. -/
def WriteStatement.text : WriteStatement → String
  | octet name => "buf.push(" ++ ownField name ++ ");"
  | number name => "buf.extend_from_slice(&" ++ ownField name ++ ".to_be_bytes());"
  | shortString name => "wire::write_short_str(&mut buf, &" ++ ownField name ++ ");"
  | longString name => "wire::write_long_str(&mut buf, &" ++ ownField name ++ ");"
  | table name => "encode_table(&mut buf, &" ++ ownField name ++ ");"
  | flags names =>
      "buf.extend(wire::pack_bits(&[" ++ joinItems (names.map ownField) ++ "]));"

/-- The statement that writes a field of a type; flags are not written alone. -/
def WriteStatement.ofType? (name : String) : WireType → Option WriteStatement
  | .octet => some (octet name)
  | .short | .long | .longLong | .timestamp => some (number name)
  | .shortString => some (shortString name)
  | .longString => some (longString name)
  | .table => some (table name)
  | .bit => none

/-- The identifier of the field at a position of the argument list. -/
def fieldName (fields : List Field) (index : Nat) : Except PlanFault String :=
  match fields[index]? with
  | none => .error (.noField index)
  | some field => .ok field.name.snake

/-- The statement for a step of a writing plan. -/
def WriteStatement.ofStep (fields : List Field) : WriteStep → Except PlanFault WriteStatement
  | .field index =>
      match fields[index]? with
      | none => .error (.noField index)
      | some field =>
          match ofType? field.name.snake field.type with
          | some statement => .ok statement
          | none => .error (.loneFlag index)
  | .flags indices =>
      match indices.mapM (fieldName fields) with
      | .ok names => .ok (flags names)
      | .error fault => .error fault

/-- The statements that write the arguments of a method. -/
def writeStatements (method : Method) : Except PlanFault (List WriteStatement) :=
  method.writePlan.mapM (WriteStatement.ofStep method.fields)

/-! ## Lines -/

/-- The lines that read the arguments of a method. -/
def readLines (method : Method) (locals : ReadLocals) : Except PlanFault (List String) :=
  (readStatements method locals).map fun statements => statements.map ReadStatement.text

/-- The lines that write the arguments of a method. -/
def writeLines (method : Method) : Except PlanFault (List String) :=
  (writeStatements method).map fun statements => statements.map WriteStatement.text

end MethodCodec.Source
