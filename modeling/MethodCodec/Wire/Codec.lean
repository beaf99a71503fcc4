import MethodCodec.Protocol.Basic
import MethodCodec.Wire.Value

/-!
Reading and writing the arguments of a method by carrying out the plans of its
layout.
-/

namespace MethodCodec

/-- Why a payload cannot be read or arguments cannot be written. -/
inductive CodecFault
  /-- Bytes are missing for an argument, or for a byte of flags. -/
  | truncated (what : String)
  | typeMismatch (argument : String) (expected : WireType)
  | arity (expected actual : Nat)
  /-- A body is longer than its length can say. -/
  | tooLong (argument : String) (length : Nat)
  /-- The plan does not fit the arguments. -/
  | misplanned (fault : PlanFault)
  deriving DecidableEq

/-- What a missing byte of flags is called. -/
def flagByteName : String := "bit flags"

/-- The wording of a fault. -/
def CodecFault.message : CodecFault → String
  | .truncated what => "payload truncated while reading " ++ what
  | .typeMismatch argument expected =>
      "argument " ++ argument ++ ": expected " ++ expected.spelling ++ " value"
  | .arity expected actual =>
      "expected " ++ Text.decimal expected ++ " argument values, got " ++ Text.decimal actual
  | .tooLong argument length =>
      argument ++ " is " ++ Text.decimal length ++ " bytes, longer than its length prefix allows"
  | .misplanned fault => fault.message

namespace Codec

/-! ## Reading -/

/-- A reading in progress: the bytes not yet read, the flags of the byte opened
last, and one slot per argument. -/
structure Reading where
  rest : List UInt8
  flags : List Bool
  slots : List (Option Value)

/-- The state before the first step: every slot is empty and no byte is open,
which reads as eight unset flags. -/
def Reading.start (fields : List Field) (payload : List UInt8) : Reading where
  rest := payload
  flags := List.replicate Bits.perByte false
  slots := fields.map fun _ => none

/-- Carries out one step of a reading plan. -/
def readStep (fields : List Field) (reading : Reading) :
    ReadStep → Except CodecFault Reading
  | .field index =>
      match fields[index]? with
      | none => .error (.misplanned (.noField index))
      | some field =>
          if field.type.isFlag then
            .error (.misplanned (.loneFlag index))
          else
            match Value.read? field.type reading.rest with
            | none => .error (.truncated field.name.written)
            | some (value, rest) =>
                .ok { reading with rest, slots := reading.slots.set index (some value) }
  | .flagByte =>
      match reading.rest with
      | [] => .error (.truncated flagByteName)
      | byte :: rest => .ok { reading with rest, flags := Bits.unpack byte }
  | .flag index position =>
      if index < fields.length then
        match reading.flags[position]? with
        | none => .error (.misplanned (.noPosition position))
        | some flag =>
            .ok { reading with slots := reading.slots.set index (some (.bit flag)) }
      else
        .error (.misplanned (.noField index))

/-- Reads a payload by a plan; the filled slots are the values. -/
def readBy (plan : List ReadStep) (fields : List Field) (payload : List UInt8) :
    Except CodecFault (List Value) :=
  match plan.foldlM (readStep fields) (Reading.start fields payload) with
  | .ok reading => .ok (reading.slots.filterMap id)
  | .error error => .error error

/-! ## Writing -/

/-- The first argument whose value is not of its type. -/
def firstMismatch? : List Field → List Value → Option Field
  | field :: fields, value :: values =>
      if value.type = field.type then firstMismatch? fields values else some field
  | _, _ => none

/-- The flag at a position of the argument list. -/
def flagAt (values : List Value) (index : Nat) : Except CodecFault Bool :=
  match values[index]? with
  | none => .error (.misplanned (.noField index))
  | some value => .ok (value == .bit true)

/-- Carries out one step of a writing plan. -/
def writeStep (fields : List Field) (values : List Value) :
    WriteStep → Except CodecFault (List UInt8)
  | .field index =>
      match fields[index]?, values[index]? with
      | some field, some value =>
          if value.type.isFlag then
            .error (.misplanned (.loneFlag index))
          else
            match value.write with
            | .ok bytes => .ok bytes
            | .error length => .error (.tooLong field.name.written length)
      | _, _ => .error (.misplanned (.noField index))
  | .flags indices =>
      match indices.mapM (flagAt values) with
      | .ok flags => .ok (Bits.pack flags)
      | .error error => .error error

/-- Writes values by a plan. -/
def writeBy (plan : List WriteStep) (fields : List Field) (values : List Value) :
    Except CodecFault (List UInt8) :=
  match plan.mapM (writeStep fields values) with
  | .ok pieces => .ok pieces.flatten
  | .error error => .error error

end Codec

namespace Method

/-- Reads one value per argument off a payload. Bytes left over after the last
argument are ignored. -/
def decode (method : Method) (payload : List UInt8) : Except CodecFault (List Value) :=
  Codec.readBy method.readPlan method.fields payload

/-- Writes one value per argument. The number of values is checked first, then
the type of each, then the length of each body. -/
def encode (method : Method) (values : List Value) : Except CodecFault (List UInt8) :=
  if values.length ≠ method.fields.length then
    .error (.arity method.fields.length values.length)
  else
    match Codec.firstMismatch? method.fields values with
    | some field => .error (.typeMismatch field.name.written field.type)
    | none => Codec.writeBy method.writePlan method.fields values

end Method

/-- Reads a payload by the method declared for a pair of ids; no method, no
answer. -/
def Protocol.readFrame (protocol : Protocol) (classId methodId : UInt16)
    (payload : List UInt8) : Except CodecFault (Option (Method × List Value)) :=
  match protocol.findMethod? classId methodId with
  | none => .ok none
  | some method =>
      match method.decode payload with
      | .ok values => .ok (some (method, values))
      | .error error => .error error

end MethodCodec
