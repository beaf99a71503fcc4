import Mathlib
import MethodCodec.Proofs.Encoding
import MethodCodec.Proofs.Bits
import MethodCodec.Proofs.Line
import MethodCodec.Wire.Codec

/-!
# Routines

What the lines of the reading and writing routines do.  A line that binds takes
bytes off the front of a reader and changes the variables in scope; a line that
appends makes bytes of the fields of a record.  Functions stand for the byte
helpers of the generated source, whatever a variable is called, and the table
functions for a body behind its length in four bytes.
-/

namespace MethodCodec.Source

/-! ## Data -/

/-- What variables and fields hold. -/
inductive Datum
  | u8 (number : UInt8)
  | u16 (number : UInt16)
  | u32 (number : UInt32)
  | u64 (number : UInt64)
  | flag (flag : Bool)
  /-- The flags of a byte. -/
  | flags (flags : List Bool)
  | text (text : String)
  | table (body : List UInt8)
  /-- The bytes that are not read yet. -/
  | reader (bytes : List UInt8)
  deriving DecidableEq

namespace Datum

/-- The field of a structure that holds a value. -/
def ofValue : Value → Datum
  | .octet number => u8 number
  | .short number => u16 number
  | .long number => u32 number
  | .longLong number => u64 number
  | .bit set => flag set
  | .shortString content => text content
  | .longString content => text content
  | .table body => table body
  | .timestamp number => u64 number

/-- The value that a field of a type holds. -/
def toValue? : WireType → Datum → Option Value
  | .octet, u8 number => some (.octet number)
  | .short, u16 number => some (.short number)
  | .long, u32 number => some (.long number)
  | .longLong, u64 number => some (.longLong number)
  | .timestamp, u64 number => some (.timestamp number)
  | .bit, flag set => some (.bit set)
  | .shortString, text content => some (.shortString content)
  | .longString, text content => some (.longString content)
  | .table, table body => some (.table body)
  | _, _ => none

@[simp]
theorem toValue?_ofValue (value : Value) :
    (ofValue value).toValue? value.type = some value := by
  cases value <;> rfl

end Datum

/-! ## Byte helpers that read -/

/-- Takes bytes off the front, if there are that many. -/
def takeFront? (count : Nat) (bytes : List UInt8) :
    Option (List UInt8 × List UInt8) :=
  if bytes.length < count then none else some (bytes.splitAt count)

/-- Reads a number in big-endian order. -/
def readBigEndian? (width : Nat) (bytes : List UInt8) :
    Option (Nat × List UInt8) :=
  (takeFront? width bytes).map fun (front, rest) => (Encoding.number front, rest)

/-- Reads a length in big-endian order, and then that many bytes. -/
def readBehind? (width : Nat) (bytes : List UInt8) :
    Option (List UInt8 × List UInt8) :=
  (readBigEndian? width bytes).bind fun (length, rest) => takeFront? length rest

/-- The functions that read off a reader. -/
def readFunction? : String → Option (List UInt8 → Option (Datum × List UInt8))
  | "wire::read_u8" => some fun bytes =>
      (readBigEndian? 1 bytes).map fun (number, rest) => (.u8 (.ofNat number), rest)
  | "wire::read_u16" => some fun bytes =>
      (readBigEndian? 2 bytes).map fun (number, rest) => (.u16 (.ofNat number), rest)
  | "wire::read_u32" => some fun bytes =>
      (readBigEndian? 4 bytes).map fun (number, rest) => (.u32 (.ofNat number), rest)
  | "wire::read_u64" => some fun bytes =>
      (readBigEndian? 8 bytes).map fun (number, rest) => (.u64 (.ofNat number), rest)
  | "wire::read_short_str" => some fun bytes =>
      (readBehind? 1 bytes).map fun (body, rest) => (.text (Value.repaired body), rest)
  | "wire::read_long_str" => some fun bytes =>
      (readBehind? 4 bytes).map fun (body, rest) => (.text (Value.repaired body), rest)
  | "decode_table" => some fun bytes =>
      (readBehind? 4 bytes).map fun (body, rest) => (.table body, rest)
  | _ => none

/-- Whether each bit of a byte is set, from the least significant. -/
def unpackBits (byte : UInt8) : List Bool :=
  (List.range 8).map fun position => byte.toNat &&& (1 <<< position) != 0

theorem readBigEndian?_eq (width : Nat) (bytes : List UInt8) :
    readBigEndian? width bytes = Encoding.readNumber? width bytes := by
  rw [readBigEndian?, takeFront?, Encoding.readNumber?]
  by_cases short : bytes.length < width
  · rw [if_pos short, if_neg (Nat.not_le_of_lt short)]
    rfl
  · rw [if_neg short, if_pos (Nat.le_of_not_lt short), List.splitAt_eq]
    rfl

theorem readBehind?_eq (width : Nat) (bytes : List UInt8) :
    readBehind? width bytes = Encoding.readBody? width bytes := by
  rw [readBehind?, readBigEndian?_eq, Encoding.readNumber?, Encoding.readBody?]
  by_cases enough : width ≤ bytes.length
  · rw [if_pos enough, Option.bind_some]
    dsimp only
    rw [takeFront?, List.length_drop, List.splitAt_eq, List.drop_drop]
    by_cases short : bytes.length - width < Encoding.number (bytes.take width)
    · rw [if_pos short, if_neg (by omega)]
    · rw [if_neg short, if_pos (by omega)]
  · rw [if_neg enough, if_neg (by omega)]
    rfl

/-- The function for a type reads by the encoding of the type. -/
theorem exists_readFunction
    {kind : WireType} {helper : ReadHelper}
    (chosen : ReadHelper.ofType? kind = some helper) :
    ∃ read, readFunction? helper.path = some read ∧
      ∀ bytes, read bytes =
        (Encoding.read? kind bytes).map fun (value, rest) =>
          (Datum.ofValue value, rest) := by
  cases kind <;> cases chosen <;> refine ⟨_, rfl, fun bytes => ?_⟩ <;>
    simp only [readBigEndian?_eq, readBehind?_eq, Encoding.read?,
      Option.map_map] <;>
    rfl

@[simp]
theorem unpackBits_eq (byte : UInt8) : unpackBits byte = Bits.unpack byte := by
  refine List.map_congr_left fun position _ => ?_
  rw [Nat.one_shiftLeft, Nat.and_two_pow]
  cases byte.toNat.testBit position <;> simp

/-! ## Byte helpers that write -/

def writeBehind (width : Nat) (body : List UInt8) : List UInt8 :=
  Encoding.digits width body.length ++ body

/-- The functions that append to the buffer. Of a text, no more is written than
its length can say. -/
def writeFunction? : String → Option (Datum → Option (List UInt8))
  | "wire::write_short_str" => some fun
      | .text content => some (writeBehind 1 (content.toUTF8.data.toList.take 255))
      | _ => none
  | "wire::write_long_str" => some fun
      | .text content =>
          some (writeBehind 4 (content.toUTF8.data.toList.take 4294967295))
      | _ => none
  | "encode_table" => some fun
      | .table body => some (writeBehind 4 body)
      | _ => none
  | _ => none

def Datum.bigEndian? : Datum → Option (List UInt8)
  | .u8 number => some (Encoding.digits 1 number.toNat)
  | .u16 number => some (Encoding.digits 2 number.toNat)
  | .u32 number => some (Encoding.digits 4 number.toNat)
  | .u64 number => some (Encoding.digits 8 number.toNat)
  | _ => none

def Datum.flag? : Datum → Option Bool
  | .flag set => some set
  | _ => none

/-- Sets the bits of a byte by flags, from the least significant. -/
def packByte (flags : List Bool) : UInt8 :=
  .ofNat (flags.zipIdx.foldl
    (fun byte (flag, position) => byte ||| (flag.toNat <<< position)) 0)

def packBits (flags : List Bool) : List UInt8 :=
  (Bits.chunks flags).map packByte

theorem testBit_foldl_zipIdx (flags : List Bool) (start byte position : Nat) :
    ((flags.zipIdx start).foldl
        (fun byte (flag, position) => byte ||| (flag.toNat <<< position))
        byte).testBit position =
      (byte.testBit position ||
        (decide (start ≤ position) && flags.getD (position - start) false)) := by
  -- Each round sets the bit at `start` and leaves the flags behind it, so that
  -- both the bits made so far and the place of the next one vary.
  induction flags generalizing start byte with
  | nil => simp
  | cons flag flags inductionHypothesis =>
      rw [List.zipIdx_cons, List.foldl_cons, inductionHypothesis,
        Nat.testBit_or, Nat.testBit_shiftLeft, Bool.or_assoc]
      congr 1
      rcases Nat.lt_trichotomy position start with before | here | behind
      · simp [Nat.not_le_of_lt before, Nat.not_le_of_lt (Nat.lt_succ_of_lt before)]
      · subst here
        cases flag <;> simp
      · obtain ⟨offset, rfl⟩ := Nat.exists_eq_add_of_lt behind
        have shift : start + offset + 1 - start = offset + 1 := by omega
        have rest : start + offset + 1 - (start + 1) = offset := by omega
        have inside : start ≤ start + offset + 1 := by omega
        cases flag <;> simp [shift, rest, inside, Nat.testBit_succ]

@[simp]
theorem packBits_eq (flags : List Bool) : packBits flags = Bits.pack flags := by
  refine List.map_congr_left fun chunk _ => congrArg UInt8.ofNat ?_
  apply Nat.eq_of_testBit_eq
  intro position
  rw [testBit_foldl_zipIdx, Bits.testBit_toNat]
  simp

/-! ## Variables in scope -/

/-- What each variable holds that is bound. -/
abbrev Scope := String → Option Datum

def Scope.bind (scope : Scope) (name : String) (datum : Datum) : Scope :=
  Function.update scope name (some datum)

/-- Why the lines do not go through: bytes are missing, or a line means
nothing. -/
inductive Halt
  | missing
  | stuck
  deriving DecidableEq

/-- A call on a reader, which is left at the bytes behind. -/
def Scope.call (scope : Scope) (function reader : String) :
    Except Halt (Datum × Scope) :=
  match readFunction? function, scope reader with
  | some read, some (.reader bytes) =>
      match read bytes with
      | some (datum, rest) => .ok (datum, scope.bind reader (.reader rest))
      | none => .error .missing
  | _, _ => .error .stuck

/-- The datum that a right side gives, and the scope after it. -/
def RightSide.eval (scope : Scope) : RightSide → Except Halt (Datum × Scope)
  | call function reader => scope.call function reader
  | wrapped outer function reader =>
      match scope.call function reader with
      | .ok (.u8 byte, after) =>
          if outer = "wire::unpack_bits" then .ok (.flags (unpackBits byte), after)
          else .error .stuck
      | .ok _ => .error .stuck
      | .error halt => .error halt
  | element array position =>
      match scope array with
      | some (.flags flags) =>
          match flags[position]? with
          | some flag => .ok (.flag flag, scope)
          | none => .error .stuck
      | _ => .error .stuck

/-- Carries out a line that binds. -/
def readLine (scope : Scope) (line : String) : Except Halt Scope :=
  match readBinding? line with
  | some (name, side) =>
      (side.eval scope).map fun (datum, after) => after.bind name datum
  | none => .error .stuck

/-- The values of the variables named by the fields. -/
def collect (fields : List Field) (scope : Scope) : Except Halt (List Value) :=
  fields.mapM fun field =>
    match (scope field.name.snake).bind (Datum.toValue? field.type) with
    | some value => .ok value
    | none => .error .stuck

/-- Carries out the lines on a payload, and collects the values. -/
def runReading (lines : List String) (reader : String) (fields : List Field)
    (payload : List UInt8) : Except Halt (List Value) :=
  (lines.foldlM readLine (Scope.bind (fun _ => none) reader (.reader payload))).bind
    (collect fields)

@[simp]
theorem Scope.bind_self (scope : Scope) (name : String) (datum : Datum) :
    scope.bind name datum name = some datum :=
  Function.update_self ..

theorem Scope.bind_of_ne
    {name other : String} (apart : other ≠ name) (scope : Scope)
    (datum : Datum) :
    scope.bind name datum other = scope other :=
  Function.update_of_ne apart ..

section

variable {name reader flags : String} {scope : Scope} {bytes : List UInt8}

theorem readLine_bind
    (isName : isIdentifier name = true) (isReader : isIdentifier reader = true)
    (held : scope reader = some (.reader bytes))
    {kind : WireType} {helper : ReadHelper}
    (chosen : ReadHelper.ofType? kind = some helper) :
    readLine scope (ReadStatement.bind name helper reader).text =
      match Encoding.read? kind bytes with
      | none => .error .missing
      | some (value, rest) =>
          .ok ((scope.bind reader (.reader rest)).bind name (.ofValue value)) := by
  obtain ⟨read, function, reads⟩ := exists_readFunction chosen
  simp only [readLine, readBinding?_bind isName isReader, RightSide.eval,
    Scope.call, function, held, reads]
  cases Encoding.read? kind bytes <;> rfl

theorem readLine_openFlags
    (isReader : isIdentifier reader = true) (isFlags : isIdentifier flags = true)
    (held : scope reader = some (.reader bytes)) :
    readLine scope (ReadStatement.openFlags flags reader).text =
      match bytes with
      | [] => .error .missing
      | byte :: rest =>
          .ok ((scope.bind reader (.reader rest)).bind flags
            (.flags (Bits.unpack byte))) := by
  have function :
      readFunction? "wire::read_u8" = some fun bytes =>
        (readBigEndian? 1 bytes).map fun (number, rest) =>
          (.u8 (.ofNat number), rest) := rfl
  simp only [readLine, readBinding?_openFlags isReader isFlags, RightSide.eval,
    Scope.call, function, held]
  cases bytes with
  | nil => rfl
  | cons byte rest =>
      have opened : readBigEndian? 1 (byte :: rest) = some (byte.toNat, rest) := by
        simp [readBigEndian?, takeFront?, Encoding.number]
      simp [opened, unpackBits_eq, Except.map]

theorem readLine_takeFlag
    (isName : isIdentifier name = true) (isFlags : isIdentifier flags = true)
    {byte : UInt8} (held : scope flags = some (.flags (Bits.unpack byte)))
    {position : Nat} (inside : position < 8) :
    readLine scope (ReadStatement.takeFlag name flags position).text =
      .ok (scope.bind name (.flag (byte.toNat.testBit position))) := by
  simp only [readLine, readBinding?_takeFlag isName isFlags, RightSide.eval, held,
    Bits.getElem?_unpack inside]
  rfl

end

/-! ## Lines that append -/

/-- The bytes that a line makes of a record. -/
def Appending.bytes? (record : Scope) : Appending → Option (List UInt8)
  | push field =>
      match record field with
      | some (.u8 number) => some [number]
      | _ => none
  | extend field => (record field).bind Datum.bigEndian?
  | call function field =>
      match writeFunction? function, record field with
      | some write, some datum => write datum
      | _, _ => none
  | gather function fields =>
      if function = "wire::pack_bits" then
        (fields.mapM fun field => (record field).bind Datum.flag?).map packBits
      else none

def appendLine (record : Scope) (buffer : List UInt8) (line : String) :
    Option (List UInt8) :=
  (readAppending? line).bind fun appending =>
    (appending.bytes? record).map fun bytes => buffer ++ bytes

/-- Carries out the lines on a buffer. -/
def runWriting (lines : List String) (record : Scope) (buffer : List UInt8) :
    Option (List UInt8) :=
  lines.foldlM (appendLine record) buffer

section

variable {name : String} (isName : isWord name = true) {record : Scope}

theorem digits_one (number : UInt8) :
    Encoding.digits 1 number.toNat = [number] := by
  have single : Encoding.number [number] = number.toNat := by
    simp [Encoding.number]
  rw [← single]
  exact Encoding.digits_number [number]

include isName in
theorem appendLine_call
    {function : String} (isFunction : isWord function = true)
    {write : Datum → Option (List UInt8)}
    (written : writeFunction? function = some write)
    {datum : Datum} (held : record name = some datum) {bytes : List UInt8}
    (writes : write datum = some bytes) (buffer : List UInt8) :
    appendLine record buffer (function ++ "(&mut buf, &" ++ ownField name ++ ");") =
      some (buffer ++ bytes) := by
  simp only [appendLine, readAppending?_call isName isFunction,
    Option.bind_some, Appending.bytes?, held, written, writes, Option.map_some]

include isName in
theorem appendLine_number
    {datum : Datum} (held : record name = some datum) {bytes : List UInt8}
    (spelled : datum.bigEndian? = some bytes) (buffer : List UInt8) :
    appendLine record buffer (WriteStatement.number name).text =
      some (buffer ++ bytes) := by
  simp only [appendLine, readAppending?_number isName, Option.bind_some,
    Appending.bytes?, held, spelled, Option.map_some]

include isName in
/-- A line for a field that is no flag appends the bytes of its value. -/
theorem appendLine_of_type
    {value : Value} (held : record name = some (.ofValue value))
    (fits : Encoding.overlong? value = none) {statement : WriteStatement}
    (chosen : WriteStatement.ofType? name value.type = some statement)
    (buffer : List UInt8) :
    appendLine record buffer statement.text =
      some (buffer ++ Encoding.bytes value) := by
  cases value with
  | octet number =>
      cases chosen
      simp only [appendLine, readAppending?_octet isName, Option.bind_some,
        Appending.bytes?, held, Datum.ofValue, Option.map_some]
      exact congrArg (fun bytes => some (buffer ++ bytes)) (digits_one number).symm
  | short number | long number | longLong number | timestamp number =>
      cases chosen
      exact appendLine_number isName held rfl buffer
  | shortString content =>
      cases chosen
      have isFunction : isWord "wire::write_short_str" = true := by
        decide
      -- The function would cut a longer text; the codec refuses it.
      have short : content.toUTF8.data.toList.length < 256 ^ 1 :=
        Encoding.fits_of_overlong?_eq_none rfl fits
      have whole := List.take_of_length_le (Nat.le_of_lt_succ short)
      exact appendLine_call isName isFunction rfl held
        (congrArg (fun body => some (writeBehind 1 body)) whole) buffer
  | longString content =>
      cases chosen
      have isFunction : isWord "wire::write_long_str" = true := by
        decide
      have short : content.toUTF8.data.toList.length < 256 ^ 4 :=
        Encoding.fits_of_overlong?_eq_none rfl fits
      have whole := List.take_of_length_le (Nat.le_of_lt_succ short)
      exact appendLine_call isName isFunction rfl held
        (congrArg (fun body => some (writeBehind 4 body)) whole) buffer
  | table body =>
      cases chosen
      have isFunction : isWord "encode_table" = true := by
        decide
      exact appendLine_call isName isFunction rfl held rfl buffer
  | bit flag =>
      cases chosen

theorem appendLine_flags
    {names : List String} (words : ∀ name ∈ names, isWord name = true)
    (nonempty : names ≠ []) {flags : List Bool}
    (held : names.mapM (fun name => (record name).bind Datum.flag?) = some flags)
    (buffer : List UInt8) :
    appendLine record buffer (WriteStatement.flags names).text =
      some (buffer ++ Bits.pack flags) := by
  simp only [appendLine, readAppending?_flags words nonempty, Option.bind_some,
    Appending.bytes?, if_true, held, Option.map_some, packBits_eq]

end

end MethodCodec.Source
