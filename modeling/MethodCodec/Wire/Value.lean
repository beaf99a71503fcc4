import MethodCodec.Text.Quoted
import MethodCodec.Text.Utf8
import MethodCodec.Wire.Type

/-!
Argument values and their encodings: integers in big-endian order, text and
tables behind a length, text repaired where its bytes are not UTF-8. Flags have
no encoding of their own.
-/

namespace MethodCodec

/-! ## Bytes -/

namespace Bytes

/-- How many numbers `width` bytes can tell apart. -/
def capacity : Nat → Nat
  | 0 => 1
  | width + 1 => 256 * capacity width

/-- The low `width` bytes of a number, most significant first. -/
def bigEndian : Nat → Nat → List UInt8
  | 0, _ => []
  | width + 1, number => UInt8.ofNat (number / capacity width) :: bigEndian width number

/-- The number that bytes stand for in big-endian order. -/
def toNat (bytes : List UInt8) : Nat :=
  bytes.foldl (fun number byte => number * 256 + byte.toNat) 0

/-- The first `count` bytes and the rest, if there are that many. -/
def take? (count : Nat) (bytes : List UInt8) : Option (List UInt8 × List UInt8) :=
  if count ≤ bytes.length then some (bytes.take count, bytes.drop count) else none

/-- Reads a big-endian number of `width` bytes. -/
def readNat? (width : Nat) (bytes : List UInt8) : Option (Nat × List UInt8) :=
  (take? width bytes).map fun (front, rest) => (toNat front, rest)

/-- Reads a body behind its length, a big-endian number of `width` bytes. -/
def readBody? (width : Nat) (bytes : List UInt8) : Option (List UInt8 × List UInt8) :=
  match readNat? width bytes with
  | some (length, rest) => take? length rest
  | none => none

/-- Writes a body behind its length, or gives the length back if `width` bytes
cannot hold it. -/
def writeBody (width : Nat) (body : List UInt8) : Except Nat (List UInt8) :=
  if body.length < capacity width then
    .ok (bigEndian width body.length ++ body)
  else
    .error body.length

end Bytes

/-! ## Values -/

/-- The value of an argument. -/
inductive Value
  | octet (number : UInt8)
  | short (number : UInt16)
  | long (number : UInt32)
  | longLong (number : UInt64)
  | bit (flag : Bool)
  | shortString (text : String)
  | longString (text : String)
  /-- The body of a table, without the length before it. -/
  | table (body : List UInt8)
  | timestamp (number : UInt64)
  deriving DecidableEq

namespace Value

/-- The type that a value is of. -/
def type : Value → WireType
  | octet _ => .octet
  | short _ => .short
  | long _ => .long
  | longLong _ => .longLong
  | bit _ => .bit
  | shortString _ => .shortString
  | longString _ => .longString
  | table _ => .table
  | timestamp _ => .timestamp

/-- A value as it is shown to a reader: text in quotes, a table by its size. -/
def display : Value → String
  | octet number => Text.decimal number.toNat
  | short number => Text.decimal number.toNat
  | long number => Text.decimal number.toNat
  | longLong number | timestamp number => Text.decimal number.toNat
  | bit flag => if flag then "true" else "false"
  | shortString text | longString text => Text.quote text
  | table body => "table(" ++ Text.decimal body.length ++ " bytes)"

/-- The text of a body, with what is not UTF-8 repaired. -/
def repaired (body : List UInt8) : String :=
  String.ofList (Utf8.decodeLossy body)

/-- Reads a value of the given type off the front of a payload; `none` when
bytes are missing, and for flags. -/
def read? (kind : WireType) (bytes : List UInt8) : Option (Value × List UInt8) :=
  match kind with
  | .octet => (Bytes.readNat? 1 bytes).map fun (n, rest) => (octet (UInt8.ofNat n), rest)
  | .short => (Bytes.readNat? 2 bytes).map fun (n, rest) => (short (UInt16.ofNat n), rest)
  | .long => (Bytes.readNat? 4 bytes).map fun (n, rest) => (long (UInt32.ofNat n), rest)
  | .longLong => (Bytes.readNat? 8 bytes).map fun (n, rest) => (longLong (UInt64.ofNat n), rest)
  | .timestamp => (Bytes.readNat? 8 bytes).map fun (n, rest) => (timestamp (UInt64.ofNat n), rest)
  | .shortString =>
      (Bytes.readBody? 1 bytes).map fun (body, rest) => (shortString (repaired body), rest)
  | .longString =>
      (Bytes.readBody? 4 bytes).map fun (body, rest) => (longString (repaired body), rest)
  | .table => (Bytes.readBody? 4 bytes).map fun (body, rest) => (table body, rest)
  | .bit => none

/-- The encoding of a value, or the size of a body that is longer than its
length can say. A flag on its own writes nothing. -/
def write : Value → Except Nat (List UInt8)
  | octet number => .ok (Bytes.bigEndian 1 number.toNat)
  | short number => .ok (Bytes.bigEndian 2 number.toNat)
  | long number => .ok (Bytes.bigEndian 4 number.toNat)
  | longLong number | timestamp number => .ok (Bytes.bigEndian 8 number.toNat)
  | shortString text => Bytes.writeBody 1 (Utf8.bytes text)
  | longString text => Bytes.writeBody 4 (Utf8.bytes text)
  | table body => Bytes.writeBody 4 body
  | bit _ => .ok []

end Value

end MethodCodec
