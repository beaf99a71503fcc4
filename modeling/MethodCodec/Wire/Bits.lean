/-!
Flags packed eight to a byte, the first flag in the least significant bit.
-/

namespace MethodCodec.Bits

/-- Flags carried by one byte. -/
def perByte : Nat := 8

/-- Bytes that `count` flags occupy: one per started run of eight. -/
def byteCount (count : Nat) : Nat :=
  (count + (perByte - 1)) / perByte

/-- The number whose bit `i` is flag `i`. -/
def toNat : List Bool → Nat
  | [] => 0
  | flag :: rest => flag.toNat + 2 * toNat rest

/-- The pieces of eight items, in order; only the last may be shorter. -/
def chunks {α : Type} (items : List α) : List (List α) :=
  match items with
  | [] => []
  | first :: rest =>
      ((first :: rest).take perByte) :: chunks ((first :: rest).drop perByte)
  termination_by items.length
  decreasing_by simp only [List.length_drop, List.length_cons, perByte]; omega

/-- Eight flags to a byte; missing flags of the last byte are zero. -/
def pack (flags : List Bool) : List UInt8 :=
  (chunks flags).map fun chunk => UInt8.ofNat (toNat chunk)

/-- The eight flags of a byte, least significant first. -/
def unpack (byte : UInt8) : List Bool :=
  (List.range perByte).map fun position => byte.toNat.testBit position

end MethodCodec.Bits
