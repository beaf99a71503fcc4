import MethodCodec.Text.Numeral
import MethodCodec.Text.Quoted

/-!
Bytes written as pairs of hexadecimal digits, high digit first.
-/

namespace MethodCodec.Hex

/-- Two lower-case digits for a byte. -/
def encodeByte (byte : UInt8) : List Char :=
  [Nat.digitChar (byte.toNat / 16), Nat.digitChar (byte.toNat % 16)]

def encode (bytes : List UInt8) : List Char :=
  bytes.flatMap encodeByte

/-- Why a text is not pairs of digits. -/
inductive Fault
  | oddLength
  /-- A byte of the text, seen as a character, is no digit. -/
  | badDigit (c : Char) (position : Nat)
  deriving DecidableEq

/-- The wording of a fault. -/
def Fault.message : Fault → String
  | oddLength => "Odd number of digits"
  | badDigit c position =>
      "Invalid character " ++ Text.quoteChar c ++ " at position " ++ Text.decimal position

/-- The value of the digit at a position of a text. -/
def readDigit (position : Nat) (byte : UInt8) : Except Fault Nat :=
  match Text.digitValue? 16 (Char.ofNat byte.toNat) with
  | some value => .ok value
  | none => .error (.badDigit (Char.ofNat byte.toNat) position)

/-- Reads pairs of digits, in either case, from a position on. -/
def readPairs (position : Nat) : List UInt8 → Except Fault (List UInt8)
  | [] => .ok []
  | [_] => .error .oddLength
  | high :: low :: rest => do
      let highValue ← readDigit position high
      let lowValue ← readDigit (position + 1) low
      let bytes ← readPairs (position + 2) rest
      return UInt8.ofNat (16 * highValue + lowValue) :: bytes

/-- Reads the bytes of a text as pairs of digits. Their number is looked at
first, then each in turn. -/
def decode (text : List UInt8) : Except Fault (List UInt8) :=
  if text.length % 2 = 0 then readPairs 0 text else .error .oddLength

end MethodCodec.Hex
