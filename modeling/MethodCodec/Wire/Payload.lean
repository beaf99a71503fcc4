import MethodCodec.Text.Blank
import MethodCodec.Text.Hex
import MethodCodec.Text.Utf8

/-!
Payloads as they are typed: hexadecimal digits with white space anywhere.
-/

namespace MethodCodec.Payload

/-- What is said of a text that is no payload. -/
def invalidMessage : String := "payload is not valid hex"

/-- Leaves out a hexadecimal mark at the start. -/
def withoutMark : List Char → List Char
  | '0' :: 'x' :: digits => digits
  | digits => digits

/-- The digits of a text: white space is left out, and then one mark. -/
def digitsOf (text : List Char) : List Char :=
  withoutMark (text.filter fun c => !Text.isBlank c)

/-- The bytes that a text stands for. -/
def read (text : String) : Except Hex.Fault (List UInt8) :=
  Hex.decode (Utf8.encode (digitsOf text.toList))

end MethodCodec.Payload
