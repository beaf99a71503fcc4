import MethodCodec.Text.Numeral
import MethodCodec.Text.Visible

/-!
Text between double quotes. A quote, a backslash and the common controls have
two-character escapes; every other character that cannot be shown as it is
stands as its code point in hexadecimal.
-/

namespace MethodCodec.Text

/-- A character as its code point: a backslash, `u`, and the hexadecimal
numeral between braces. -/
def codePointEscape (c : Char) : List Char :=
  ['\\', 'u', '\x7b'] ++ numeral 16 c.toNat ++ ['\x7d']

/-- The escape of a control character that has a letter of its own. -/
def letterEscape? : Char → Option Char
  | '\x00' => some '0'
  | '\t' => some 't'
  | '\r' => some 'r'
  | '\n' => some 'n'
  | _ => none

/-- A character as it stands between the given quotes. A character that joins
the glyph before it cannot be seen alone, so it is escaped too. -/
def quotedChar (quote c : Char) : List Char :=
  match letterEscape? c with
  | some letter => ['\\', letter]
  | none =>
      if c = '\\' ∨ c = quote then
        ['\\', c]
      else if isJoining c || !hasGlyph c then
        codePointEscape c
      else
        [c]

/-- A text between double quotes. -/
def quoted (text : List Char) : List Char :=
  '"' :: text.flatMap (quotedChar '"') ++ ['"']

/-- A text between double quotes, as a string. -/
def quote (text : String) : String :=
  String.ofList (quoted text.toList)

/-- A character between single quotes; a double quote stands as it is. -/
def quoteChar (c : Char) : String :=
  String.ofList ('\'' :: quotedChar '\'' c ++ ['\''])

end MethodCodec.Text
