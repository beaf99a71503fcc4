import MethodCodec.Outline.Basic
import MethodCodec.Text.Numeral

/-!
Outlines as JSON texts: with one item or member a line and two spaces for each
level, or all on one line without white space.
-/

namespace MethodCodec.Outline

namespace JsonText

/-- The letter that stands for a character behind a backslash. -/
def escapeLetter? : Char → Option Char
  | '"' => some '"'
  | '\\' => some '\\'
  | '\x08' => some 'b'
  | '\x0c' => some 'f'
  | '\n' => some 'n'
  | '\r' => some 'r'
  | '\t' => some 't'
  | _ => none

/-- A character inside quotes. Controls without a letter stand as four
hexadecimal digits. -/
def escapeChar (c : Char) : List Char :=
  match escapeLetter? c with
  | some letter => ['\\', letter]
  | none =>
      if c.toNat < 0x20 then
        ['\\', 'u', '0', '0', Nat.digitChar (c.toNat / 16), Nat.digitChar (c.toNat % 16)]
      else
        [c]

def quoted (text : String) : List Char :=
  '"' :: text.toList.flatMap escapeChar ++ ['"']

/-- The start of a line at a level. -/
def indentation (level : Nat) : List Char :=
  List.replicate (2 * level) ' '

/-- Lines at a level with a comma and a line break between each two. -/
def joinLines (level : Nat) : List (List Char) → List Char
  | [] => []
  | [line] => indentation level ++ line
  | line :: rest => indentation level ++ line ++ ',' :: '\n' :: joinLines level rest

/-- Lines between the two marks of a container that begins at a level. -/
def enclose (opening closing : Char) (level : Nat) (lines : List (List Char)) : List Char :=
  if lines.isEmpty then [opening, closing]
  else
    opening :: '\n' :: joinLines (level + 1) lines ++ '\n' :: indentation level ++ [closing]

mutual

/-- An outline that begins on a line of the given level. -/
def chars (level : Nat) : Outline → List Char
  | .nothing => "null".toList
  | .flag value => (if value then "true" else "false").toList
  | .number value => Text.numeral 10 value
  | .text value => quoted value
  | .list items => enclose '[' ']' level (itemLines (level + 1) items)
  | .record members => enclose '\x7b' '\x7d' level (memberLines (level + 1) members)

def itemLines (level : Nat) : List Outline → List (List Char)
  | [] => []
  | item :: rest => chars level item :: itemLines level rest

def memberLines (level : Nat) : List (String × Outline) → List (List Char)
  | [] => []
  | (key, value) :: rest =>
      (quoted key ++ ':' :: ' ' :: chars level value) :: memberLines level rest

end

/-- Pieces with a comma between each two. -/
def joinCompact : List (List Char) → List Char
  | [] => []
  | [piece] => piece
  | piece :: rest => piece ++ ',' :: joinCompact rest

mutual

/-- An outline without white space. -/
def compact : Outline → List Char
  | .nothing => "null".toList
  | .flag value => (if value then "true" else "false").toList
  | .number value => Text.numeral 10 value
  | .text value => quoted value
  | .list items => '[' :: joinCompact (compactItems items) ++ [']']
  | .record members => '\x7b' :: joinCompact (compactMembers members) ++ ['\x7d']

def compactItems : List Outline → List (List Char)
  | [] => []
  | item :: rest => compact item :: compactItems rest

def compactMembers : List (String × Outline) → List (List Char)
  | [] => []
  | (key, value) :: rest =>
      (quoted key ++ ':' :: compact value) :: compactMembers rest

end

end JsonText

/-- The JSON text of an outline, without a line break at its end. -/
def toJson (outline : Outline) : String :=
  String.ofList (JsonText.chars 0 outline)

/-- The JSON text of an outline on one line. -/
def toCompactJson (outline : Outline) : String :=
  String.ofList (JsonText.compact outline)

end MethodCodec.Outline
