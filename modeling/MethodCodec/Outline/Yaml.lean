import MethodCodec.Outline.Basic
import MethodCodec.Text.Utf8
import MethodCodec.Yaml.Cursor
import MethodCodec.Yaml.PlainWord

/-!
Outlines as YAML texts. A text is written in the lightest style in which it reads
back as the same text: plain, between single quotes, as lines of its own, or
between double quotes with escapes.
-/

namespace MethodCodec.Outline

namespace YamlText

open Yaml (isBreak isBlankSpace)

/-! ## What a text holds -/

/-- The characters that can be written as they are. -/
def isPrintable (c : Char) : Bool :=
  let code := c.toNat
  code == 0x0A || (0x20 ≤ code && code ≤ 0x7E) || (0xA0 ≤ code && code ≤ 0xD7FF)
    || (0xE000 ≤ code && code ≤ 0xFFFD && code != 0xFEFF)

/-- Whether two characters that stand side by side are such as asked for. -/
def hasAdjacent (asked : Char → Char → Bool) : List Char → Bool
  | first :: second :: rest => asked first second || hasAdjacent asked (second :: rest)
  | _ => false

/-- White space or a line break. -/
def isGap (c : Char) : Bool :=
  isBlankSpace c || isBreak c

/-- Whether a text goes on with white space or ends. -/
def beginsWithGap : List Char → Bool
  | [] => true
  | c :: _ => isGap c

/-- The characters that mean something else at the start of a scalar. -/
def isOpeningIndicator (c : Char) : Bool :=
  ['#', ',', '[', ']', '\x7b', '\x7d', '&', '*', '!', '|', '>', '\'', '"', '%', '@',
    '`'].contains c

/-- Whether the start of a text means something else: a marker of documents, an
indicator, or a mark of a key, value or item with white space behind it. -/
def opensOtherwise : List Char → Bool
  | [] => false
  | c :: rest =>
      (c :: rest).take 3 == ['-', '-', '-'] || (c :: rest).take 3 == ['.', '.', '.']
        || isOpeningIndicator c
        || ((c == '?' || c == ':' || c == '-') && beginsWithGap rest)

/-- Whether a colon that ends a word, or a hash that begins one, is behind the
first character. -/
def holdsMark (text : List Char) : Bool :=
  hasAdjacent (fun first second => isGap first && second == '#') text
    || hasAdjacent (fun first second => first == ':' && isGap second) (text.drop 1)
    || (text.drop 1).getLast? == some ':'

/-- Whether a text takes several lines. -/
def isMultiline (text : List Char) : Bool :=
  text.any isBreak

/-- A space or a line break, but not a tab. -/
def isSpaceOrBreak (c : Char) : Bool :=
  c == ' ' || isBreak c

/-- Whether only escapes can write a text: it holds a character that cannot be
written as it is, or a space in front of a line break. -/
def needsEscapes (text : List Char) : Bool :=
  !text.all isPrintable || hasAdjacent (fun first second => first == ' ' && isBreak second) text

/-! ## Choosing a style -/

/-- How a text is written. -/
inductive Style
  | plain
  | single
  | literal
  | double
  deriving DecidableEq

/-- Whether a text can be plain. White space at its ends would be lost. -/
def allowsPlain (text : List Char) : Bool :=
  !(opensOtherwise text || holdsMark text || isMultiline text || needsEscapes text
    || text.head?.any (· == ' ') || text.getLast?.any (· == ' '))

/-- Whether a text can stand between single quotes. A space behind a line break would
be lost. -/
def allowsSingle (text : List Char) : Bool :=
  !(needsEscapes text || hasAdjacent (fun first second => isBreak first && second == ' ') text)

/-- Whether a text can be literal. A space at its end would not be seen. -/
def allowsLiteral (text : List Char) : Bool :=
  !(needsEscapes text || text.getLast?.any (· == ' '))

/-- The style of a text. One with line feeds is literal if it can be; one that
would be taken for something else than text is quoted. -/
def styleOf (text : List Char) : Style :=
  if text.contains '\n' then
    if allowsLiteral text then .literal else .double
  else if !Yaml.PlainWord.isAmbiguous text && allowsPlain text then .plain
  else if allowsSingle text then .single
  else .double

/-! ## Writing a text -/

/-- The start of a line, `width` columns in. -/
def indentation (width : Nat) : List Char :=
  List.replicate width ' '

/-- Characters with indentation at the start of each line but the empty ones;
`starts` says whether a line starts here. -/
def indentLines (width : Nat) (starts : Bool) : List Char → List Char
  | [] => []
  | c :: rest =>
      if isBreak c then c :: indentLines width true rest
      else (if starts then indentation width else []) ++ c :: indentLines width false rest

/-- Single quotes are doubled inside single quotes. -/
def singleQuoted (width : Nat) (text : List Char) : List Char :=
  let doubled := text.flatMap fun c => if c = '\'' then ['\'', '\''] else [c]
  let closing := if text.getLast?.any isBreak then indentation width else []
  '\'' :: indentLines width false doubled ++ closing ++ ['\'']

/-- The marks of a literal scalar: two for its indentation if its first line
does not show it, and what to do about the line breaks at its end. -/
def literalMarks (text : List Char) : List Char :=
  let indent := if text.head?.any isSpaceOrBreak then ['2'] else []
  let chomping :=
    match text.reverse with
    | [] => ['-']
    | last :: before =>
        if !isBreak last then ['-']
        else
          match before with
          | [] => ['+']
          | c :: _ => if isBreak c then ['+'] else []
  '|' :: indent ++ chomping

/-- The letter that stands for a character behind a backslash. -/
def escapeLetter? : Char → Option Char
  | '\x00' => some '0'
  | '\x07' => some 'a'
  | '\x08' => some 'b'
  | '\t' => some 't'
  | '\n' => some 'n'
  | '\x0b' => some 'v'
  | '\x0c' => some 'f'
  | '\r' => some 'r'
  | '\x1b' => some 'e'
  | '"' => some '"'
  | '\\' => some '\\'
  | '\u0085' => some 'N'
  | '\u2028' => some 'L'
  | '\u2029' => some 'P'
  | _ => none

/-- A number as `count` upper-case hexadecimal digits. -/
def hexDigits : Nat → Nat → List Char
  | 0, _ => []
  | count + 1, code =>
      (Nat.digitChar (code / Nat.pow 16 count % 16)).toUpper :: hexDigits count code

/-- A character between double quotes. -/
def escapeChar (c : Char) : List Char :=
  match escapeLetter? c with
  | some letter => ['\\', letter]
  | none =>
      if isPrintable c then [c]
      else if c.toNat ≤ 0xFF then '\\' :: 'x' :: hexDigits 2 c.toNat
      else if c.toNat ≤ 0xFFFF then '\\' :: 'u' :: hexDigits 4 c.toNat
      else '\\' :: 'U' :: hexDigits 8 c.toNat

/-- A text between double quotes. -/
def doubleQuoted (text : List Char) : List Char :=
  '"' :: text.flatMap escapeChar ++ ['"']

/-- A text with the line break behind it, inside a block of the given
indentation. The lines of the text are two columns further in. -/
def textLine (width : Nat) (text : List Char) : List Char :=
  match styleOf text with
  | .plain => text ++ ['\n']
  | .single => singleQuoted (width + 2) text ++ ['\n']
  | .double => doubleQuoted text ++ ['\n']
  | .literal =>
      literalMarks text ++ '\n' :: indentLines (width + 2) true text
        ++ (if text.getLast?.any isBreak then [] else ['\n'])

/-! ## Writing an outline -/

/-- The longest key, in bytes, that is written before its colon on one line. -/
def longestKey : Nat := 128

/-- Entries of a block with indentation before each but the first. -/
def joinEntries (width : Nat) : List (List Char) → List Char
  | [] => []
  | [entry] => entry
  | entry :: rest => entry ++ indentation width ++ joinEntries width rest

/-- Entries of a block on lines of their own. -/
def blockLines (width : Nat) (entries : List (List Char)) : List Char :=
  '\n' :: indentation width ++ joinEntries width entries

/-- Entries of a block that begins behind a mark and a space on a line. -/
def compactLines (width : Nat) (entries : List (List Char)) : List Char :=
  ' ' :: joinEntries width entries

mutual

/-- What stands behind the mark of an item, inside a block of the given
indentation. -/
def afterMark (width : Nat) : Outline → List Char
  | .nothing => " null\n".toList
  | .flag value => (if value then " true\n" else " false\n").toList
  | .number value => ' ' :: Text.numeral 10 value ++ ['\n']
  | .text value => ' ' :: textLine width value.toList
  | .list [] => " []\n".toList
  | .list (item :: items) => compactLines (width + 2) (itemEntries (width + 2) (item :: items))
  | .record [] => " \x7b\x7d\n".toList
  | .record (member :: members) =>
      compactLines (width + 2) (memberEntries (width + 2) (member :: members))

/-- What stands behind a key and its colon. A list has its marks at the
indentation of the key. -/
def afterKey (width : Nat) : Outline → List Char
  | .nothing => " null\n".toList
  | .flag value => (if value then " true\n" else " false\n").toList
  | .number value => ' ' :: Text.numeral 10 value ++ ['\n']
  | .text value => ' ' :: textLine width value.toList
  | .list [] => " []\n".toList
  | .list (item :: items) => blockLines width (itemEntries width (item :: items))
  | .record [] => " \x7b\x7d\n".toList
  | .record (member :: members) =>
      blockLines (width + 2) (memberEntries (width + 2) (member :: members))

/-- Each item with its mark. -/
def itemEntries (width : Nat) : List Outline → List (List Char)
  | [] => []
  | item :: rest => ('-' :: afterMark width item) :: itemEntries width rest

/-- Each member with its key. A key that is long or takes several lines has a
mark and lines of its own. -/
def memberEntries (width : Nat) : List (String × Outline) → List (List Char)
  | [] => []
  | (key, value) :: rest =>
      let text := key.toList
      let entry :=
        if isMultiline text || longestKey < key.utf8ByteSize then
          '?' :: ' ' :: textLine width text ++ indentation width ++ ':' :: afterMark width value
        else
          (textLine width text).dropLast ++ ':' :: afterKey width value
      entry :: memberEntries width rest

end

/-- The lines of a whole outline. -/
def chars : Outline → List Char
  | .list (item :: items) => joinEntries 0 (itemEntries 0 (item :: items))
  | .record (member :: members) => joinEntries 0 (memberEntries 0 (member :: members))
  | outline => (afterKey 0 outline).drop 1

end YamlText

/-- The YAML text of an outline, with a line break at its end. -/
def toYaml (outline : Outline) : String :=
  String.ofList (YamlText.chars outline)

end MethodCodec.Outline
