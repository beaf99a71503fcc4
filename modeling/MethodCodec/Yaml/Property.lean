import MethodCodec.Text.Numeral
import MethodCodec.Text.Utf8
import MethodCodec.Yaml.Cursor
import MethodCodec.Yaml.Token

/-!
Anchors, aliases, tags and directives.
-/

namespace MethodCodec.Yaml

/-! ## Anchors -/

/-- The characters other than white space that may follow an anchor. -/
def isAnchorEnd (c : Char) : Bool :=
  ['?', ':', ',', ']', '\x7d', '%', '@', '`'].contains c

/-- Reads the name of an anchor or alias from its indicator. -/
def scanAnchorName (cursor : Cursor) : Option (List Char × Cursor) :=
  match (cursor.skip 1).readWhile isWordChar with
  | (name, cursor) =>
      if name.isEmpty then none
      else if endsWord cursor.rest || cursor.rest.head?.any isAnchorEnd then some (name, cursor)
      else none

/-! ## Tags -/

/-- The characters of a tag. Between angle brackets some flow indicators count
among them. -/
def isTagChar (verbatim : Bool) (c : Char) : Bool :=
  isWordChar c
    || [';', '/', '?', ':', '@', '&', '=', '+', '$', '.', '%', '!', '~', '*', '\'', '(',
      ')'].contains c
    || (verbatim && [',', '[', ']'].contains c)

/-- Reads the byte of a percent escape. -/
def readPercentByte : List Char → Option (UInt8 × List Char)
  | '%' :: high :: low :: rest =>
      match Text.digitValue? 16 high, Text.digitValue? 16 low with
      | some highValue, some lowValue => some (UInt8.ofNat (16 * highValue + lowValue), rest)
      | _, _ => none
  | _ => none

/-- The number of bytes of a character by its first byte. -/
def leadWidth? (byte : UInt8) : Option Nat :=
  if byte < 0x80 then some 1
  else if 0xC0 ≤ byte && byte < 0xE0 then some 2
  else if 0xE0 ≤ byte && byte < 0xF0 then some 3
  else if 0xF0 ≤ byte && byte < 0xF8 then some 4
  else none

/-- Reads the bytes that go on a character. -/
def readPercentTail : Nat → List Char → Option (List UInt8 × List Char)
  | 0, input => some ([], input)
  | count + 1, input =>
      match readPercentByte input with
      | none => none
      | some (byte, rest) =>
          if Utf8.isContinuation byte then
            (readPercentTail count rest).map fun (bytes, rest) => (byte :: bytes, rest)
          else none

/-- Reads a character written in percent escapes, of which each byte takes
three characters. -/
def readPercentChar (input : List Char) : Option (List Char × Nat) :=
  match readPercentByte input with
  | none => none
  | some (byte, rest) =>
      match leadWidth? byte with
      | none => none
      | some width =>
          (readPercentTail (width - 1) rest).map fun (bytes, _) =>
            (Utf8.decodeLossy (byte :: bytes), 3 * width)

/-- Reads the characters of a tag on. -/
def scanTagChars (verbatim : Bool) : Nat → List Char → Cursor → Option (List Char × Cursor)
  | 0, text, cursor => some (text, cursor)
  | budget + 1, text, cursor =>
      match cursor.rest with
      | c :: _ =>
          if c = '%' then
            match readPercentChar cursor.rest with
            | some (decoded, width) =>
                scanTagChars verbatim budget (text ++ decoded) (cursor.skip width)
            | none => none
          else if isTagChar verbatim c then
            scanTagChars verbatim budget (text ++ [c]) (cursor.skip 1)
          else
            some (text, cursor)
      | [] => some (text, cursor)

/-- Reads the characters of a tag behind those that are known already. -/
def scanTagText (verbatim : Bool) (known : List Char) (cursor : Cursor) :
    Option (List Char × Cursor) :=
  scanTagChars verbatim cursor.rest.length known cursor

/-- Reads the characters of a tag, of which there has to be one. -/
def scanTagText? (verbatim : Bool) (cursor : Cursor) : Option (List Char × Cursor) :=
  match scanTagText verbatim [] cursor with
  | some (text, behind) => if behind.index = cursor.index then none else some (text, behind)
  | none => none

/-- Reads an exclamation mark, a word, and the exclamation mark behind it, if
there is one. -/
def scanHandle (cursor : Cursor) : Option (List Char × Cursor) :=
  match cursor.rest with
  | '!' :: _ =>
      match (cursor.skip 1).readWhile isWordChar with
      | (word, cursor) =>
          match cursor.rest with
          | '!' :: _ => some ('!' :: word ++ ['!'], cursor.skip 1)
          | _ => some ('!' :: word, cursor)
  | _ => none

/-- Reads handle and suffix of a tag. -/
def scanTagParts (cursor : Cursor) : Option ((List Char × List Char) × Cursor) :=
  match cursor.rest with
  | _ :: '<' :: _ =>
      match scanTagText? true (cursor.skip 2) with
      | some (suffix, cursor) =>
          match cursor.rest with
          | '>' :: _ => some (([], suffix), cursor.skip 1)
          | _ => none
      | none => none
  | _ =>
      match scanHandle cursor with
      | none => none
      | some (handle, cursor) =>
          if 2 ≤ handle.length ∧ handle.getLast? = some '!' then
            (scanTagText? false cursor).map fun (suffix, cursor) => ((handle, suffix), cursor)
          else
            match scanTagText false (handle.drop 1) cursor with
            | some ([], cursor) => some (([], ['!']), cursor)
            | some (suffix, cursor) => some ((['!'], suffix), cursor)
            | none => none

/-- Reads a tag from its indicator. -/
def scanTag (flow : Bool) (cursor : Cursor) : Option (Token × Cursor) :=
  match scanTagParts cursor with
  | some ((handle, suffix), cursor) =>
      if endsWord cursor.rest || (flow && cursor.rest.head? == some ',') then
        some (.tag handle suffix, cursor)
      else none
  | none => none

/-! ## Directives -/

/-- Reads a number of at most nine digits. -/
def scanVersionNumber (cursor : Cursor) : Option (Nat × Cursor) :=
  match cursor.readWhile Char.isDigit with
  | (digits, cursor) =>
      if 9 < digits.length then none
      else (Text.readNumeral? 10 digits).map fun number => (number, cursor)

/-- Reads the two numbers of a version. -/
def scanVersion (cursor : Cursor) : Option (Token × Cursor) :=
  match scanVersionNumber (cursor.skipWhile isBlankSpace) with
  | some (major, cursor) =>
      match cursor.rest with
      | '.' :: _ =>
          (scanVersionNumber (cursor.skip 1)).map fun (minor, cursor) =>
            (.versionDirective major minor, cursor)
      | _ => none
  | none => none

/-- Whether a word in exclamation marks, or a single one, is the handle of a
directive. -/
def isHandle (handle : List Char) : Bool :=
  handle == ['!'] || handle.getLast? == some '!'

/-- Reads the handle of a tag directive and what it stands for. -/
def scanTagDefinition (cursor : Cursor) : Option (Token × Cursor) :=
  match scanHandle (cursor.skipWhile isBlankSpace) with
  | some (handle, cursor) =>
      if isHandle handle && cursor.rest.head?.any isBlankSpace then
        match scanTagText? true (cursor.skipWhile isBlankSpace) with
        | some (front, cursor) =>
            if endsWord cursor.rest then some (.tagDirective handle front, cursor) else none
        | none => none
      else none
  | none => none

/-- Reads a directive from its indicator to the end of its line. -/
def scanDirective (cursor : Cursor) : Option (Token × Cursor) :=
  match (cursor.skip 1).readWhile isWordChar with
  | (name, cursor) =>
      if endsWord cursor.rest then
        let body :=
          if name = ['Y', 'A', 'M', 'L'] then scanVersion cursor
          else if name = ['T', 'A', 'G'] then scanTagDefinition cursor
          else none
        match body with
        | some (token, cursor) => cursor.skipLineEnd?.map fun cursor => (token, cursor)
        | none => none
      else none

end MethodCodec.Yaml
