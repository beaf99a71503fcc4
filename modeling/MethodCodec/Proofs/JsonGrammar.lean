import Mathlib
import MethodCodec.Text.Numeral

/-!
# The grammar of JSON texts

JSON texts as they are written, with nothing said of how they are read.  A text
that is to be read as a string spells every character of it; a string that is
only passed over may hold halves of surrogate pairs.
-/

namespace MethodCodec.Json.Grammar

/-! ## White space -/

def Blank (text : List Char) : Prop :=
  ∀ c ∈ text, c ∈ [' ', '\n', '\t', '\r']

/-- A text with white space around it. -/
def Padded (inner text : List Char) : Prop :=
  ∃ before after, Blank before ∧ Blank after ∧ text = before ++ inner ++ after

@[simp]
theorem padded_self (text : List Char) : Padded text text :=
  ⟨[], [], List.forall_mem_nil _, List.forall_mem_nil _, by simp⟩

/-! ## Strings -/

/-- A hexadecimal digit in either case. -/
def HexDigit (c : Char) (value : Nat) : Prop :=
  value < 16 ∧ (c = Nat.digitChar value ∨ c = (Nat.digitChar value).toUpper)

/-- Four digits for a code. -/
inductive HexCode : List Char → Nat → Prop
  | digits {a b c d : Char} {high upper lower low : Nat}
      (first : HexDigit a high) (second : HexDigit b upper)
      (third : HexDigit c lower) (fourth : HexDigit d low) :
      HexCode [a, b, c, d] (((high * 16 + upper) * 16 + lower) * 16 + low)

/-- Letters behind a backslash with the characters that they stand for. -/
def letterEscapes : List (Char × Char) :=
  [('"', '"'), ('\\', '\\'), ('/', '/'), ('b', '\x08'), ('f', '\x0c'),
    ('n', '\n'), ('r', '\r'), ('t', '\t')]

/-- A character that may stand for itself. -/
def Unescaped (c : Char) : Prop :=
  0x20 ≤ c.toNat ∧ c ≠ '"' ∧ c ≠ '\\'

/-- The ways to write a character between quotes. -/
inductive CharText (c : Char) : List Char → Prop
  | unescaped (itself : Unescaped c) : CharText c [c]
  | letter {letter : Char} (listed : (letter, c) ∈ letterEscapes) :
      CharText c ['\\', letter]
  | code {digits : List Char} (coded : HexCode digits c.toNat) :
      CharText c ('\\' :: 'u' :: digits)
  | pair {leadDigits trailDigits : List Char} {lead trail : Nat}
      (leading : HexCode leadDigits lead) (trailing : HexCode trailDigits trail)
      (isLead : 0xD800 ≤ lead ∧ lead ≤ 0xDBFF)
      (isTrail : 0xDC00 ≤ trail ∧ trail ≤ 0xDFFF)
      (joined : c.toNat = 0x10000 + (lead - 0xD800) * 0x400 + (trail - 0xDC00)) :
      CharText c ('\\' :: 'u' :: leadDigits ++ '\\' :: 'u' :: trailDigits)

/-- The texts of a string. -/
def StringText (value : String) (text : List Char) : Prop :=
  ∃ pieces,
    List.Forall₂ CharText value.toList pieces ∧
      text = '"' :: pieces.flatten ++ ['"']

/-- What may stand between quotes, whether or not it spells a character. -/
inductive Piece : List Char → Prop
  | unescaped {c : Char} (itself : Unescaped c) : Piece [c]
  | letter {letter c : Char} (listed : (letter, c) ∈ letterEscapes) :
      Piece ['\\', letter]
  | code {digits : List Char} {code : Nat} (coded : HexCode digits code) :
      Piece ('\\' :: 'u' :: digits)

def AnyString (text : List Char) : Prop :=
  ∃ pieces : List (List Char),
    (∀ piece ∈ pieces, Piece piece) ∧ text = '"' :: pieces.flatten ++ ['"']

/-! ## Numbers -/

def Digits (text : List Char) : Prop :=
  text ≠ [] ∧ ∀ c ∈ text, c.isDigit = true

/-- The whole part of a number begins with a zero only if it is one. -/
def WholePart (text : List Char) : Prop :=
  text = ['0'] ∨ Digits text ∧ text.head? ≠ some '0'

def FractionPart (text : List Char) : Prop :=
  text = [] ∨ ∃ digits, Digits digits ∧ text = '.' :: digits

def ExponentPart (text : List Char) : Prop :=
  text = [] ∨ ∃ letter ∈ ['e', 'E'], ∃ sign ∈ [[], ['+'], ['-']], ∃ digits,
    Digits digits ∧ text = letter :: sign ++ digits

def AnyNumber (text : List Char) : Prop :=
  ∃ sign ∈ [[], ['-']], ∃ whole fraction exponent,
    WholePart whole ∧ FractionPart fraction ∧ ExponentPart exponent ∧
      text = sign ++ whole ++ fraction ++ exponent

/-- The text of a natural number, which has no other. -/
def NaturalText (value : Nat) (text : List Char) : Prop :=
  text = Text.numeral 10 value

/-! ## Words -/

def nullText : List Char := "null".toList

def flagText (value : Bool) : List Char :=
  (if value then "true" else "false").toList

/-! ## Containers -/

/-- Items with white space around each and a comma between each two. -/
inductive Separated : List (List Char) → List Char → Prop
  | single {item text : List Char} (padded : Padded item text) :
      Separated [item] text
  | cons {item text : List Char} {items : List (List Char)} {rest : List Char}
      (padded : Padded item text) (others : Separated items rest) :
      Separated (item :: items) (text ++ ',' :: rest)

/-- Items between two marks, or white space if there are none. -/
inductive Enclosed (opening closing : Char) : List (List Char) → List Char → Prop
  | empty {text : List Char} (blank : Blank text) :
      Enclosed opening closing [] (opening :: text ++ [closing])
  | filled {items : List (List Char)} {text : List Char}
      (separated : Separated items text) :
      Enclosed opening closing items (opening :: text ++ [closing])

/-- The texts of an array, given those of its items. -/
def ArrayText : List (List Char) → List Char → Prop :=
  Enclosed '[' ']'

/-- A member of an object: a key and a value with a colon between. -/
def MemberText (member : List Char × List Char) (text : List Char) : Prop :=
  ∃ before after, Blank before ∧ Blank after ∧
    text = member.1 ++ before ++ ':' :: after ++ member.2

theorem memberText_append (key value : List Char) {after : List Char}
    (blank : Blank after) : MemberText (key, value) (key ++ ':' :: (after ++ value)) :=
  ⟨[], after, List.forall_mem_nil _, blank, by simp⟩

/-- The texts of an object, given those of its keys and values. -/
def ObjectText (members : List (List Char × List Char)) (text : List Char) : Prop :=
  ∃ pieces, List.Forall₂ MemberText members pieces ∧
    Enclosed '\x7b' '\x7d' pieces text

/-- Any JSON value. -/
inductive AnyValue : List Char → Prop
  | null : AnyValue nullText
  | flag (value : Bool) : AnyValue (flagText value)
  | number {text : List Char} (number : AnyNumber text) : AnyValue text
  | string {text : List Char} (string : AnyString text) : AnyValue text
  | array {items : List (List Char)} {text : List Char}
      (values : ∀ item ∈ items, AnyValue item) (written : ArrayText items text) :
      AnyValue text
  | object {members : List (List Char × List Char)} {text : List Char}
      (keys : ∀ member ∈ members, AnyString member.1)
      (values : ∀ member ∈ members, AnyValue member.2)
      (written : ObjectText members text) :
      AnyValue text

end MethodCodec.Json.Grammar
