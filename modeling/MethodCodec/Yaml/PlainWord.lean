import MethodCodec.Decimal.Written

/-!
What words stand for when they are written as plain scalars: nothing, a flag, a
number, or the word itself.
-/

namespace MethodCodec.Yaml.PlainWord

/-- The words for nothing. -/
def isNull (word : List Char) : Bool :=
  ["~", "null", "Null", "NULL"].contains (String.ofList word)

/-- The words for flags. -/
def readFlag? (word : List Char) : Option Bool :=
  if ["true", "True", "TRUE"].contains (String.ofList word) then some true
  else if ["false", "False", "FALSE"].contains (String.ofList word) then some false
  else none

/-! ## Numbers -/

/-- A word without the sign that it may begin with. -/
def withoutSign : List Char → List Char
  | '+' :: rest => rest
  | '-' :: rest => rest
  | word => word

/-- Whether a word is digits that begin with a zero too many. Such a word is no
number. -/
def isPadded (word : List Char) : Bool :=
  match withoutSign word with
  | '0' :: second :: rest => (second :: rest).all Char.isDigit
  | _ => false

/-- The base that a word without sign names, and the digits behind it. -/
def basedDigits? : List Char → Option (Nat × List Char)
  | '0' :: 'x' :: digits => some (16, digits)
  | '0' :: 'o' :: digits => some (8, digits)
  | '0' :: 'b' :: digits => some (2, digits)
  | _ => none

/-- Reads a whole number in a base that the word names. -/
def readBased? (word : List Char) : Option Nat :=
  (basedDigits? word).bind fun (base, digits) => Text.readNumeral? base digits

/-- A word without the plus sign that it may begin with. -/
def withoutPlus : List Char → List Char
  | '+' :: rest => rest
  | word => word

/-- Reads a whole number from zero on. -/
def readNatural? (word : List Char) : Option Nat :=
  match readBased? (withoutPlus word) with
  | some number => some number
  | none => if isPadded word then none else Text.readNumeral? 10 (withoutPlus word)

/-- Whether a word is a whole number in a base that it names and fits one
hundred and twenty-eight bits. -/
def isBased : List Char → Bool
  | '-' :: rest => (readBased? rest).any fun number => number ≤ Nat.pow 2 127
  | word => (readBased? (withoutPlus word)).any fun number => number < Nat.pow 2 128

/-- Whether a word is a decimal in the range of doubles, or one of the words for
what lies outside it. -/
def isDecimal (word : List Char) : Bool :=
  ((Decimal.Digits.read? (withoutSign word)).any fun digits => digits.isFinite)
    || [".inf", ".Inf", ".INF"].contains (String.ofList (withoutSign word))
    || [".nan", ".NaN", ".NAN"].contains (String.ofList word)

/-- Whether a word would be taken for something else than text, or nearly so. -/
def isAmbiguous (word : List Char) : Bool :=
  word.isEmpty || isNull word || (readFlag? word).isSome || isPadded word || isBased word
    || isDecimal word

end MethodCodec.Yaml.PlainWord
