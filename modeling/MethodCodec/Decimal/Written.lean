import MethodCodec.Decimal.Shortest

/-!
Decimals as they are written, and which of them are in the range of doubles.
-/

namespace MethodCodec.Decimal

/-- Reads digits behind an exponent mark, which may have a sign. -/
def readExponent? : List Char → Option Int
  | '-' :: digits => (Text.readNumeral? 10 digits).map fun number => -(number : Int)
  | '+' :: digits => (Text.readNumeral? 10 digits).map Int.ofNat
  | digits => (Text.readNumeral? 10 digits).map Int.ofNat

/-- Reads a decimal without sign. There has to be a digit before or behind the
point, if there is one, and the mark of an exponent may be in either case. -/
def Digits.read? (text : List Char) : Option Digits :=
  let whole := text.takeWhile Char.isDigit
  let behind := text.dropWhile Char.isDigit
  let (fraction, rest) :=
    match behind with
    | '.' :: rest => (rest.takeWhile Char.isDigit, rest.dropWhile Char.isDigit)
    | rest => ([], rest)
  match Text.readNumeral? 10 (whole ++ fraction) with
  | none => none
  | some number =>
      match rest with
      | [] => some ⟨number, -fraction.length⟩
      | mark :: exponentText =>
          if mark = 'e' ∨ mark = 'E' then
            (readExponent? exponentText).map fun exponent =>
              ⟨number, exponent - fraction.length⟩
          else
            none

/-- The least number that no finite double stands for: half a unit past the
greatest of them. -/
def leastOverflow : Nat := Nat.pow 2 1024 - Nat.pow 2 970

/-- Whether a decimal rounds to a finite double. Its size is told by its first
place except near the end of the range. -/
def Digits.isFinite (digits : Digits) : Bool :=
  let place : Int := digits.unit + Fraction.digitCount digits.number
  if digits.number = 0 ∨ place ≤ 308 then true
  else if 309 < place then false
  else if 0 ≤ digits.unit then digits.number * Nat.pow 10 digits.unit.toNat < leastOverflow
  else digits.number < leastOverflow * Nat.pow 10 (-digits.unit).toNat

end MethodCodec.Decimal
