import MethodCodec.Decimal.Shortest

/-!
Numbers of a JSON text. Whole numbers that fit sixty-four bits are exact; all
others are doubles, computed from at most sixty-four bits of digits and one
multiplication or division by a power of ten.
-/

namespace MethodCodec.Json

/-- The value of a number. -/
inductive Number
  | natural (value : Nat)
  /-- Minus `value`. -/
  | negative (value : Nat)
  | real (value : Float)

/-- The parts of a number as written. -/
structure Numeral where
  negative : Bool
  whole : List Nat
  fraction : Option (List Nat)
  /-- Whether the exponent is below zero, and its digits. -/
  exponent : Option (Bool × List Nat)

namespace Numeral

/-- Takes up digits while the number stays within `limit`; gives the number and
how many digits were taken. -/
def takeDigits (limit : Nat) (number taken : Nat) : List Nat → Nat × Nat
  | [] => (number, taken)
  | digit :: rest =>
      if number * 10 + digit ≤ limit then takeDigits limit (number * 10 + digit) (taken + 1) rest
      else (number, taken)

/-- The greatest number of sixty-four bits. -/
def greatestWord : Nat := Nat.pow 2 64 - 1

/-- The greatest exponent that is told apart from larger ones. -/
def greatestExponent : Nat := Nat.pow 2 31 - 1

/-- A power of ten as a double. -/
def powerOfTen (exponent : Nat) : Float :=
  Float.ofScientific 1 false exponent

/-- Multiplies or divides by a power of ten. Powers past the greatest double
are divided by in steps; `none` if the product is past it. -/
def scale (number : Float) (exponent : Int) : Nat → Option Float
  | 0 => some number
  | steps + 1 =>
      if exponent.natAbs ≤ 308 then
        if 0 ≤ exponent then
          let product := number * powerOfTen exponent.natAbs
          if product.isInf then none else some product
        else
          some (number / powerOfTen exponent.natAbs)
      else if number == 0 then
        some number
      else if 0 ≤ exponent then
        none
      else
        scale (number / powerOfTen 308) (exponent + 308) steps

/-- The double with the given digits and exponent. Four steps reach zero from
any sixty-four bits. -/
def real? (negative : Bool) (digits : Nat) (exponent : Int) : Option Number :=
  (scale (UInt64.ofNat digits).toFloat exponent 4).map fun value =>
    .real (if negative then -value else value)

/-- The number without fraction and exponent. -/
def ofWhole (negative : Bool) (digits : Nat) : Number :=
  if !negative then .natural digits
  else if digits = 0 ∨ Nat.pow 2 63 < digits then .real (-(UInt64.ofNat digits).toFloat)
  else .negative digits

/-- The value of a number as written, if it is in the range of doubles. Digits
that do not fit sixty-four bits are left out; those of the whole part still
count for the exponent. -/
def value? (numeral : Numeral) : Option Number :=
  let (whole, wholeTaken) := takeDigits greatestWord 0 0 numeral.whole
  let leftOut := numeral.whole.length - wholeTaken
  let (digits, taken) := takeDigits greatestWord whole 0 (numeral.fraction.getD [])
  let shift : Int := leftOut - taken
  match numeral.exponent with
  | some (below, exponentDigits) =>
      let (exponent, exponentTaken) := takeDigits greatestExponent 0 0 exponentDigits
      if exponentTaken < exponentDigits.length then
        if digits ≠ 0 ∧ !below then none
        else some (.real (if numeral.negative then -0.0 else 0.0))
      else
        real? numeral.negative digits (if below then shift - exponent else shift + exponent)
  | none =>
      if leftOut = 0 ∧ numeral.fraction.isNone then
        some (ofWhole numeral.negative digits)
      else
        real? numeral.negative digits shift

end Numeral

/-- Doubles have an exponent from the seventeenth whole digit and the sixth
zero behind the point on, with two digits at least. -/
def realLayout : Decimal.Layout := ⟨-5, 15, 2⟩

end MethodCodec.Json
