import MethodCodec.Text.Numeral

/-!
The shortest decimal that reads back as a given binary number. A binary number
`m * 2 ^ q` is what all reals of an interval around it round to; of the decimals
with the fewest digits in that interval the nearest one is taken.
-/

namespace MethodCodec.Decimal

/-- A positive fraction. -/
structure Fraction where
  numerator : Nat
  denominator : Nat

namespace Fraction

/-- `number * 2 ^ exponent`. -/
def scaledByTwo (number : Nat) (exponent : Int) : Fraction :=
  if 0 ≤ exponent then ⟨number * Nat.pow 2 exponent.toNat, 1⟩
  else ⟨number, Nat.pow 2 (-exponent).toNat⟩

/-- The fraction in units of `10 ^ exponent`. -/
def inUnits (fraction : Fraction) (exponent : Int) : Fraction :=
  if 0 ≤ exponent then
    ⟨fraction.numerator, fraction.denominator * Nat.pow 10 exponent.toNat⟩
  else
    ⟨fraction.numerator * Nat.pow 10 (-exponent).toNat, fraction.denominator⟩

def floor (fraction : Fraction) : Nat :=
  fraction.numerator / fraction.denominator

/-- How the fraction compares to a whole number. -/
def compareTo (fraction : Fraction) (number : Nat) : Ordering :=
  compare fraction.numerator (number * fraction.denominator)

/-- The number of digits of a positive number. -/
def digitCount (number : Nat) : Nat :=
  (Text.numeral 10 number).length

/-- The place of the first significant digit: the largest `e` for which
`10 ^ e` is not above the fraction. -/
def leadingPlace (fraction : Fraction) : Int :=
  let place : Int := digitCount fraction.numerator - digitCount fraction.denominator
  match (fraction.inUnits place).compareTo 1 with
  | .lt => place - 1
  | _ => place

end Fraction

/-- A positive binary number with the interval of reals that round to it. -/
structure Rounded where
  value : Fraction
  low : Fraction
  high : Fraction
  /-- Whether the ends of the interval round to the number too. -/
  closed : Bool

/-- The interval of a double with a given significand and exponent of two. The
numbers below a power of two lie twice as close as those above. -/
def Rounded.ofParts (significand : Nat) (exponent : Int) : Rounded where
  value := .scaledByTwo significand exponent
  low :=
    if significand = Nat.pow 2 52 ∧ -1074 < exponent then
      .scaledByTwo (4 * significand - 1) (exponent - 2)
    else
      .scaledByTwo (2 * significand - 1) (exponent - 1)
  high := .scaledByTwo (2 * significand + 1) (exponent - 1)
  closed := significand % 2 = 0

/-- Digits of a positive decimal, read as a whole number, and the power of ten
that they count. -/
structure Digits where
  number : Nat
  unit : Int

/-- Whether a multiple of `10 ^ unit` rounds to the number. -/
def Rounded.holds (rounded : Rounded) (candidate : Digits) : Bool :=
  let low := (rounded.low.inUnits candidate.unit).compareTo candidate.number
  let high := (rounded.high.inUnits candidate.unit).compareTo candidate.number
  (low == .lt || (rounded.closed && low == .eq))
    && (high == .gt || (rounded.closed && high == .eq))

/-- The decimal with a given number of digits that rounds to the number and is
nearest to it, if there is one. Only the two neighbours of the number among
such decimals can be; of two equally near ones the even is taken. -/
def Rounded.withDigits? (rounded : Rounded) (count : Nat) : Option Digits :=
  let unit := rounded.value.leadingPlace - count + 1
  let scaled := rounded.value.inUnits unit
  let below : Digits := ⟨scaled.floor, unit⟩
  let above : Digits := ⟨scaled.floor + 1, unit⟩
  match rounded.holds below, rounded.holds above with
  | true, false => some below
  | false, true => some above
  | false, false => none
  | true, true =>
      let doubled : Fraction := ⟨2 * scaled.numerator, scaled.denominator⟩
      match doubled.compareTo (2 * scaled.floor + 1) with
      | .lt => some below
      | .gt => some above
      | .eq => some (if scaled.floor % 2 = 0 then below else above)

/-- The first hit among digit counts from `17 - left` up to seventeen, which
always suffice. -/
def Rounded.searchDigits (rounded : Rounded) : Nat → Digits
  | 0 => (rounded.withDigits? 17).getD ⟨0, 0⟩
  | left + 1 =>
      match rounded.withDigits? (17 - (left + 1)) with
      | some digits => digits
      | none => rounded.searchDigits left

/-- The same decimal without zeros at its end, of which at most `zeros` are
taken away. -/
def Digits.withoutZeros (digits : Digits) : Nat → Digits
  | 0 => digits
  | zeros + 1 =>
      if digits.number % 10 = 0 then
        withoutZeros ⟨digits.number / 10, digits.unit + 1⟩ zeros
      else
        digits

/-- The shortest decimal that rounds to the number. A neighbour above can be a
power of ten, so zeros may be left over at its end. -/
def Rounded.shortest (rounded : Rounded) : Digits :=
  (rounded.searchDigits 16).withoutZeros 17

/-! ## Doubles as text -/

/-- How decimals are laid out as text. -/
structure Layout where
  /-- The places of a first digit for which no exponent is written. -/
  leastPlain : Int
  greatestPlain : Int
  /-- The least number of digits of an exponent. -/
  exponentWidth : Nat

/-- Digits with a point, or with an exponent where the first digit lies far
from the point. A whole number has one zero behind the point. -/
def Layout.text (layout : Layout) (digits : Digits) : List Char :=
  let figures := Text.numeral 10 digits.number
  let place : Int := digits.unit + figures.length - 1
  if layout.leastPlain ≤ place ∧ place ≤ layout.greatestPlain then
    if 0 ≤ digits.unit then
      figures ++ List.replicate digits.unit.toNat '0' ++ ['.', '0']
    else if 0 ≤ place then
      figures.take (place + 1).toNat ++ '.' :: figures.drop (place + 1).toNat
    else
      '0' :: '.' :: List.replicate (-place - 1).toNat '0' ++ figures
  else
    let mantissa :=
      match figures with
      | first :: second :: rest => first :: '.' :: second :: rest
      | short => short
    let exponent := Text.numeral 10 place.natAbs
    mantissa ++ 'e' :: (if place < 0 then '-' else '+')
      :: List.replicate (layout.exponentWidth - exponent.length) '0' ++ exponent

/-- The text of a finite double. -/
def Layout.doubleText (layout : Layout) (number : Float) : List Char :=
  let bits := number.toBits.toNat
  let sign := if bits / Nat.pow 2 63 = 1 then ['-'] else []
  let exponent : Nat := bits / Nat.pow 2 52 % Nat.pow 2 11
  let fraction : Nat := bits % Nat.pow 2 52
  let magnitude :=
    if exponent = 0 ∧ fraction = 0 then ['0', '.', '0']
    else if exponent = 0 then
      layout.text (Rounded.ofParts fraction (-1074)).shortest
    else
      layout.text (Rounded.ofParts (Nat.pow 2 52 + fraction) ((exponent : Int) - 1075)).shortest
  sign ++ magnitude

end MethodCodec.Decimal
