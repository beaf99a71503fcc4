/-!
Natural numbers written in a base, most significant digit first. Digits above
nine are lower-case letters.
-/

namespace MethodCodec.Text

/-- The numeral of `number` in a base from two to sixteen. -/
def numeral (base number : Nat) : List Char :=
  if number < base ∨ base < 2 then
    [Nat.digitChar number]
  else
    numeral base (number / base) ++ [Nat.digitChar (number % base)]
  termination_by number
  decreasing_by exact Nat.div_lt_self (by omega) (by omega)

/-- The decimal numeral, as text. -/
def decimal (number : Nat) : String :=
  String.ofList (numeral 10 number)

/-- The value of a character as a digit, in either case, if it is one in the
given base. -/
def digitValue? (base : Nat) (c : Char) : Option Nat :=
  let value? : Option Nat :=
    if '0' ≤ c ∧ c ≤ '9' then some (c.toNat - '0'.toNat)
    else if 'a' ≤ c ∧ c ≤ 'f' then some (c.toNat - 'a'.toNat + 10)
    else if 'A' ≤ c ∧ c ≤ 'F' then some (c.toNat - 'A'.toNat + 10)
    else none
  value?.filter fun value => value < base

/-- Reads digits onto a number already read. -/
def readDigitsFrom (base start : Nat) : List Char → Option Nat
  | [] => some start
  | c :: rest =>
      match digitValue? base c with
      | some value => readDigitsFrom base (start * base + value) rest
      | none => none

/-- Reads a non-empty run of digits that is the whole text. -/
def readNumeral? (base : Nat) (text : List Char) : Option Nat :=
  if text.isEmpty then none else readDigitsFrom base 0 text

end MethodCodec.Text
