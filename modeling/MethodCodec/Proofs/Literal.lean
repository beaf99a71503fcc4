import Mathlib
import MethodCodec.Text.Quoted

/-!
# Literals read back

A numeral is the number it was written for, and text between double quotes is,
with its escapes undone, the text that was quoted.
-/

namespace MethodCodec.Text

/-! ## Numerals -/

section Numeral

variable {base number : Nat}

theorem digitValue?_digitChar
    {digit : Nat} (small : digit < base) (limit : base ≤ 16) :
    digitValue? base (Nat.digitChar digit) = some digit := by
  have bound : digit < 16 := lt_of_lt_of_le small limit
  interval_cases digit <;>
    simp [digitValue?, Nat.digitChar, Option.filter, small]

theorem numeral_of_lt (small : number < base) :
    numeral base number = [Nat.digitChar number] := by
  rw [numeral, if_pos (Or.inl small)]

theorem numeral_of_le (valid : 2 ≤ base) (large : base ≤ number) :
    numeral base number =
      numeral base (number / base) ++ [Nat.digitChar (number % base)] := by
  rw [numeral, if_neg (by omega)]

@[simp]
theorem numeral_ne_nil (base number : Nat) : numeral base number ≠ [] := by
  rw [numeral]
  split_ifs <;> simp

/-- Numerals are written digit by digit, and read so. -/
theorem numeral_induction
    {motive : Nat → Prop} (valid : 2 ≤ base)
    (digit : ∀ number < base, motive number)
    (step : ∀ number, base ≤ number → motive (number / base) → motive number)
    (number : Nat) :
    motive number := by
  induction number using Nat.strong_induction_on with
  | _ number inductionHypothesis =>
      by_cases small : number < base
      · exact digit number small
      · have large : base ≤ number := Nat.le_of_not_lt small
        have smaller : number / base < number :=
          Nat.div_lt_self (by omega) (by omega)
        exact step number large (inductionHypothesis _ smaller)

theorem mem_numeral (valid : 2 ≤ base) {c : Char} :
    c ∈ numeral base number → ∃ digit < base, c = Nat.digitChar digit := by
  induction number using numeral_induction valid with
  | digit number small =>
      intro member
      rw [numeral_of_lt small, List.mem_singleton] at member
      exact ⟨number, small, member⟩
  | step number large inductionHypothesis =>
      intro member
      rw [numeral_of_le valid large, List.mem_append,
        List.mem_singleton] at member
      rcases member with member | last
      · exact inductionHypothesis member
      · exact ⟨number % base, Nat.mod_lt _ (by omega), last⟩

/-- The characters of numerals are digits, and nothing else that is written
around a numeral. -/
theorem not_mem_numeral
    (valid : 2 ≤ base) (limit : base ≤ 16) {c : Char}
    (other : digitValue? 16 c = none) :
    c ∉ numeral base number := by
  intro member
  obtain ⟨digit, small, rfl⟩ := mem_numeral valid member
  have bound : digit < 16 := lt_of_lt_of_le small limit
  rw [digitValue?_digitChar bound le_rfl] at other
  cases other

theorem length_numeral_le (valid : 2 ≤ base) {width : Nat} :
    number < base ^ (width + 1) →
      (numeral base number).length ≤ width + 1 := by
  intro bound
  induction width generalizing number with
  | zero =>
      have small : number < base := by simpa using bound
      simp [numeral_of_lt small]
  | succ width inductionHypothesis =>
      by_cases small : number < base
      · simp [numeral_of_lt small]
      · have large : base ≤ number := Nat.le_of_not_lt small
        have quotient : number / base < base ^ (width + 1) :=
          Nat.div_lt_of_lt_mul (by rwa [Nat.pow_succ'] at bound)
        have shorter := inductionHypothesis quotient
        rw [numeral_of_le valid large, List.length_append]
        exact Nat.succ_le_succ shorter

theorem readDigitsFrom_concat (start : Nat) (digits : List Char) (c : Char) :
    readDigitsFrom base start (digits ++ [c]) =
      (readDigitsFrom base start digits).bind fun front =>
        (digitValue? base c).map fun value => front * base + value := by
  induction digits generalizing start with
  | nil =>
      rw [List.nil_append, readDigitsFrom, readDigitsFrom]
      cases digitValue? base c <;> simp [readDigitsFrom]
  | cons digit digits inductionHypothesis =>
      rw [List.cons_append, readDigitsFrom, readDigitsFrom]
      cases digitValue? base digit with
      | none => rfl
      | some value => exact inductionHypothesis (start * base + value)

theorem readDigitsFrom_numeral (valid : 2 ≤ base) (limit : base ≤ 16) :
    readDigitsFrom base 0 (numeral base number) = some number := by
  induction number using numeral_induction valid with
  | digit number small =>
      rw [numeral_of_lt small, readDigitsFrom,
        digitValue?_digitChar small limit]
      simp [readDigitsFrom]
  | step number large inductionHypothesis =>
      have small : number % base < base := Nat.mod_lt _ (by omega)
      rw [numeral_of_le valid large, readDigitsFrom_concat,
        inductionHypothesis, digitValue?_digitChar small limit]
      exact congrArg some (Nat.div_add_mod' number base)

/-- A numeral reads back as its number. -/
theorem readNumeral?_numeral (valid : 2 ≤ base) (limit : base ≤ 16) :
    readNumeral? base (numeral base number) = some number := by
  rw [readNumeral?, List.isEmpty_eq_false_iff.mpr (numeral_ne_nil _ _)]
  exact readDigitsFrom_numeral valid limit

end Numeral

/-! ## Text between quotes -/

/-- The character that a letter stands for behind a backslash. -/
def unescape? : Char → Option Char
  | '0' => some '\x00'
  | 't' => some '\t'
  | 'r' => some '\r'
  | 'n' => some '\n'
  | '\\' => some '\\'
  | '"' => some '"'
  | '\'' => some '\''
  | _ => none

/-- The character with a code point of one to six hexadecimal digits.
Surrogates have none. -/
def scalar? (digits : List Char) : Option Char :=
  match readNumeral? 16 digits with
  | some code =>
      if digits.length ≤ 6 ∧ code.isValidChar then some (Char.ofNat code)
      else none
  | none => none

/-- How much of an escape has been read. -/
inductive Escape
  /-- No escape is open. -/
  | closed
  /-- The backslash. -/
  | opened
  /-- The backslash and the letter of a code point. -/
  | announced
  /-- Digits of a code point, the latest first. -/
  | coded (digits : List Char)

/-- Reads what stands behind the opening quote, up to the closing quote that
ends it. Of the escapes of string literals, those by two digits and those of
line ends are not read. -/
def readQuoted : Escape → List Char → Option (List Char)
  | _, [] => none
  | .closed, c :: rest =>
      if c = '"' then
        if rest = [] then some [] else none
      else if c = '\\' then readQuoted .opened rest
      else if c = '\r' then none
      else (readQuoted .closed rest).map (c :: ·)
  | .opened, letter :: rest =>
      if letter = 'u' then readQuoted .announced rest
      else
        match unescape? letter with
        | some c => (readQuoted .closed rest).map (c :: ·)
        | none => none
  | .announced, c :: rest =>
      if c = '\x7b' then readQuoted (.coded []) rest else none
  | .coded digits, c :: rest =>
      if c = '\x7d' then
        match scalar? digits.reverse with
        | some c => (readQuoted .closed rest).map (c :: ·)
        | none => none
      else readQuoted (.coded (c :: digits)) rest

def readLiteral? : List Char → Option (List Char)
  | '"' :: body => readQuoted .closed body
  | _ => none

theorem scalar?_numeral (c : Char) : scalar? (numeral 16 c.toNat) = some c := by
  have valid : c.toNat.isValidChar := c.valid
  have bound : c.toNat < 16 ^ 6 := by
    rcases valid with low | ⟨_, high⟩ <;> omega
  have short := length_numeral_le (by norm_num) bound
  rw [scalar?, readNumeral?_numeral (by norm_num) (by norm_num)]
  simp only [short, valid, and_self, if_true, Char.ofNat_toNat]

theorem readQuoted_coded
    {digits : List Char} (front : List Char) (rest : List Char)
    (inside : '\x7d' ∉ digits) :
    readQuoted (.coded front) (digits ++ '\x7d' :: rest) =
      match scalar? (front.reverse ++ digits) with
      | some c => (readQuoted .closed rest).map (c :: ·)
      | none => none := by
  induction digits generalizing front with
  | nil =>
      rw [List.nil_append, readQuoted, if_pos rfl, List.append_nil]
  | cons digit digits inductionHypothesis =>
      rw [List.mem_cons, not_or] at inside
      obtain ⟨apart, inside⟩ := inside
      rw [List.cons_append, readQuoted, if_neg (Ne.symm apart),
        inductionHypothesis (digit :: front) inside, List.reverse_cons,
        List.append_assoc, List.singleton_append]

theorem readQuoted_codePointEscape (c : Char) (rest : List Char) :
    readQuoted .closed (codePointEscape c ++ rest) =
      (readQuoted .closed rest).map (c :: ·) := by
  have inside : '\x7d' ∉ numeral 16 c.toNat :=
    not_mem_numeral (by norm_num) le_rfl (by decide)
  have coded := readQuoted_coded [] rest inside
  simp only [List.reverse_nil, List.nil_append, scalar?_numeral] at coded
  simp [codePointEscape, readQuoted, coded]

theorem unescape?_of_letterEscape?
    {c letter : Char} (escape : letterEscape? c = some letter) :
    letter ≠ 'u' ∧ unescape? letter = some c := by
  unfold letterEscape? at escape
  split at escape <;> cases escape <;> exact ⟨by decide, rfl⟩

/-- One quoted character is read back, whichever way it is written. -/
theorem readQuoted_quotedChar (c : Char) (rest : List Char) :
    readQuoted .closed (quotedChar '"' c ++ rest) =
      (readQuoted .closed rest).map (c :: ·) := by
  rw [quotedChar]
  cases escape : letterEscape? c with
  | some letter =>
      obtain ⟨notCode, named⟩ := unescape?_of_letterEscape? escape
      simp [readQuoted, notCode, named]
  | none =>
      have notReturn : c ≠ '\r' := by
        rintro rfl
        cases escape
      by_cases special : c = '\\' ∨ c = '"'
      · rw [if_pos special]
        rcases special with rfl | rfl <;> simp [readQuoted, unescape?]
      · rw [if_neg special]
        split_ifs
        · exact readQuoted_codePointEscape c rest
        · rw [not_or] at special
          simp [readQuoted, special, notReturn]

/-- Quoted text, its escapes undone, is the text. -/
theorem readLiteral?_quoted (text : List Char) :
    readLiteral? (quoted text) = some text := by
  change readQuoted .closed (text.flatMap (quotedChar '"') ++ ['"']) = some text
  induction text with
  | nil =>
      rfl
  | cons c text inductionHypothesis =>
      rw [List.flatMap_cons, List.append_assoc, readQuoted_quotedChar,
        inductionHypothesis]
      rfl

example :
    readLiteral? (quoted "a \"b\"\\\n\u0301".toList) =
      some "a \"b\"\\\n\u0301".toList := by
  decide +kernel

end MethodCodec.Text
