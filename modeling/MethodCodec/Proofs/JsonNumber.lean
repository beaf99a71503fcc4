import Mathlib
import MethodCodec.Proofs.JsonScan
import MethodCodec.Proofs.Literal

/-!
# Scanning JSON numbers

A number is taken off the front of a text if the text ends behind it or goes on
with white space or a mark.  Natural numbers of sixty-four bits keep their
value.
-/

namespace MethodCodec.Json.Token

open Grammar

/-! ## Digits -/

/-- A text that does not go on the number before it. -/
def Ends (rest : List Char) : Prop :=
  ∀ c, rest.head? = some c → c ∈ [' ', '\n', '\t', '\r', ',', ']', '\x7d']

/-- A text that does not go on the digits before it. -/
def NoDigit (rest : List Char) : Prop :=
  ∀ c, rest.head? = some c → c.isDigit = false

theorem Ends.of_mark {c : Char}
    (mark : c ∈ [' ', '\n', '\t', '\r', ',', ']', '\x7d']) (rest : List Char) :
    Ends (c :: rest) := by
  intro other first
  exact Option.some.inj first ▸ mark

theorem Ends.blank {blank rest : List Char} (ends : Ends rest)
    (spaces : Blank blank) : Ends (blank ++ rest) := by
  cases blank with
  | nil => exact ends
  | cons c blank =>
      have space := spaces c List.mem_cons_self
      refine .of_mark ?_ _
      fin_cases space <;> simp

theorem Ends.noDigit {rest : List Char} (ends : Ends rest) : NoDigit rest := by
  intro c first
  have mark := ends c first
  fin_cases mark <;> rfl

def digitValues (digits : List Char) : List Nat :=
  digits.map fun c => c.toNat - 48

theorem scanDigits_append {digits rest : List Char}
    (all : ∀ c ∈ digits, c.isDigit = true) (stop : NoDigit rest) :
    scanDigits (digits ++ rest) = (digitValues digits, rest) := by
  induction digits with
  | nil =>
      cases rest with
      | nil => rfl
      | cons c rest =>
          rw [List.nil_append, scanDigits,
            digitValue?_of_not_isDigit (stop c rfl)]
          rfl
  | cons c digits inductionHypothesis =>
      obtain ⟨here, others⟩ := List.forall_mem_cons.mp all
      rw [List.cons_append, scanDigits_cons_of_isDigit here,
        inductionHypothesis others]
      rfl

theorem scanExponent_append
    (numeral : Numeral) (below : Bool) {digits rest : List Char}
    (written : Digits digits) (stop : NoDigit rest) :
    scanExponent numeral below (digits ++ rest) =
      (.number { numeral with exponent := some (below, digitValues digits) }.value?,
        rest) := by
  have scanned := scanDigits_append written.2 stop
  rw [scanExponent, scanned]
  cases digits with
  | nil => exact absurd rfl written.1
  | cons c digits => rfl

theorem scanScale_of_ends (numeral : Numeral) {rest : List Char}
    (ends : Ends rest) :
    scanScale numeral rest = (.number numeral.value?, rest) := by
  cases rest with
  | nil => rfl
  | cons c rest =>
      have mark := ends c rfl
      have other : ¬ (c = 'e' ∨ c = 'E') := by
        fin_cases mark <;> decide
      rw [scanScale.eq_def]
      simp only [if_neg other]

theorem scanScale_letter {letter : Char} (isLetter : letter ∈ ['e', 'E'])
    (numeral : Numeral) (rest : List Char) :
    scanScale numeral (letter :: rest) =
      match rest with
      | '+' :: rest => scanExponent numeral false rest
      | '-' :: rest => scanExponent numeral true rest
      | rest => scanExponent numeral false rest := by
  have isLetter : letter = 'e' ∨ letter = 'E' := List.mem_pair.mp isLetter
  rw [scanScale.eq_def]
  dsimp only
  exact if_pos isLetter

theorem scanScale_unsigned {letter : Char} (isLetter : letter ∈ ['e', 'E'])
    (numeral : Numeral) {digits : List Char} (written : Digits digits)
    (rest : List Char) :
    scanScale numeral (letter :: (digits ++ rest)) =
      scanExponent numeral false (digits ++ rest) := by
  rw [scanScale_letter isLetter]
  cases digits with
  | nil => exact absurd rfl written.1
  | cons c digits =>
      have digit := written.2 c List.mem_cons_self
      rw [List.cons_append]
      split
      next same =>
        rw [(List.cons.inj same).1] at digit
        cases digit
      next same =>
        rw [(List.cons.inj same).1] at digit
        cases digit
      next => rfl

theorem exists_scanScale {exponent : List Char} (written : ExponentPart exponent)
    (numeral : Numeral) :
    ∃ value, ∀ rest, Ends rest →
      scanScale numeral (exponent ++ rest) = (.number value, rest) := by
  rcases written with rfl | ⟨letter, isLetter, sign, isSign, digits, written, rfl⟩
  · exact ⟨_, fun rest ends => scanScale_of_ends numeral ends⟩
  · have signs : sign = [] ∨ sign = ['+'] ∨ sign = ['-'] := by simpa using isSign
    have scanned (below : Bool) (rest : List Char) (ends : Ends rest) :=
      scanExponent_append numeral below written ends.noDigit
    rcases signs with rfl | rfl | rfl
    · exact ⟨_, fun rest ends =>
        (scanScale_unsigned isLetter numeral written rest).trans
          (scanned false rest ends)⟩
    · exact ⟨_, fun rest ends =>
        (scanScale_letter isLetter numeral _).trans (scanned false rest ends)⟩
    · exact ⟨_, fun rest ends =>
        (scanScale_letter isLetter numeral _).trans (scanned true rest ends)⟩

/-- What begins an exponent or ends a number. -/
theorem head_of_exponentPart {exponent rest : List Char}
    (written : ExponentPart exponent) (ends : Ends rest) :
    NoDigit (exponent ++ rest) ∧ (exponent ++ rest).head? ≠ some '.' := by
  rcases written with rfl | ⟨letter, isLetter, sign, _, digits, _, rfl⟩
  · refine ⟨ends.noDigit, fun point => ?_⟩
    have mark := ends '.' point
    revert mark
    decide
  · have letters : letter = 'e' ∨ letter = 'E' := List.mem_pair.mp isLetter
    constructor
    · intro c first
      obtain rfl := Option.some.inj first
      rcases letters with rfl | rfl <;> rfl
    · intro first
      obtain rfl := Option.some.inj first
      rcases letters with letter | letter <;> cases letter

theorem scanFraction_of_head {input : List Char}
    (noPoint : input.head? ≠ some '.') (numeral : Numeral) :
    scanFraction numeral input = scanScale numeral input := by
  rw [scanFraction.eq_def]
  split
  next => exact absurd rfl noPoint
  next => rfl

theorem exists_scanFraction {fraction exponent : List Char}
    (fractional : FractionPart fraction) (written : ExponentPart exponent)
    (numeral : Numeral) :
    ∃ value, ∀ rest, Ends rest →
      scanFraction numeral (fraction ++ (exponent ++ rest)) =
        (.number value, rest) := by
  rcases fractional with rfl | ⟨digits, decimals, rfl⟩
  · obtain ⟨value, scanned⟩ := exists_scanScale written numeral
    refine ⟨value, fun rest ends => ?_⟩
    rw [List.nil_append,
      scanFraction_of_head (head_of_exponentPart written ends).2, scanned rest ends]
  · obtain ⟨value, scanned⟩ :=
      exists_scanScale written { numeral with fraction := some (digitValues digits) }
    refine ⟨value, fun rest ends => ?_⟩
    have taken :=
      scanDigits_append decimals.2 (head_of_exponentPart written ends).1
    rw [List.cons_append, scanFraction, taken, ← scanned rest ends]
    cases digits with
    | nil => exact absurd rfl decimals.1
    | cons c digits => rfl

theorem scanNumber_append (negative : Bool) {whole rest : List Char}
    (written : WholePart whole) (stop : NoDigit rest) :
    scanNumber negative (whole ++ rest) =
      scanFraction ⟨negative, digitValues whole, none, none⟩ rest := by
  rcases written with rfl | ⟨⟨nonempty, digits⟩, noZero⟩
  · have taken : scanDigits (['0'] ++ rest) = ([0], rest) :=
      scanDigits_append (List.forall_mem_singleton.mpr rfl) stop
    rw [scanNumber, taken]
    rfl
  · rw [scanNumber, scanDigits_append digits stop]
    cases whole with
    | nil => exact absurd rfl nonempty
    | cons c whole =>
        have notZero : c.toNat - 48 ≠ 0 := by
          intro zero
          have range := Char.isDigit_iff_toNat.mp (digits c List.mem_cons_self)
          have low : 48 ≤ c.toNat := range.1
          have code : c.toNat = '0'.toNat := by
            change c.toNat = 48
            omega
          exact noZero (congrArg some (Char.toNat_inj.mp code))
        rw [digitValues, List.map_cons]
        generalize c.toNat - 48 = first at notZero
        cases first with
        | zero => exact absurd rfl notZero
        | succ first => rfl

theorem noDigit_of_parts {fraction exponent rest : List Char}
    (fractional : FractionPart fraction) (written : ExponentPart exponent)
    (ends : Ends rest) : NoDigit (fraction ++ (exponent ++ rest)) := by
  rcases fractional with rfl | ⟨digits, _, rfl⟩
  · exact (head_of_exponentPart written ends).1
  · intro c first
    obtain rfl := Option.some.inj first
    rfl

theorem scanFrom_of_isDigit {c : Char} (digit : c.isDigit = true)
    (rest : List Char) :
    scanFrom c rest = scanNumber false (c :: rest) := by
  rw [scanFrom.eq_def]
  split
  case h_12 => rw [if_pos digit]
  all_goals cases digit

@[simp]
theorem scan_minus (rest : List Char) :
    scan ('-' :: rest) =
      (scanNumber true rest).1 :: scan (scanNumber true rest).2 :=
  scan_cons (by decide) rest

theorem scan_wholePart {whole : List Char} (written : WholePart whole)
    (rest : List Char) :
    scan (whole ++ rest) =
      (scanNumber false (whole ++ rest)).1 ::
        scan (scanNumber false (whole ++ rest)).2 := by
  obtain ⟨c, others, rfl, digit⟩ :
      ∃ c others, whole = c :: others ∧ c.isDigit = true := by
    rcases written with rfl | ⟨⟨nonempty, digits⟩, _⟩
    · exact ⟨'0', [], rfl, rfl⟩
    · obtain ⟨c, others, rfl⟩ := List.exists_cons_of_ne_nil nonempty
      exact ⟨c, others, rfl, digits c List.mem_cons_self⟩
  have visible : isSpace c = false := by
    cases space : isSpace c with
    | false => rfl
    | true =>
        simp only [isSpace, Bool.or_eq_true, beq_iff_eq] at space
        rcases space with ((rfl | rfl) | rfl) | rfl <;> cases digit
  rw [List.cons_append, scan_cons visible, scanFrom_of_isDigit digit]

theorem exists_scan_anyNumber {text : List Char} (written : AnyNumber text) :
    ∃ value, ∀ rest, Ends rest →
      scan (text ++ rest) = .number value :: scan rest := by
  obtain ⟨sign, isSign, whole, fraction, exponent, wholePart, fractional, scaled,
    rfl⟩ := written
  have scanned (negative : Bool) :
      ∃ value, ∀ rest, Ends rest →
        scanNumber negative (whole ++ (fraction ++ (exponent ++ rest))) =
          (.number value, rest) := by
    obtain ⟨value, scanned⟩ := exists_scanFraction fractional scaled
      ⟨negative, digitValues whole, none, none⟩
    refine ⟨value, fun rest ends => ?_⟩
    rw [scanNumber_append negative wholePart
      (noDigit_of_parts fractional scaled ends), scanned rest ends]
  rcases List.mem_pair.mp isSign with rfl | rfl
  · obtain ⟨value, scanned⟩ := scanned false
    refine ⟨value, fun rest ends => ?_⟩
    rw [List.nil_append, List.append_assoc, List.append_assoc,
      scan_wholePart wholePart, scanned rest ends]
  · obtain ⟨value, scanned⟩ := scanned true
    refine ⟨value, fun rest ends => ?_⟩
    rw [List.append_assoc, List.append_assoc, List.append_assoc,
      List.singleton_append, scan_minus, scanned rest ends]

/-! ## Natural numbers -/

theorem head?_numeral {value : Nat} (positive : value ≠ 0) :
    (Text.numeral 10 value).head? ≠ some '0' := by
  induction value using Text.numeral_induction (by norm_num : 2 ≤ 10) with
  | digit value small =>
      rw [Text.numeral_of_lt small]
      interval_cases value
      · exact absurd rfl positive
      all_goals decide
  | step value large inductionHypothesis =>
      rw [Text.numeral_of_le (by norm_num) large,
        List.head?_append_of_ne_nil _ (Text.numeral_ne_nil _ _)]
      apply inductionHypothesis
      omega

theorem wholePart_numeral (value : Nat) : WholePart (Text.numeral 10 value) := by
  by_cases zero : value = 0
  · left
    rw [zero, Text.numeral_of_lt (by norm_num)]
    rfl
  · right
    refine ⟨⟨Text.numeral_ne_nil _ _, fun c member => ?_⟩, head?_numeral zero⟩
    obtain ⟨digit, small, rfl⟩ := Text.mem_numeral (by norm_num) member
    interval_cases digit <;> rfl

/-- The number that digits make behind those of another. -/
def joinDigits (start : Nat) (digits : List Nat) : Nat :=
  digits.foldl (fun number digit => number * 10 + digit) start

theorem le_joinDigits (start : Nat) (digits : List Nat) :
    start ≤ joinDigits start digits := by
  induction digits generalizing start with
  | nil => exact le_rfl
  | cons digit digits inductionHypothesis =>
      have further : start * 10 + digit ≤ joinDigits start (digit :: digits) :=
        inductionHypothesis (start * 10 + digit)
      omega

theorem takeDigits_of_le
    {limit start : Nat} {digits : List Nat}
    (small : joinDigits start digits ≤ limit) (taken : Nat) :
    Numeral.takeDigits limit start taken digits =
      (joinDigits start digits, taken + digits.length) := by
  induction digits generalizing start taken with
  | nil => rfl
  | cons digit digits inductionHypothesis =>
      have next : start * 10 + digit ≤ limit :=
        (le_joinDigits (start * 10 + digit) digits).trans small
      rw [Numeral.takeDigits, if_pos next, inductionHypothesis small,
        List.length_cons, Nat.add_assoc, Nat.add_comm 1]
      rfl

theorem joinDigits_numeral (value : Nat) :
    joinDigits 0 (digitValues (Text.numeral 10 value)) = value := by
  induction value using Text.numeral_induction (by norm_num : 2 ≤ 10) with
  | digit value small =>
      rw [Text.numeral_of_lt small]
      interval_cases value <;> rfl
  | step value large inductionHypothesis =>
      have digit : (Nat.digitChar (value % 10)).toNat - 48 = value % 10 := by
        have small : value % 10 < 10 := Nat.mod_lt value (by norm_num)
        interval_cases value % 10 <;> rfl
      rw [Text.numeral_of_le (by norm_num) large, digitValues, List.map_append,
        joinDigits, List.foldl_append]
      change joinDigits 0 (digitValues (Text.numeral 10 (value / 10))) * 10 +
        ((Nat.digitChar (value % 10)).toNat - 48) = value
      rw [inductionHypothesis, digit]
      omega

theorem value?_numeral {value : Nat} (small : value ≤ Numeral.greatestWord) :
    Numeral.value? ⟨false, digitValues (Text.numeral 10 value), none, none⟩ =
      some (.natural value) := by
  have joined := joinDigits_numeral value
  have taken := takeDigits_of_le (joined.trans_le small) 0
  rw [joined, Nat.zero_add] at taken
  simp only [Numeral.value?, taken, Nat.sub_self]
  rfl

theorem scan_natural {value : Nat} (small : value ≤ Numeral.greatestWord)
    {text : List Char} (written : NaturalText value text) {rest : List Char}
    (ends : Ends rest) :
    scan (text ++ rest) = .number (some (.natural value)) :: scan rest := by
  obtain rfl := written
  have whole := wholePart_numeral value
  have noPoint : rest.head? ≠ some '.' :=
    (head_of_exponentPart (.inl rfl) ends).2
  rw [scan_wholePart whole, scanNumber_append false whole ends.noDigit,
    scanFraction_of_head noPoint, scanScale_of_ends _ ends, value?_numeral small]

end MethodCodec.Json.Token
