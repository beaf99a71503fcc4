import Mathlib
import MethodCodec.Json.Token
import MethodCodec.Proofs.JsonGrammar

/-!
# Scanning JSON texts

Steps that no character needs change nothing, so a text is scanned token by
token.  White space, words and strings are taken off the front of a text
whatever stands behind them.
-/

namespace MethodCodec.Json.Token

open Grammar

/-! ## Steps enough -/

theorem length_scanText_le (state : TextState) (input : List Char) :
    (scanText state input).2.length ≤ input.length := by
  fun_induction scanText state input <;> simp_all <;> omega

theorem length_scanWord_le (token : Token) (word input : List Char) :
    (scanWord token word input).2.length ≤ input.length := by
  induction word generalizing input with
  | nil => exact le_rfl
  | cons expected word inductionHypothesis =>
      cases input with
      | nil => exact le_rfl
      | cons c rest =>
          rw [scanWord]
          split_ifs
          · exact (inductionHypothesis rest).trans (Nat.le_succ _)
          · exact Nat.zero_le _

theorem length_scanDigits_le (input : List Char) :
    (scanDigits input).2.length ≤ input.length := by
  induction input with
  | nil => exact le_rfl
  | cons c rest inductionHypothesis =>
      rw [scanDigits]
      split
      · exact inductionHypothesis.trans (Nat.le_succ _)
      · exact le_rfl

theorem length_scanExponent_le
    (numeral : Numeral) (below : Bool) (input : List Char) :
    (scanExponent numeral below input).2.length ≤ input.length := by
  have taken := length_scanDigits_le input
  rw [scanExponent]
  split
  next => exact Nat.zero_le _
  next digits rest _ scanned =>
    rw [scanned] at taken
    exact taken

theorem length_scanScale_le (numeral : Numeral) (input : List Char) :
    (scanScale numeral input).2.length ≤ input.length := by
  rw [scanScale.eq_def]
  split
  next c rest =>
    split_ifs
    · split
      all_goals
        refine (length_scanExponent_le _ _ _).trans ?_
        simp only [List.length_cons]
        omega
    · exact le_rfl
  next => exact le_rfl

theorem length_scanFraction_le (numeral : Numeral) (input : List Char) :
    (scanFraction numeral input).2.length ≤ input.length := by
  rw [scanFraction.eq_def]
  split
  next rest =>
    have taken := length_scanDigits_le rest
    split
    next => exact Nat.zero_le _
    next digits rest _ scanned =>
      rw [scanned] at taken
      exact (length_scanScale_le _ _).trans (taken.trans (Nat.le_succ _))
  next => exact length_scanScale_le _ _

theorem length_scanNumber_le (negative : Bool) (input : List Char) :
    (scanNumber negative input).2.length ≤ (scanDigits input).2.length := by
  rw [scanNumber]
  split
  next => exact Nat.zero_le _
  next => exact Nat.zero_le _
  next digits rest _ _ scanned =>
    rw [scanned]
    exact length_scanFraction_le _ _

theorem isDigit_iff {c : Char} : c.isDigit = true ↔ '0' ≤ c ∧ c ≤ '9' := by
  rw [Char.isDigit_iff_toNat, Char.le_def, Char.le_def, UInt32.le_iff_toNat_le,
    UInt32.le_iff_toNat_le]
  rfl

theorem digitValue?_of_isDigit {c : Char} (digit : c.isDigit = true) :
    Text.digitValue? 10 c = some (c.toNat - 48) := by
  have zero : '0'.toNat = 48 := rfl
  have small : c.toNat - 48 < 10 := by
    have last : c.toNat ≤ 57 := (Char.isDigit_iff_toNat.mp digit).2
    omega
  simp only [Text.digitValue?, isDigit_iff.mp digit, and_self, if_true,
    Option.filter_some, zero, small, decide_true]

theorem digitValue?_of_not_isDigit {c : Char} (other : c.isDigit = false) :
    Text.digitValue? 10 c = none := by
  have outside : ¬ ('0' ≤ c ∧ c ≤ '9') := by
    rw [← isDigit_iff, other]
    exact Bool.false_ne_true
  simp only [Text.digitValue?, outside, if_false]
  split_ifs <;> simp

theorem scanDigits_cons_of_isDigit {c : Char} (digit : c.isDigit = true)
    (rest : List Char) :
    scanDigits (c :: rest) =
      ((c.toNat - 48) :: (scanDigits rest).1, (scanDigits rest).2) := by
  rw [scanDigits, digitValue?_of_isDigit digit]

theorem length_scanFrom_le (c : Char) (rest : List Char) :
    (scanFrom c rest).2.length ≤ rest.length := by
  rw [scanFrom.eq_def]
  split
  case h_7 => exact length_scanText_le _ _
  case h_8 => exact length_scanWord_le _ _ _
  case h_9 => exact length_scanWord_le _ _ _
  case h_10 => exact length_scanWord_le _ _ _
  case h_11 =>
    exact (length_scanNumber_le _ _).trans (length_scanDigits_le rest)
  case h_12 =>
    split_ifs with digit
    · refine (length_scanNumber_le _ _).trans ?_
      rw [scanDigits_cons_of_isDigit digit]
      exact length_scanDigits_le rest
    · exact Nat.zero_le _
  all_goals exact le_rfl

/-- Steps that no character needs change nothing. -/
theorem scanWithin_congr {budget other : Nat} {input : List Char}
    (enough : input.length ≤ budget) (too : input.length ≤ other) :
    scanWithin budget input = scanWithin other input := by
  induction budget generalizing other input with
  | zero =>
      rw [List.length_eq_zero_iff.mp (Nat.le_zero.mp enough)]
      cases other <;> rfl
  | succ budget inductionHypothesis =>
      cases input with
      | nil => cases other <;> rfl
      | cons c rest =>
          rw [List.length_cons] at enough too
          obtain ⟨other, rfl⟩ := Nat.exists_eq_succ_of_ne_zero (by omega : other ≠ 0)
          have taken := length_scanFrom_le c rest
          rw [scanWithin, scanWithin]
          split_ifs
          · exact inductionHypothesis (by omega) (by omega)
          · exact congrArg ((scanFrom c rest).1 :: ·)
              (inductionHypothesis (taken.trans (by omega))
                (taken.trans (by omega)))

theorem scan_space {c : Char} (space : isSpace c = true) (rest : List Char) :
    scan (c :: rest) = scan rest := by
  rw [scan, List.length_cons, scanWithin, if_pos space]
  rfl

theorem scan_cons {c : Char} (visible : isSpace c = false) (rest : List Char) :
    scan (c :: rest) = (scanFrom c rest).1 :: scan (scanFrom c rest).2 := by
  have taken := length_scanFrom_le c rest
  rw [scan, List.length_cons, scanWithin, if_neg (by simp [visible])]
  exact congrArg ((scanFrom c rest).1 :: ·) (scanWithin_congr taken le_rfl)

theorem scan_blank {blank : List Char} (spaces : Blank blank) (rest : List Char) :
    scan (blank ++ rest) = scan rest := by
  induction blank with
  | nil => rfl
  | cons c blank inductionHypothesis =>
      obtain ⟨here, spaces⟩ := List.forall_mem_cons.mp spaces
      have space : isSpace c = true := by
        fin_cases here <;> rfl
      rw [List.cons_append, scan_space space, inductionHypothesis spaces]

/-! ## Words and strings -/

@[simp]
theorem scan_null (rest : List Char) :
    scan (nullText ++ rest) = .null :: scan rest :=
  scan_cons (by decide) _

@[simp]
theorem scan_flag (value : Bool) (rest : List Char) :
    scan (flagText value ++ rest) = .bool value :: scan rest := by
  cases value
  · exact scan_cons (by decide) _
  · exact scan_cons (by decide) _

theorem digitValue?_of_hexDigit {c : Char} {value : Nat}
    (digit : HexDigit c value) : Text.digitValue? 16 c = some value := by
  obtain ⟨small, rfl | rfl⟩ := digit
  · interval_cases value <;> rfl
  · interval_cases value <;> rfl

theorem hexValue?_of_hexCode {digits : List Char} {code : Nat}
    (coded : HexCode digits code) :
    ∃ a b c d, digits = [a, b, c, d] ∧ hexValue? a b c d = some code := by
  obtain ⟨first, second, third, fourth⟩ := coded
  refine ⟨_, _, _, _, rfl, ?_⟩
  simp only [hexValue?, Text.readNumeral?, List.isEmpty_cons,
    Text.readDigitsFrom, digitValue?_of_hexDigit first,
    digitValue?_of_hexDigit second, digitValue?_of_hexDigit third,
    digitValue?_of_hexDigit fourth]
  simp

theorem scanText_code {digits : List Char} {code : Nat}
    (coded : HexCode digits code) (state : TextState) (rest : List Char) :
    scanText state ('\\' :: 'u' :: digits ++ rest) =
      scanText (state.pushCode code) rest := by
  obtain ⟨a, b, c, d, rfl, value⟩ := hexValue?_of_hexCode coded
  simp only [List.cons_append, List.nil_append]
  rw [scanText, value]

theorem scanText_letter {letter c : Char} (listed : (letter, c) ∈ letterEscapes)
    (state : TextState) (rest : List Char) :
    scanText state ('\\' :: letter :: rest) = scanText (state.push c) rest := by
  fin_cases listed <;> simp [scanText, letterEscape?]

theorem scanText_unescaped {c : Char} (itself : Unescaped c)
    (state : TextState) (rest : List Char) :
    scanText state (c :: rest) = scanText (state.push c) rest := by
  obtain ⟨visible, notQuote, notBackslash⟩ := itself
  have small : ¬ c.toNat < 0x20 := by omega
  rw [scanText, if_neg small]
  all_goals simp [notQuote, notBackslash]

theorem pushCode_toNat (state : TextState) (c : Char) :
    state.pushCode c.toNat = state.push c := by
  have valid : c.toNat.isValidChar := c.valid
  have notTrail : isTrailSurrogate c.toNat = false := by
    rcases valid with low | ⟨high, _⟩ <;> simp [isTrailSurrogate] <;> omega
  have notLead : isLeadSurrogate c.toNat = false := by
    rcases valid with low | ⟨high, _⟩ <;> simp [isLeadSurrogate] <;> omega
  rw [TextState.pushCode, notTrail, notLead, Char.ofNat_toNat]
  rfl

theorem pushCode_pair (state : TextState) {c : Char} {lead trail : Nat}
    (isLead : 0xD800 ≤ lead ∧ lead ≤ 0xDBFF)
    (isTrail : 0xDC00 ≤ trail ∧ trail ≤ 0xDFFF)
    (joined : c.toNat = 0x10000 + (lead - 0xD800) * 0x400 + (trail - 0xDC00)) :
    (state.pushCode lead).pushCode trail = state.push c := by
  have trailOk : isTrailSurrogate trail = true := by
    simp [isTrailSurrogate, isTrail]
  have leadOk : isLeadSurrogate lead = true := by
    simp [isLeadSurrogate, isLead]
  have notTrail : isTrailSurrogate lead = false := by
    simp [isTrailSurrogate]
    omega
  have paired : pairedChar lead trail = c := by
    rw [pairedChar, ← joined, Char.ofNat_toNat]
  simp only [TextState.pushCode, trailOk, notTrail, leadOk, if_true,
    Bool.false_eq_true, if_false, paired, TextState.push, TextState.settled]

theorem scanText_charText {c : Char} {piece : List Char}
    (written : CharText c piece) (state : TextState) (rest : List Char) :
    scanText state (piece ++ rest) = scanText (state.push c) rest := by
  cases written with
  | unescaped itself => exact scanText_unescaped itself state rest
  | letter listed => exact scanText_letter listed state rest
  | code coded => rw [scanText_code coded, pushCode_toNat]
  | pair leading trailing isLead isTrail joined =>
      rw [List.append_assoc, scanText_code leading, scanText_code trailing,
        pushCode_pair state isLead isTrail joined]

theorem scanText_charTexts {chars : List Char} {pieces : List (List Char)}
    (written : List.Forall₂ CharText chars pieces) (state : TextState)
    (rest : List Char) :
    scanText state (pieces.flatten ++ rest) =
      scanText (chars.foldl TextState.push state) rest := by
  induction written generalizing state with
  | nil => rfl
  | cons here _ inductionHypothesis =>
      rw [List.flatten_cons, List.append_assoc, scanText_charText here,
        inductionHypothesis, List.foldl_cons]

theorem foldl_push (chars content : List Char) :
    chars.foldl TextState.push ⟨content, false, none⟩ =
      ⟨chars.reverse ++ content, false, none⟩ := by
  induction chars generalizing content with
  | nil => rfl
  | cons c chars inductionHypothesis =>
      rw [List.foldl_cons, List.reverse_cons, List.append_assoc]
      exact inductionHypothesis (c :: content)

@[simp]
theorem scan_quote (rest : List Char) :
    scan ('"' :: rest) = (scanText {} rest).1 :: scan (scanText {} rest).2 :=
  scan_cons (by decide) rest

theorem scan_string {value : String} {text : List Char}
    (written : StringText value text) (rest : List Char) :
    scan (text ++ rest) = .text (some value) :: scan rest := by
  obtain ⟨pieces, spelled, rfl⟩ := written
  have scanned :
      scanText {} (pieces.flatten ++ ('"' :: rest)) =
        (.text (some value), rest) := by
    have content := foldl_push value.toList []
    rw [scanText_charTexts spelled]
    change scanText (value.toList.foldl TextState.push ⟨[], false, none⟩) _ = _
    rw [content, List.append_nil, scanText]
    simp [TextState.finish, TextState.settled]
  rw [List.append_assoc, List.cons_append, List.singleton_append, scan_quote,
    scanned]

theorem exists_scanText_piece {piece : List Char} (written : Piece piece)
    (state : TextState) :
    ∃ next, ∀ rest, scanText state (piece ++ rest) = scanText next rest := by
  cases written with
  | unescaped itself => exact ⟨_, scanText_unescaped itself state⟩
  | letter listed => exact ⟨_, scanText_letter listed state⟩
  | code coded => exact ⟨_, scanText_code coded state⟩

theorem exists_scanText_pieces {pieces : List (List Char)}
    (written : ∀ piece ∈ pieces, Piece piece) (state : TextState) :
    ∃ next, ∀ rest,
      scanText state (pieces.flatten ++ rest) = scanText next rest := by
  induction pieces generalizing state with
  | nil => exact ⟨state, fun _ => rfl⟩
  | cons piece pieces inductionHypothesis =>
      obtain ⟨here, others⟩ := List.forall_mem_cons.mp written
      obtain ⟨middle, first⟩ := exists_scanText_piece here state
      obtain ⟨next, others⟩ := inductionHypothesis others middle
      refine ⟨next, fun rest => ?_⟩
      rw [List.flatten_cons, List.append_assoc, first, others]

theorem exists_scan_anyString {text : List Char} (written : AnyString text) :
    ∃ value, ∀ rest, scan (text ++ rest) = .text value :: scan rest := by
  obtain ⟨pieces, spelled, rfl⟩ := written
  obtain ⟨next, scanned⟩ := exists_scanText_pieces spelled {}
  refine ⟨if next.settled.flawed then none
    else some (String.ofList next.settled.content.reverse), fun rest => ?_⟩
  rw [List.append_assoc, List.cons_append, List.singleton_append, scan_quote,
    scanned, scanText]
  rfl

end MethodCodec.Json.Token
