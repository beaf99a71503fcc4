import Mathlib
import MethodCodec.Proofs.Utf8
import MethodCodec.Wire.Payload

/-!
# Payloads as they are typed

A text stands for bytes exactly if, its white space left out and a mark in
front dropped, it is the digits of these bytes, whatever the case of each.
-/

namespace MethodCodec

/-! ## White space -/

namespace Text

/-- The characters that have the Unicode property `White_Space`. -/
def whiteSpace : List Char :=
  ['\t', '\n', '\x0b', '\x0c', '\r', ' ', '\u0085', '\u00a0', '\u1680',
    '\u2000', '\u2001', '\u2002', '\u2003', '\u2004', '\u2005', '\u2006',
    '\u2007', '\u2008', '\u2009', '\u200a', '\u2028', '\u2029', '\u202f',
    '\u205f', '\u3000']

theorem isBlank_iff {c : Char} : isBlank c = true ↔ c ∈ whiteSpace := by
  constructor
  · intro blank
    have code : c.toNat ∈ whiteSpace.map Char.toNat := by
      rw [isBlank] at blank
      split_ifs at blank with ascii
      · simp only [Bool.or_eq_true, beq_iff_eq, Bool.and_eq_true,
          decide_eq_true_eq] at blank
        rcases blank with rfl | ⟨lower, upper⟩
        · decide
        · simp [whiteSpace]
          omega
      · change inSpans
          [⟨0x85, 0x85, 1⟩, ⟨0xA0, 0xA0, 1⟩, ⟨0x1680, 0x1680, 1⟩,
            ⟨0x2000, 0x200A, 1⟩, ⟨0x2028, 0x2029, 1⟩, ⟨0x202F, 0x202F, 1⟩,
            ⟨0x205F, 0x205F, 1⟩, ⟨0x3000, 0x3000, 1⟩] c.toNat = true at blank
        simp only [inSpans, Span.contains, List.any_cons, List.any_nil,
          Bool.or_eq_true, Bool.and_eq_true, decide_eq_true_eq,
          Bool.or_false] at blank
        simp [whiteSpace]
        omega
    obtain ⟨other, member, same⟩ := List.mem_map.mp code
    exact Char.toNat_inj.mp same ▸ member
  · have listed : whiteSpace.all isBlank = true := by
      decide
    exact List.all_eq_true.mp listed c

end Text

/-! ## Digits -/

namespace Hex

/-- The digit for a value, in lower or in upper case. -/
def IsDigit (value : Nat) (c : Char) : Prop :=
  c = Nat.digitChar value ∨ c = (Nat.digitChar value).toUpper

section IsDigit

variable {value : Nat} {c : Char}

theorem digitValue?_eq_some_iff :
    Text.digitValue? 16 c = some value ↔ value < 16 ∧ IsDigit value c := by
  constructor
  · intro found
    simp only [Text.digitValue?, Option.filter_eq_some_iff,
      decide_eq_true_eq] at found
    obtain ⟨found, small⟩ := found
    refine ⟨small, ?_⟩
    split_ifs at found with digit lower upper <;> rw [Option.some.injEq] at found
    · change 48 ≤ c.toNat ∧ c.toNat ≤ 57 at digit
      change c.toNat - 48 = value at found
      have code : c.toNat = value + 48 := by omega
      have bound : value < 10 := by omega
      interval_cases value <;> exact .inl (Char.toNat_inj.mp code)
    · change 97 ≤ c.toNat ∧ c.toNat ≤ 102 at lower
      change c.toNat - 97 + 10 = value at found
      have code : c.toNat = value + 87 := by omega
      have bound : 10 ≤ value := by omega
      interval_cases value <;> exact .inl (Char.toNat_inj.mp code)
    · change 65 ≤ c.toNat ∧ c.toNat ≤ 70 at upper
      change c.toNat - 65 + 10 = value at found
      have code : c.toNat = value + 55 := by omega
      have bound : 10 ≤ value := by omega
      interval_cases value <;> exact .inr (Char.toNat_inj.mp code)
  · rintro ⟨small, rfl | rfl⟩
    · interval_cases value <;> rfl
    · interval_cases value <;> rfl

theorem IsDigit.ascii (digit : IsDigit value c) (small : value < 16) :
    c.toNat < 0x80 := by
  rcases digit with rfl | rfl
  · interval_cases value <;> decide
  · interval_cases value <;> decide

theorem IsDigit.not_whiteSpace (digit : IsDigit value c) (small : value < 16) :
    c ∉ Text.whiteSpace := by
  rcases digit with rfl | rfl
  · interval_cases value <;> decide
  · interval_cases value <;> decide

theorem IsDigit.ne_mark (digit : IsDigit value c) (small : value < 16) :
    c ≠ 'x' := by
  rcases digit with rfl | rfl
  · interval_cases value <;> decide
  · interval_cases value <;> decide

end IsDigit

/-- The digits of bytes: two for each, the high one first. -/
inductive Spells : List UInt8 → List Char → Prop
  | nil : Spells [] []
  | cons {byte : UInt8} {high low : Char} {bytes : List UInt8} {digits : List Char}
      (highDigit : IsDigit (byte.toNat / 16) high)
      (lowDigit : IsDigit (byte.toNat % 16) low)
      (rest : Spells bytes digits) :
      Spells (byte :: bytes) (high :: low :: digits)

theorem Spells.exists_isDigit
    {bytes : List UInt8} {digits : List Char} (spells : Spells bytes digits) :
    ∀ c ∈ digits, ∃ value < 16, IsDigit value c := by
  induction spells with
  | nil => simp
  | @cons byte _ _ _ _ highDigit lowDigit _ inductionHypothesis =>
      have size := byte.toNat_lt
      rw [List.forall_mem_cons, List.forall_mem_cons]
      exact ⟨⟨_, by omega, highDigit⟩, ⟨_, by omega, lowDigit⟩, inductionHypothesis⟩

theorem Spells.length_eq
    {bytes : List UInt8} {digits : List Char} (spells : Spells bytes digits) :
    digits.length = 2 * bytes.length := by
  induction spells with
  | nil => rfl
  | cons _ _ _ inductionHypothesis =>
      simp only [List.length_cons, inductionHypothesis]
      omega

/-! ## Reading digits -/

/-- A byte of a text, seen as a character. -/
def asChar (byte : UInt8) : Char :=
  Char.ofNat byte.toNat

@[simp]
theorem toNat_asChar (byte : UInt8) : (asChar byte).toNat = byte.toNat := by
  have valid : byte.toNat.isValidChar := .inl (lt_trans byte.toNat_lt (by decide))
  exact Utf8.toNat_ofNat_of_valid valid

theorem readDigit_eq_ok_iff {position : Nat} {byte : UInt8} {value : Nat} :
    readDigit position byte = .ok value ↔ value < 16 ∧ IsDigit value (asChar byte) := by
  rw [← digitValue?_eq_some_iff, readDigit, asChar]
  cases Text.digitValue? 16 (Char.ofNat byte.toNat) <;> simp

theorem readPairs_cons_eq_ok_iff
    {position : Nat} {high low : UInt8} {rest bytes : List UInt8} :
    readPairs position (high :: low :: rest) = .ok bytes ↔
      ∃ highValue lowValue others,
        readDigit position high = .ok highValue ∧
          readDigit (position + 1) low = .ok lowValue ∧
          readPairs (position + 2) rest = .ok others ∧
          UInt8.ofNat (16 * highValue + lowValue) :: others = bytes := by
  rw [readPairs]
  cases readDigit position high <;> cases readDigit (position + 1) low <;>
    cases readPairs (position + 2) rest <;>
    simp [bind, Except.bind, pure, Except.pure]

theorem halves_ofNat {highValue lowValue : Nat}
    (highSmall : highValue < 16) (lowSmall : lowValue < 16) :
    (UInt8.ofNat (16 * highValue + lowValue)).toNat / 16 = highValue ∧
      (UInt8.ofNat (16 * highValue + lowValue)).toNat % 16 = lowValue := by
  have bound : 16 * highValue + lowValue < 2 ^ 8 := by omega
  rw [UInt8.toNat_ofNat', Nat.mod_eq_of_lt bound]
  omega

theorem readPairs_eq_ok_iff {position : Nat} {text bytes : List UInt8} :
    readPairs position text = .ok bytes ↔ Spells bytes (text.map asChar) := by
  induction position, text using readPairs.induct generalizing bytes with
  | case1 position =>
      rw [readPairs, List.map_nil, Except.ok.injEq]
      constructor
      · rintro rfl
        exact .nil
      · intro spells
        cases spells
        rfl
  | case2 position byte =>
      rw [readPairs]
      constructor
      · intro refused
        cases refused
      · intro spells
        cases spells
  | case3 position high low rest inductionHypothesis =>
      rw [readPairs_cons_eq_ok_iff, List.map_cons, List.map_cons]
      simp only [readDigit_eq_ok_iff, inductionHypothesis]
      constructor
      · rintro ⟨highValue, lowValue, others, ⟨highSmall, highDigit⟩,
          ⟨lowSmall, lowDigit⟩, spells, rfl⟩
        obtain ⟨highHalf, lowHalf⟩ := halves_ofNat highSmall lowSmall
        exact .cons (by rwa [highHalf]) (by rwa [lowHalf]) spells
      · rintro (_ | @⟨byte, _, _, others, _, highDigit, lowDigit, spells⟩)
        have size := byte.toNat_lt
        refine ⟨byte.toNat / 16, byte.toNat % 16, others, ⟨by omega, highDigit⟩,
          ⟨by omega, lowDigit⟩, spells, ?_⟩
        rw [Nat.div_add_mod, UInt8.ofNat_toNat]

/-- Just the digits of bytes are read, and their number is even. -/
theorem decode_eq_ok_iff {text bytes : List UInt8} :
    decode text = .ok bytes ↔ Spells bytes (text.map asChar) := by
  rw [decode]
  split_ifs with even
  · exact readPairs_eq_ok_iff
  · constructor
    · intro refused
      cases refused
    · intro spells
      have length := spells.length_eq
      rw [List.length_map] at length
      omega

/-- A character beyond ASCII has a byte that is no digit. -/
theorem spells_encode_iff {bytes : List UInt8} {text : List Char} :
    Spells bytes ((Utf8.encode text).map asChar) ↔ Spells bytes text := by
  have ascii {digits : List Char} (spells : Spells bytes digits) :
      ∀ c ∈ digits, c.toNat < 0x80 := by
    intro c member
    obtain ⟨value, small, digit⟩ := spells.exists_isDigit c member
    exact digit.ascii small
  have kept (ascii : ∀ c ∈ text, c.toNat < 0x80) :
      (Utf8.encode text).map asChar = text := by
    rw [Utf8.encode_of_ascii ascii, List.map_map]
    refine (List.map_congr_left fun c member => ?_).trans (List.map_id _)
    apply Char.toNat_inj.mp
    have bound := ascii c member
    rw [Function.comp_apply, toNat_asChar, UInt8.toNat_ofNat', id]
    omega
  constructor
  · intro spells
    have bytesAscii : ∀ byte ∈ Utf8.encode text, byte.toNat < 0x80 := by
      intro byte member
      rw [← toNat_asChar]
      exact ascii spells _ (List.mem_map_of_mem member)
    rwa [kept (Utf8.ascii_of_encode bytesAscii)] at spells
  · intro spells
    rwa [kept (ascii spells)]

end Hex

/-! ## Reading payloads -/

namespace Payload

/-- A text without its white space. -/
def bare (text : List Char) : List Char :=
  text.filter fun c => c ∉ Text.whiteSpace

/-- Digits, as they are or with a mark in front. -/
def Marked (digits text : List Char) : Prop :=
  text = digits ∨ text = '0' :: 'x' :: digits

/-- White space put in anywhere among characters. -/
inductive Spaced : List Char → List Char → Prop
  | nil : Spaced [] []
  | char (c : Char) {chars text : List Char} (rest : Spaced chars text) :
      Spaced (c :: chars) (c :: text)
  | blank {c : Char} {chars text : List Char} (blank : c ∈ Text.whiteSpace)
      (rest : Spaced chars text) : Spaced chars (c :: text)

theorem Spaced.bare_eq {chars text : List Char} (spaced : Spaced chars text) :
    bare text = bare chars := by
  induction spaced with
  | nil => rfl
  | char c _ inductionHypothesis =>
      rw [bare, bare] at inductionHypothesis ⊢
      rw [List.filter_cons, List.filter_cons, inductionHypothesis]
  | blank blank _ inductionHypothesis =>
      rw [bare, List.filter_cons_of_neg (by simpa using blank)]
      exact inductionHypothesis

theorem digitsOf_eq (text : List Char) : digitsOf text = withoutMark (bare text) := by
  have same (c : Char) : (!Text.isBlank c) = decide (c ∉ Text.whiteSpace) := by
    rw [Bool.eq_iff_iff]
    simp [← Text.isBlank_iff]
  rw [digitsOf, bare, funext same]

/-- A mark is no digits, so that only one that is there can be dropped. -/
theorem spells_withoutMark_iff {bytes : List UInt8} {text : List Char} :
    Hex.Spells bytes (withoutMark text) ↔
      ∃ digits, Hex.Spells bytes digits ∧ Marked digits text := by
  rw [withoutMark.eq_def]
  split
  next rest =>
    constructor
    · exact fun spells => ⟨rest, spells, .inr rfl⟩
    · rintro ⟨digits, spells, rfl | same⟩
      · obtain ⟨value, small, digit⟩ := spells.exists_isDigit 'x' (by simp)
        exact absurd rfl (digit.ne_mark small)
      · rw [List.cons.injEq, List.cons.injEq] at same
        rwa [same.2.2]
  next unmarked =>
    constructor
    · exact fun spells => ⟨text, spells, .inl rfl⟩
    · rintro ⟨digits, spells, rfl | same⟩
      · exact spells
      · exact absurd same (unmarked digits)

theorem bare_of_marked {bytes : List UInt8} {digits chars : List Char}
    (spells : Hex.Spells bytes digits) (marked : Marked digits chars) :
    bare chars = chars := by
  have solid : ∀ c ∈ digits, c ∉ Text.whiteSpace := by
    intro c member
    obtain ⟨value, small, digit⟩ := spells.exists_isDigit c member
    exact digit.not_whiteSpace small
  refine List.filter_eq_self.mpr fun c member => decide_eq_true ?_
  rcases marked with rfl | rfl
  · exact solid c member
  · rcases List.mem_cons.mp member with rfl | member
    · decide
    rcases List.mem_cons.mp member with rfl | member
    · decide
    exact solid c member

/-- A text is read as bytes exactly if the digits of these bytes are left of it
once its white space and then one mark in front are out.  So white space may
stand anywhere, also between the digits of a byte and inside the mark. -/
theorem read_eq_ok_iff_spells (text : String) (bytes : List UInt8) :
    (read text = .ok bytes ↔
      ∃ digits, Hex.Spells bytes digits ∧ Marked digits (bare text.toList)) ∧
      ∀ digits chars, Hex.Spells bytes digits → Marked digits chars →
        Spaced chars text.toList → read text = .ok bytes := by
  have accepts :
      read text = .ok bytes ↔
        ∃ digits, Hex.Spells bytes digits ∧ Marked digits (bare text.toList) := by
    rw [read, Hex.decode_eq_ok_iff, Hex.spells_encode_iff, digitsOf_eq,
      spells_withoutMark_iff]
  refine ⟨accepts, fun digits chars spells marked spaced => ?_⟩
  refine accepts.mpr ⟨digits, spells, ?_⟩
  rwa [spaced.bare_eq, bare_of_marked spells marked]

theorem read_eq_ok_iff_spells_spacedMark :
    ∃ digits chars,
      Hex.Spells [0x00, 0x2A, 0xFF] digits ∧ Marked digits chars ∧
        Spaced chars "0\u2003x 00 2\u3000A\nfF".toList ∧
        read "0\u2003x 00 2\u3000A\nfF" = .ok [0x00, 0x2A, 0xFF] := by
  have spells : Hex.Spells [0x00, 0x2A, 0xFF] ['0', '0', '2', 'A', 'f', 'F'] :=
    .cons (.inl rfl) (.inl rfl) <| .cons (.inl rfl) (.inr rfl) <|
      .cons (.inl rfl) (.inr rfl) .nil
  have marked :
      Marked ['0', '0', '2', 'A', 'f', 'F']
        ['0', 'x', '0', '0', '2', 'A', 'f', 'F'] :=
    .inr rfl
  have spaced :
      Spaced ['0', 'x', '0', '0', '2', 'A', 'f', 'F']
        "0\u2003x 00 2\u3000A\nfF".toList :=
    .char '0' <| .blank (by decide) <| .char 'x' <| .blank (by decide) <|
      .char '0' <| .char '0' <| .blank (by decide) <| .char '2' <|
      .blank (by decide) <| .char 'A' <| .blank (by decide) <| .char 'f' <|
      .char 'F' .nil
  exact ⟨_, _, spells, marked, spaced,
    (read_eq_ok_iff_spells _ _).2 _ _ spells marked spaced⟩

end Payload

end MethodCodec
