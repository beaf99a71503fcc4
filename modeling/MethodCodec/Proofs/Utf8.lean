import Mathlib
import MethodCodec.Wire.Value

/-!
# Written text and its repair

Writing agrees with the UTF-8 of the standard library, and reading with repair
gives written text back.  So repair leaves the bytes of a body as they are
exactly when the body is valid UTF-8.
-/

namespace MethodCodec.Utf8

theorem code_valid (c : Char) :
    c.toNat < 0xD800 ∨ 0xDFFF < c.toNat ∧ c.toNat < 0x110000 :=
  c.valid

theorem toNat_ofNat_of_valid {code : Nat} (valid : code.isValidChar) :
    (Char.ofNat code).toNat = code := by
  rw [Char.ofNat, dif_pos valid]
  rfl

/-! ## Agreement with the standard library -/

theorem encodeChar_eq_utf8EncodeChar (c : Char) :
    encodeChar c = String.utf8EncodeChar c := by
  have valid := code_valid c
  simp only [encodeChar, String.utf8EncodeChar, Char.toNat_val]
  have trail : 0x80 + c.toNat % 64 = c.toNat % 0x40 + 0x80 := by
    omega
  have middle : 0x80 + c.toNat / 64 % 64 = c.toNat / 64 % 0x40 + 0x80 := by
    omega
  by_cases one : c.toNat < 0x80
  · rw [if_pos one, if_pos (show c.toNat ≤ 0x7F by omega)]
  · rw [if_neg one, if_neg (show ¬ c.toNat ≤ 0x7F by omega)]
    by_cases two : c.toNat < 0x800
    · have lead : 0xC0 + c.toNat / 64 = c.toNat / 64 % 0x20 + 0xC0 := by
        omega
      rw [if_pos two, if_pos (show c.toNat ≤ 0x7FF by omega), lead, trail]
    · rw [if_neg two, if_neg (show ¬ c.toNat ≤ 0x7FF by omega)]
      by_cases three : c.toNat < 0x10000
      · have lead : 0xE0 + c.toNat / 4096 = c.toNat / 4096 % 0x10 + 0xE0 := by
          omega
        rw [if_pos three, if_pos (show c.toNat ≤ 0xFFFF by omega),
          lead, middle, trail]
      · have lead :
            0xF0 + c.toNat / 262144 = c.toNat / 262144 % 0x08 + 0xF0 := by
          omega
        have second :
            0x80 + c.toNat / 4096 % 64 = c.toNat / 4096 % 0x40 + 0x80 := by
          omega
        rw [if_neg three, if_neg (show ¬ c.toNat ≤ 0xFFFF by omega),
          lead, second, middle, trail]

theorem toByteArray_encode (text : List Char) :
    (encode text).toByteArray = text.utf8Encode := by
  simp only [encode, List.utf8Encode, funext encodeChar_eq_utf8EncodeChar]

/-- The bytes of a string are those that the standard library keeps for it. -/
theorem bytes_eq_toUTF8 (text : String) :
    bytes text = text.toUTF8.data.toList := by
  have stored : text.toUTF8 = (bytes text).toByteArray := by
    rw [bytes, toByteArray_encode, ← String.toByteArray_ofList,
      String.ofList_toList, String.toUTF8_eq_toByteArray]
  rw [stored, List.toList_data_toByteArray]

/-! ## ASCII -/

theorem encodeChar_of_ascii {c : Char} (ascii : c.toNat < 0x80) :
    encodeChar c = [UInt8.ofNat c.toNat] := by
  rw [encodeChar, if_pos ascii]

/-- A character beyond ASCII has a byte beyond it. -/
theorem exists_mem_encodeChar {c : Char} (beyond : ¬ c.toNat < 0x80) :
    ∃ byte ∈ encodeChar c, ¬ byte.toNat < 0x80 := by
  have valid := code_valid c
  rw [encodeChar, if_neg beyond]
  split_ifs
  all_goals
    refine ⟨_, List.mem_cons_self, ?_⟩
    rw [UInt8.toNat_ofNat']
    omega

theorem ascii_of_encode {text : List Char}
    (ascii : ∀ byte ∈ encode text, byte.toNat < 0x80) :
    ∀ c ∈ text, c.toNat < 0x80 := by
  intro c member
  by_contra beyond
  obtain ⟨byte, inside, far⟩ := exists_mem_encodeChar beyond
  exact far (ascii byte (List.mem_flatMap.mpr ⟨c, member, inside⟩))

theorem encode_of_ascii {text : List Char} (ascii : ∀ c ∈ text, c.toNat < 0x80) :
    encode text = text.map fun c => UInt8.ofNat c.toNat := by
  rw [encode, ← List.flatMap_pure_eq_map]
  exact List.flatMap_congr fun c member => encodeChar_of_ascii (ascii c member)

/-! ## Reading one character -/

theorem isContinuation_iff {byte : UInt8} :
    isContinuation byte = true ↔ 0x80 ≤ byte.toNat ∧ byte.toNat ≤ 0xBF := by
  simp [isContinuation, UInt8.le_iff_toNat_le]

theorem followsThree_iff {first second : UInt8} :
    followsThree first second = true ↔
      isContinuation second = true ∧
        (first.toNat = 0xE0 → 0xA0 ≤ second.toNat) ∧
        (first.toNat = 0xED → second.toNat ≤ 0x9F) := by
  simp only [followsThree, isContinuation_iff, ← UInt8.toNat_inj]
  split_ifs with overlong surrogate
  all_goals
    simp_all [UInt8.le_iff_toNat_le, isContinuation_iff]
    try omega

theorem followsFour_iff {first second : UInt8} :
    followsFour first second = true ↔
      isContinuation second = true ∧
        (first.toNat = 0xF0 → 0x90 ≤ second.toNat) ∧
        (first.toNat = 0xF4 → second.toNat ≤ 0x8F) := by
  simp only [followsFour, isContinuation_iff, ← UInt8.toNat_inj]
  split_ifs with overlong beyond
  all_goals
    simp_all [UInt8.le_iff_toNat_le, isContinuation_iff]
    try omega

theorem step_one {first : UInt8} (ascii : first.toNat < 0x80)
    (rest : List UInt8) :
    step first rest = (some (Char.ofNat first.toNat), rest) := by
  have low : first < 0x80 := UInt8.lt_iff_toNat_lt.mpr ascii
  unfold step
  rw [if_pos low]

/-- Reads on if the next byte can follow, and gives up in front of it otherwise. -/
def withNext (follows : UInt8 → Bool) (rest : List UInt8)
    (read : UInt8 → List UInt8 → Option Char × List UInt8) :
    Option Char × List UInt8 :=
  match rest with
  | next :: others => if follows next then read next others else (none, rest)
  | [] => (none, rest)

theorem withNext_cons {follows : UInt8 → Bool} {next : UInt8}
    (fits : follows next = true) (others : List UInt8)
    (read : UInt8 → List UInt8 → Option Char × List UInt8) :
    withNext follows (next :: others) read = read next others :=
  if_pos fits

/-- The first byte of a two-byte character. -/
theorem step_leadTwo {first : UInt8}
    (lower : 0xC2 ≤ first.toNat) (upper : first.toNat ≤ 0xDF)
    (rest : List UInt8) :
    step first rest =
      withNext isContinuation rest fun second rest₂ =>
        (some (Char.ofNat (first.toNat % 32 * 64 + second.toNat % 64)), rest₂) := by
  have notOne : ¬ first < 0x80 := by
    rw [UInt8.lt_iff_toNat_lt]
    simp
    omega
  have two : (0xC2 ≤ first && first ≤ 0xDF) = true := by
    simp [UInt8.le_iff_toNat_le, lower, upper]
  unfold step
  rw [if_neg notOne, if_pos two]
  rfl

/-- The first byte of a three-byte character. -/
theorem step_leadThree {first : UInt8}
    (lower : 0xE0 ≤ first.toNat) (upper : first.toNat ≤ 0xEF)
    (rest : List UInt8) :
    step first rest =
      withNext (followsThree first) rest fun second rest₂ =>
        withNext isContinuation rest₂ fun third rest₃ =>
          (some (Char.ofNat
            (first.toNat % 16 * 4096 + second.toNat % 64 * 64
              + third.toNat % 64)), rest₃) := by
  have notOne : ¬ first < 0x80 := by
    rw [UInt8.lt_iff_toNat_lt]
    simp
    omega
  have notTwo : ¬ (0xC2 ≤ first && first ≤ 0xDF) = true := by
    simp [UInt8.le_iff_toNat_le]
    omega
  have three : (0xE0 ≤ first && first ≤ 0xEF) = true := by
    simp [UInt8.le_iff_toNat_le, lower, upper]
  unfold step
  rw [if_neg notOne, if_neg notTwo, if_pos three]
  rfl

/-- The first byte of a four-byte character. -/
theorem step_leadFour {first : UInt8}
    (lower : 0xF0 ≤ first.toNat) (upper : first.toNat ≤ 0xF4)
    (rest : List UInt8) :
    step first rest =
      withNext (followsFour first) rest fun second rest₂ =>
        withNext isContinuation rest₂ fun third rest₃ =>
          withNext isContinuation rest₃ fun fourth rest₄ =>
            (some (Char.ofNat
              (first.toNat % 8 * 262144 + second.toNat % 64 * 4096
                + third.toNat % 64 * 64 + fourth.toNat % 64)), rest₄) := by
  have notOne : ¬ first < 0x80 := by
    rw [UInt8.lt_iff_toNat_lt]
    simp
    omega
  have notTwo : ¬ (0xC2 ≤ first && first ≤ 0xDF) = true := by
    simp [UInt8.le_iff_toNat_le]
    omega
  have notThree : ¬ (0xE0 ≤ first && first ≤ 0xEF) = true := by
    simp [UInt8.le_iff_toNat_le]
    omega
  have four : (0xF0 ≤ first && first ≤ 0xF4) = true := by
    simp [UInt8.le_iff_toNat_le, lower, upper]
  unfold step
  rw [if_neg notOne, if_neg notTwo, if_neg notThree, if_pos four]
  rfl

theorem step_two {first second : UInt8}
    (lower : 0xC2 ≤ first.toNat) (upper : first.toNat ≤ 0xDF)
    (follows : isContinuation second = true) (rest : List UInt8) :
    step first (second :: rest) =
      (some (Char.ofNat (first.toNat % 32 * 64 + second.toNat % 64)), rest) := by
  rw [step_leadTwo lower upper, withNext_cons follows]

theorem step_three {first second third : UInt8}
    (lower : 0xE0 ≤ first.toNat) (upper : first.toNat ≤ 0xEF)
    (follows : followsThree first second = true)
    (last : isContinuation third = true) (rest : List UInt8) :
    step first (second :: third :: rest) =
      (some (Char.ofNat
        (first.toNat % 16 * 4096 + second.toNat % 64 * 64
          + third.toNat % 64)), rest) := by
  rw [step_leadThree lower upper, withNext_cons follows, withNext_cons last]

theorem step_four {first second third fourth : UInt8}
    (lower : 0xF0 ≤ first.toNat) (upper : first.toNat ≤ 0xF4)
    (follows : followsFour first second = true)
    (next : isContinuation third = true)
    (last : isContinuation fourth = true) (rest : List UInt8) :
    step first (second :: third :: fourth :: rest) =
      (some (Char.ofNat
        (first.toNat % 8 * 262144 + second.toNat % 64 * 4096
          + third.toNat % 64 * 64 + fourth.toNat % 64)), rest) := by
  rw [step_leadFour lower upper, withNext_cons follows, withNext_cons next,
    withNext_cons last]

/-! ## Reading what was written -/

theorem toNat_trail (bits : Nat) :
    (UInt8.ofNat (0x80 + bits % 64)).toNat = 0x80 + bits % 64 := by
  apply UInt8.toNat_ofNat_of_lt'
  have : bits % 64 < 64 := Nat.mod_lt bits (by decide)
  simp only [UInt8.size]
  omega

theorem isContinuation_trail (bits : Nat) :
    isContinuation (UInt8.ofNat (0x80 + bits % 64)) = true := by
  rw [isContinuation_iff, toNat_trail]
  omega

/-- The bytes of a character are read as that character, whatever follows. -/
theorem step_encodeChar (c : Char) (rest : List UInt8) :
    ∃ first tail,
      encodeChar c = first :: tail ∧
        step first (tail ++ rest) = (some c, rest) := by
  have valid := code_valid c
  have restored {code : Nat} (equality : code = c.toNat) :
      (some (Char.ofNat code), rest) = (some c, rest) := by
    rw [equality, Char.ofNat_toNat]
  by_cases one : c.toNat < 0x80
  · have lead : (UInt8.ofNat c.toNat).toNat = c.toNat :=
      UInt8.toNat_ofNat_of_lt' (by simp only [UInt8.size]; omega)
    refine ⟨_, _, by simp only [encodeChar, if_pos one]; rfl, ?_⟩
    rw [List.nil_append, step_one (by omega)]
    exact restored lead
  · by_cases two : c.toNat < 0x800
    · have lead :
          (UInt8.ofNat (0xC0 + c.toNat / 64)).toNat = 0xC0 + c.toNat / 64 :=
        UInt8.toNat_ofNat_of_lt' (by simp only [UInt8.size]; omega)
      refine ⟨_, _, by simp only [encodeChar, if_neg one, if_pos two]; rfl,
        ?_⟩
      simp only [List.cons_append, List.nil_append]
      rw [step_two (by omega) (by omega) (isContinuation_trail _)]
      apply restored
      rw [lead, toNat_trail]
      omega
    · by_cases three : c.toNat < 0x10000
      · have lead :
            (UInt8.ofNat (0xE0 + c.toNat / 4096)).toNat =
              0xE0 + c.toNat / 4096 :=
          UInt8.toNat_ofNat_of_lt' (by simp only [UInt8.size]; omega)
        -- Neither an overlong form nor a surrogate can arise from a character.
        have follows :
            followsThree (UInt8.ofNat (0xE0 + c.toNat / 4096))
              (UInt8.ofNat (0x80 + c.toNat / 64 % 64)) = true := by
          rw [followsThree_iff, lead, toNat_trail]
          exact ⟨isContinuation_trail _, by omega, by omega⟩
        refine ⟨_, _,
          by
            simp only [encodeChar, if_neg one, if_neg two, if_pos three]
            rfl, ?_⟩
        simp only [List.cons_append, List.nil_append]
        rw [step_three (by omega) (by omega) follows
          (isContinuation_trail _)]
        apply restored
        rw [lead, toNat_trail, toNat_trail]
        omega
      · have lead :
            (UInt8.ofNat (0xF0 + c.toNat / 262144)).toNat =
              0xF0 + c.toNat / 262144 :=
          UInt8.toNat_ofNat_of_lt' (by simp only [UInt8.size]; omega)
        have follows :
            followsFour (UInt8.ofNat (0xF0 + c.toNat / 262144))
              (UInt8.ofNat (0x80 + c.toNat / 4096 % 64)) = true := by
          rw [followsFour_iff, lead, toNat_trail]
          exact ⟨isContinuation_trail _, by omega, by omega⟩
        refine ⟨_, _,
          by
            simp only [encodeChar, if_neg one, if_neg two, if_neg three]
            rfl, ?_⟩
        simp only [List.cons_append, List.nil_append]
        rw [step_four (by omega) (by omega) follows
          (isContinuation_trail _) (isContinuation_trail _)]
        apply restored
        rw [lead, toNat_trail, toNat_trail, toNat_trail]
        omega

/-- Text is not changed by writing and repair. -/
theorem decodeLossy_encode (text : List Char) :
    decodeLossy (encode text) = text := by
  induction text with
  | nil =>
      rw [encode, List.flatMap_nil, decodeLossy]
  | cons c rest inductionHypothesis =>
      obtain ⟨first, tail, written, read⟩ :=
        step_encodeChar c (encode rest)
      have split : encode (c :: rest) = first :: (tail ++ encode rest) := by
        rw [encode, List.flatMap_cons, written, List.cons_append]
        rfl
      rw [split, decodeLossy, read, inductionHypothesis]
      rfl

/-- Repair changes no byte exactly when there is nothing to repair. -/
theorem encode_decodeLossy_eq_iff (body : List UInt8) :
    encode (decodeLossy body) = body ↔ body.toByteArray.IsValidUTF8 := by
  constructor
  · intro unchanged
    exact ⟨decodeLossy body, by rw [← toByteArray_encode, unchanged]⟩
  · rintro ⟨text, written⟩
    have same : body = encode text := by
      rwa [← toByteArray_encode, List.toByteArray_inj] at written
    rw [same, decodeLossy_encode]

end MethodCodec.Utf8
