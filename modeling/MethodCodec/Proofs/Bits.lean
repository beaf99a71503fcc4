import Mathlib
import MethodCodec.Wire.Bits

/-!
# Packed flags

A byte unpacks to exactly eight flags, and packed flags unpack to themselves
followed by unset flags up to a whole byte.  Unpacking is injective, so bytes
can be compared by their flags, and are what their flags pack to.
-/

namespace MethodCodec.Bits

/-! ## One byte -/

@[simp]
theorem length_unpack (byte : UInt8) :
    (unpack byte).length = 8 := by
  simp [unpack, perByte]

theorem testBit_toNat (flags : List Bool) (position : Nat) :
    (toNat flags).testBit position = flags.getD position false := by
  induction flags generalizing position with
  | nil =>
      simp [toNat]
  | cons flag rest inductionHypothesis =>
      cases position with
      | zero =>
          cases flag <;> simp [toNat, Nat.testBit_zero]
      | succ position =>
          have halved : (flag.toNat + 2 * toNat rest) / 2 = toNat rest := by
            have := Bool.toNat_lt flag
            omega
          rw [toNat, Nat.testBit_add_one, halved, inductionHypothesis]
          simp

theorem toNat_lt_of_length_le
    {flags : List Bool} (short : flags.length ≤ 8) :
    toNat flags < 256 := by
  apply Nat.lt_pow_two_of_testBit (n := 8)
  intro position beyond
  rw [testBit_toNat]
  exact List.getD_eq_default _ _ (by omega)

theorem getElem?_unpack {byte : UInt8} {position : Nat}
    (inside : position < 8) :
    (unpack byte)[position]? = some (byte.toNat.testBit position) := by
  simp [unpack, perByte, inside]

/-- A byte made of at most eight flags shows them again, and then unset
flags. -/
theorem unpack_ofNat_toNat
    {flags : List Bool} (short : flags.length ≤ 8) :
    unpack (UInt8.ofNat (toNat flags)) =
      flags ++ List.replicate (8 - flags.length) false := by
  apply List.ext_getElem?
  intro position
  by_cases inside : position < 8
  · rw [getElem?_unpack inside,
      UInt8.toNat_ofNat_of_lt' (toNat_lt_of_length_le short),
      testBit_toNat]
    by_cases given : position < flags.length
    · rw [List.getElem?_append_left given]
      simp [given]
    · have padded : position - flags.length < 8 - flags.length := by
        omega
      rw [List.getElem?_append_right (by omega),
        List.getElem?_replicate_of_lt padded,
        List.getD_eq_default _ _ (by omega)]
  · rw [List.getElem?_eq_none (by simpa using inside),
      List.getElem?_eq_none (by simp; omega)]

theorem unpack_injective {left right : UInt8}
    (equality : unpack left = unpack right) :
    left = right := by
  apply UInt8.toNat_inj.mp
  apply Nat.eq_of_testBit_eq
  intro position
  by_cases inside : position < 8
  · have same := congrArg (fun flags => flags[position]?) equality
    simpa [getElem?_unpack inside] using same
  · have wide : 256 ≤ 2 ^ position := by
      simpa using Nat.pow_le_pow_right (n := 2) (by omega)
        (show 8 ≤ position by omega)
    rw [Nat.testBit_lt_two_pow (Nat.lt_of_lt_of_le left.toNat_lt wide),
      Nat.testBit_lt_two_pow (Nat.lt_of_lt_of_le right.toNat_lt wide)]

/-! ## Chunks -/

section Chunks

variable {α : Type}

@[simp]
theorem chunks_nil : chunks ([] : List α) = [] := by
  rw [chunks]

theorem chunks_of_ne_nil {items : List α} (nonempty : items ≠ []) :
    chunks items = items.take 8 :: chunks (items.drop 8) := by
  cases items with
  | nil =>
      exact absurd rfl nonempty
  | cons first rest =>
      rw [chunks, perByte]

theorem chunks_of_length_le
    {items : List α} (nonempty : items ≠ []) (short : items.length ≤ 8) :
    chunks items = [items] := by
  rw [chunks_of_ne_nil nonempty, List.take_of_length_le short,
    List.drop_eq_nil_of_le short, chunks_nil]

/-- What holds of no items, and of some items if it holds of those behind the
first eight, holds of all lists. -/
theorem chunks_induction
    {motive : List α → Prop} (nil : motive [])
    (step : ∀ items, items ≠ [] → motive (items.drop 8) → motive items)
    (items : List α) :
    motive items := by
  induction hlength : items.length using Nat.strongRecOn generalizing items with
  | ind count inductionHypothesis =>
      subst hlength
      by_cases empty : items = []
      · rwa [empty]
      · have positive := List.length_pos_iff.mpr empty
        have shorter : (items.drop 8).length < items.length := by
          rw [List.length_drop]
          omega
        exact step items empty (inductionHypothesis _ shorter _ rfl)

/-- Chunks leave out no item. -/
theorem flatten_chunks (items : List α) : (chunks items).flatten = items := by
  induction items using chunks_induction with
  | nil => rw [chunks_nil, List.flatten_nil]
  | step items nonempty inductionHypothesis =>
      rw [chunks_of_ne_nil nonempty, List.flatten_cons, inductionHypothesis,
        List.take_append_drop]

theorem length_chunks (items : List α) :
    (chunks items).length = byteCount items.length := by
  induction items using chunks_induction with
  | nil => simp [byteCount, perByte]
  | step items nonempty inductionHypothesis =>
      have positive := List.length_pos_iff.mpr nonempty
      rw [chunks_of_ne_nil nonempty, List.length_cons, inductionHypothesis,
        List.length_drop]
      simp only [byteCount, perByte]
      omega

theorem length_le_of_mem_chunks
    {items chunk : List α} (member : chunk ∈ chunks items) :
    chunk.length ≤ 8 := by
  induction items using chunks_induction with
  | nil => simp at member
  | step items nonempty inductionHypothesis =>
      rw [chunks_of_ne_nil nonempty, List.mem_cons] at member
      rcases member with rfl | later
      · exact List.length_take_le 8 items
      · exact inductionHypothesis later

end Chunks

/-! ## Many bytes -/

@[simp]
theorem pack_nil : pack [] = [] := by
  simp [pack]

theorem pack_of_ne_nil {flags : List Bool} (nonempty : flags ≠ []) :
    pack flags =
      UInt8.ofNat (toNat (flags.take 8)) :: pack (flags.drop 8) := by
  simp [pack, chunks_of_ne_nil nonempty]

theorem length_flatMap_unpack (bytes : List UInt8) :
    (bytes.flatMap unpack).length = 8 * bytes.length := by
  induction bytes with
  | nil =>
      rfl
  | cons byte rest inductionHypothesis =>
      simp only [List.flatMap_cons, List.length_append, length_unpack,
        inductionHypothesis, List.length_cons]
      omega

theorem flatMap_unpack_injective {left right : List UInt8}
    (equality : left.flatMap unpack = right.flatMap unpack) :
    left = right := by
  induction left generalizing right with
  | nil =>
      have empty := congrArg List.length equality
      simp only [length_flatMap_unpack, List.length_nil] at empty
      exact (List.eq_nil_of_length_eq_zero (by omega)).symm
  | cons byte rest inductionHypothesis =>
      cases right with
      | nil =>
          have empty := congrArg List.length equality
          simp at empty
      | cons other others =>
          simp only [List.flatMap_cons] at equality
          obtain ⟨heads, tails⟩ :=
            List.append_inj equality (by simp)
          rw [unpack_injective heads, inductionHypothesis tails]

/-- Packed flags unpack to themselves and unset flags up to a whole byte. -/
theorem flatMap_unpack_pack (flags : List Bool) :
    (pack flags).flatMap unpack =
      flags ++
        List.replicate (8 * byteCount flags.length - flags.length) false := by
  induction flags using chunks_induction with
  | nil => simp [byteCount, perByte]
  | step flags nonempty inductionHypothesis =>
      have positive := List.length_pos_iff.mpr nonempty
      rw [pack_of_ne_nil nonempty, List.flatMap_cons,
        unpack_ofNat_toNat (List.length_take_le 8 flags), inductionHypothesis]
      by_cases long : 8 ≤ flags.length
      · have padding :
            8 * byteCount (flags.drop 8).length - (flags.drop 8).length =
              8 * byteCount flags.length - flags.length := by
          simp only [byteCount, perByte, List.length_drop]
          omega
        have full : 8 - (flags.take 8).length = 0 := by
          rw [List.length_take_of_le long]
        rw [padding, full, List.replicate_zero, List.append_nil,
          ← List.append_assoc, List.take_append_drop]
      · have padding :
            8 - flags.length =
              8 * byteCount flags.length - flags.length := by
          simp only [byteCount, perByte]
          omega
        rw [List.take_of_length_le (by omega),
          List.drop_eq_nil_of_le (by omega), padding]
        simp [byteCount, perByte]

@[simp]
theorem length_pack (flags : List Bool) :
    (pack flags).length = byteCount flags.length := by
  rw [pack, List.length_map, length_chunks]

theorem byteCount_eq_ceilDiv (count : Nat) : byteCount count = count ⌈/⌉ 8 := by
  rw [Nat.ceilDiv_eq_add_pred_div, byteCount, perByte]
  rfl

theorem pack_flatMap_unpack (bytes : List UInt8) :
    pack (bytes.flatMap unpack) = bytes := by
  have aligned : byteCount (8 * bytes.length) = bytes.length := by
    simp only [byteCount, perByte]
    omega
  apply flatMap_unpack_injective
  rw [flatMap_unpack_pack, length_flatMap_unpack, aligned, Nat.sub_self,
    List.replicate_zero, List.append_nil]

theorem getElem?_flatMap_unpack (bytes : List UInt8) (position : Nat) :
    (bytes.flatMap unpack)[position]? =
      bytes[position / 8]?.map fun byte => byte.toNat.testBit (position % 8) := by
  induction bytes generalizing position with
  | nil =>
      rfl
  | cons byte rest inductionHypothesis =>
      rw [List.flatMap_cons]
      by_cases inside : position < 8
      · rw [List.getElem?_append_left (by simpa using inside),
          getElem?_unpack inside, Nat.div_eq_of_lt inside,
          Nat.mod_eq_of_lt inside]
        rfl
      · obtain ⟨offset, rfl⟩ := Nat.exists_eq_add_of_le (Nat.le_of_not_lt inside)
        rw [List.getElem?_append_right (by simp), length_unpack,
          Nat.add_sub_cancel_left, inductionHypothesis, Nat.add_mod_left,
          Nat.add_div_left _ (by decide), List.getElem?_cons_succ]

/-- Each flag is a bit of the byte that its position falls into. -/
theorem testBit_pack (flags : List Bool) (position : Nat) :
    ((pack flags).getD (position / 8) 0).toNat.testBit (position % 8) =
      flags.getD position false := by
  have fromBytes :
      ((pack flags).getD (position / 8) 0).toNat.testBit (position % 8) =
        ((pack flags).flatMap unpack).getD position false := by
    rw [List.getD_eq_getElem?_getD, List.getD_eq_getElem?_getD,
      getElem?_flatMap_unpack]
    cases (pack flags)[position / 8]? <;> simp
  rw [fromBytes, flatMap_unpack_pack]
  by_cases given : position < flags.length
  · exact List.getD_append _ _ _ _ given
  · have beyond := Nat.le_of_not_lt given
    rw [List.getD_append_right _ _ _ _ beyond, List.getD_eq_getElem?_getD,
      List.getElem?_getD_replicate_default_eq, List.getD_eq_default _ _ beyond]

/-- Flags take one byte for every eight that are started, the first of eight in
the lowest bit, and unpack to themselves and then unset flags up to a whole byte.
All bytes are what their flags pack to. -/
theorem pack_unpack_inverse :
    (∀ flags : List Bool,
      (pack flags).length = flags.length ⌈/⌉ 8 ∧
        (pack flags).flatMap unpack =
          flags.rightpad (8 * (flags.length ⌈/⌉ 8)) false ∧
        ∀ position,
          ((pack flags).getD (position / 8) 0).toNat.testBit (position % 8) =
            flags.getD position false) ∧
      ∀ bytes : List UInt8, pack (bytes.flatMap unpack) = bytes := by
  refine ⟨fun flags => ⟨?_, ?_, testBit_pack flags⟩, pack_flatMap_unpack⟩
  · rw [length_pack, byteCount_eq_ceilDiv]
  · rw [flatMap_unpack_pack, byteCount_eq_ceilDiv, List.rightpad]

/-- The ninth flag begins a byte of its own. -/
example : pack (List.replicate 9 true) = [255, 1] := by
  cbv

end MethodCodec.Bits
