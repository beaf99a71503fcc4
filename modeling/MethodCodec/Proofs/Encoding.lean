import Mathlib
import MethodCodec.Proofs.Utf8

/-!
# The encoding of a single argument

The rules by which an argument other than a flag is written on its own,
stated on positional notation and on the standard library's UTF-8: integers in
big-endian order, bodies behind their length.  Reading and writing of values
follow these rules, and an encoding ends where its own bytes say it ends.
-/

namespace MethodCodec.Encoding

/-! ## Numbers -/

/-- The number that bytes spell in base 256, most significant byte first. -/
def number (bytes : List UInt8) : Nat :=
  Nat.ofDigits 256 (bytes.reverse.map UInt8.toNat)

/-- A number below `256 ^ width` in `width` bytes, most significant first. -/
def digits (width number : Nat) : List UInt8 :=
  ((Nat.digitsAppend 256 width number).map UInt8.ofNat).reverse

theorem number_cons (byte : UInt8) (rest : List UInt8) :
    number (byte :: rest) =
      byte.toNat * 256 ^ rest.length + number rest := by
  simp only [number, List.reverse_cons, List.map_append, List.map_cons,
    List.map_nil, Nat.ofDigits_append, Nat.ofDigits_singleton,
    List.length_map, List.length_reverse]
  ring

private theorem digit_lt
    {bytes : List UInt8} {digit : Nat}
    (member : digit ∈ bytes.map UInt8.toNat) :
    digit < 256 := by
  obtain ⟨byte, _, rfl⟩ := List.mem_map.mp member
  exact byte.toNat_lt

theorem number_lt (bytes : List UInt8) :
    number bytes < 256 ^ bytes.length := by
  have small : ∀ digit ∈ bytes.reverse.map UInt8.toNat, digit < 256 :=
    fun _ member => digit_lt member
  simpa [number] using Nat.ofDigits_lt_base_pow_length (by decide) small

theorem length_digits {width value : Nat} (fits : value < 256 ^ width) :
    (digits width value).length = width := by
  simpa [digits] using Nat.length_digitsAppend (by decide) width fits

theorem number_digits {width value : Nat} (fits : value < 256 ^ width) :
    number (digits width value) = value := by
  have restored :
      ((Nat.digitsAppend 256 width value).map UInt8.ofNat).map UInt8.toNat =
        Nat.digitsAppend 256 width value := by
    rw [List.map_map]
    refine (List.map_congr_left ?_).trans (List.map_id _)
    intro digit member
    exact UInt8.toNat_ofNat_of_lt'
      (Nat.lt_of_mem_digitsAppend (by decide) width digit member)
  rw [number, digits, List.reverse_reverse, restored]
  exact (Nat.setInvOn_digitsAppend_ofDigits (by decide) width).2 fits

theorem digits_number (bytes : List UInt8) :
    digits bytes.length (number bytes) = bytes := by
  have inRange :
      (bytes.reverse.map UInt8.toNat).length = bytes.length ∧
        ∀ digit ∈ bytes.reverse.map UInt8.toNat, digit < 256 :=
    ⟨by simp, fun _ member => digit_lt member⟩
  rw [digits, number,
    (Nat.setInvOn_digitsAppend_ofDigits (by decide) bytes.length).1 inRange,
    List.map_map]
  have restored : (UInt8.ofNat ∘ UInt8.toNat : UInt8 → UInt8) = id := by
    funext byte
    simp
  rw [restored, List.map_id, List.reverse_reverse]

/-! ## Reading numbers and bodies -/

/-- Reads a number of `width` bytes. -/
def readNumber? (width : Nat) (bytes : List UInt8) :
    Option (Nat × List UInt8) :=
  if width ≤ bytes.length then
    some (number (bytes.take width), bytes.drop width)
  else
    none

/-- Reads a body behind its length, a number of `width` bytes. -/
def readBody? (width : Nat) (bytes : List UInt8) :
    Option (List UInt8 × List UInt8) :=
  let length := number (bytes.take width)
  if width + length ≤ bytes.length then
    some ((bytes.drop width).take length, bytes.drop (width + length))
  else
    none

theorem readNumber?_eq_some_iff
    {width value : Nat} {bytes rest : List UInt8} :
    readNumber? width bytes = some (value, rest) ↔
      value < 256 ^ width ∧ bytes = digits width value ++ rest := by
  constructor
  · intro read
    by_cases enough : width ≤ bytes.length
    · simp only [readNumber?, if_pos enough, Option.some.injEq,
        Prod.mk.injEq] at read
      obtain ⟨rfl, rfl⟩ := read
      have taken : (bytes.take width).length = width :=
        List.length_take_of_le enough
      constructor
      · simpa [taken] using number_lt (bytes.take width)
      · have front := digits_number (bytes.take width)
        rw [taken] at front
        rw [front, List.take_append_drop]
    · simp [readNumber?, enough] at read
  · rintro ⟨fits, rfl⟩
    have width_eq := length_digits fits
    simp [readNumber?, width_eq, List.take_left' width_eq,
      List.drop_left' width_eq, number_digits fits]

theorem readBody?_eq_some_iff
    {width : Nat} {bytes body rest : List UInt8} :
    readBody? width bytes = some (body, rest) ↔
      body.length < 256 ^ width ∧
        bytes = digits width body.length ++ body ++ rest := by
  constructor
  · intro read
    by_cases enough : width + number (bytes.take width) ≤ bytes.length
    · simp only [readBody?, if_pos enough, Option.some.injEq,
        Prod.mk.injEq] at read
      obtain ⟨rfl, rfl⟩ := read
      have taken : (bytes.take width).length = width :=
        List.length_take_of_le (by omega)
      have bodyLength :
          ((bytes.drop width).take (number (bytes.take width))).length =
            number (bytes.take width) :=
        List.length_take_of_le (by simp; omega)
      rw [bodyLength]
      constructor
      · simpa [taken] using number_lt (bytes.take width)
      · have front := digits_number (bytes.take width)
        rw [taken] at front
        rw [front, List.append_assoc, ← List.drop_drop,
          List.take_append_drop, List.take_append_drop]
    · simp [readBody?, enough] at read
  · rintro ⟨fits, rfl⟩
    have width_eq := length_digits fits
    have front :
        (digits width body.length ++ body ++ rest).take width =
          digits width body.length := by
      rw [List.append_assoc, List.take_left' width_eq]
    simp only [readBody?, front, number_digits fits]
    rw [if_pos (by simp [width_eq])]
    simp [← List.drop_drop, List.drop_left' width_eq]

/-! ## Values -/

/-- Reads a value of a type other than `bit` by the rules of its encoding. -/
def read? (kind : WireType) (bytes : List UInt8) :
    Option (Value × List UInt8) :=
  match kind with
  | .octet =>
      (readNumber? 1 bytes).map fun (n, rest) => (.octet (.ofNat n), rest)
  | .short =>
      (readNumber? 2 bytes).map fun (n, rest) => (.short (.ofNat n), rest)
  | .long =>
      (readNumber? 4 bytes).map fun (n, rest) => (.long (.ofNat n), rest)
  | .longLong =>
      (readNumber? 8 bytes).map fun (n, rest) => (.longLong (.ofNat n), rest)
  | .timestamp =>
      (readNumber? 8 bytes).map fun (n, rest) => (.timestamp (.ofNat n), rest)
  | .shortString =>
      (readBody? 1 bytes).map fun (body, rest) =>
        (.shortString (Value.repaired body), rest)
  | .longString =>
      (readBody? 4 bytes).map fun (body, rest) =>
        (.longString (Value.repaired body), rest)
  | .table =>
      (readBody? 4 bytes).map fun (body, rest) => (.table body, rest)
  | .bit => none

/-- What the encoding of a value writes. -/
inductive Content
  | number (width value : Nat)
  /-- A body behind its length, a number of `width` bytes. -/
  | body (width : Nat) (bytes : List UInt8)
  /-- Flags are written with their run, not on their own. -/
  | flag

/-- The content of a value; text is written in UTF-8. -/
def content : Value → Content
  | .octet number => .number 1 number.toNat
  | .short number => .number 2 number.toNat
  | .long number => .number 4 number.toNat
  | .longLong number | .timestamp number => .number 8 number.toNat
  | .shortString text => .body 1 text.toUTF8.data.toList
  | .longString text => .body 4 text.toUTF8.data.toList
  | .table body => .body 4 body
  | .bit _ => .flag

/-- The encoding of a value on its own. -/
def bytes (value : Value) : List UInt8 :=
  match content value with
  | .number width number => digits width number
  | .body width body => digits width body.length ++ body
  | .flag => []

/-- The length of a body that is longer than its length can say: a short
string above 255 bytes, a long string or a table above `2 ^ 32 - 1`. -/
def overlong? (value : Value) : Option Nat :=
  match content value with
  | .body width body =>
      if body.length < 256 ^ width then none else some body.length
  | _ => none

/-- The bodies of text at the front of a payload: one for a string, none for
a value of another type. -/
def textBodies (kind : WireType) (bytes : List UInt8) : List (List UInt8) :=
  match kind with
  | .shortString => (readBody? 1 bytes).toList.map Prod.fst
  | .longString => (readBody? 4 bytes).toList.map Prod.fst
  | _ => []

theorem eq_bit_of_isFlag
    {kind : WireType} (flag : kind.isFlag = true) :
    kind = .bit := by
  cases kind <;> first | rfl | cases flag

theorem textBodies_of_flag
    {kind : WireType} (flag : kind.isFlag = true) (bytes : List UInt8) :
    textBodies kind bytes = [] := by
  rw [eq_bit_of_isFlag flag]
  rfl

/-! ## Agreement with reading and writing -/

theorem toNat_eq_number (bytes : List UInt8) :
    Bytes.toNat bytes = number bytes := by
  have horner (start : Nat) :
      bytes.foldl (fun number byte => number * 256 + byte.toNat) start =
        start * 256 ^ bytes.length + number bytes := by
    induction bytes generalizing start with
    | nil =>
        simp [number]
    | cons byte rest inductionHypothesis =>
        rw [List.foldl_cons, inductionHypothesis, number_cons,
          List.length_cons]
        ring
  rw [Bytes.toNat, horner, Nat.zero_mul, Nat.zero_add]

theorem capacity_eq (width : Nat) :
    Bytes.capacity width = 256 ^ width := by
  induction width with
  | zero =>
      rfl
  | succ width inductionHypothesis =>
      rw [Bytes.capacity, inductionHypothesis, Nat.pow_succ, Nat.mul_comm]

theorem length_bigEndian (width value : Nat) :
    (Bytes.bigEndian width value).length = width := by
  induction width with
  | zero =>
      rfl
  | succ width inductionHypothesis =>
      rw [Bytes.bigEndian, List.length_cons, inductionHypothesis]

theorem number_bigEndian (width value : Nat) :
    number (Bytes.bigEndian width value) = value % 256 ^ width := by
  induction width with
  | zero =>
      simp [Bytes.bigEndian, number, Nat.mod_one]
  | succ width inductionHypothesis =>
      rw [Bytes.bigEndian, number_cons, inductionHypothesis,
        length_bigEndian, capacity_eq, Nat.pow_succ, Nat.mod_mul]
      simp
      ring

theorem bigEndian_eq_digits
    {width value : Nat} (fits : value < 256 ^ width) :
    Bytes.bigEndian width value = digits width value := by
  have spelled := digits_number (Bytes.bigEndian width value)
  rw [length_bigEndian, number_bigEndian, Nat.mod_eq_of_lt fits] at spelled
  exact spelled.symm

theorem readNat?_eq (width : Nat) (bytes : List UInt8) :
    Bytes.readNat? width bytes = readNumber? width bytes := by
  by_cases enough : width ≤ bytes.length
  · simp [Bytes.readNat?, Bytes.take?, readNumber?, enough, toNat_eq_number]
  · simp [Bytes.readNat?, Bytes.take?, readNumber?, enough]

theorem bytesReadBody?_eq (width : Nat) (bytes : List UInt8) :
    Bytes.readBody? width bytes = readBody? width bytes := by
  rw [Bytes.readBody?, readNat?_eq]
  by_cases enough : width ≤ bytes.length
  · have sum_le_iff :
        width + number (bytes.take width) ≤ bytes.length ↔
          number (bytes.take width) ≤ (bytes.drop width).length := by
      rw [List.length_drop]
      omega
    simp only [readNumber?, if_pos enough, Bytes.take?, readBody?,
      sum_le_iff, List.drop_drop]
  · have short : ¬ width + number (bytes.take width) ≤ bytes.length := by
      omega
    simp only [readNumber?, if_neg enough, readBody?, if_neg short]

/-- Values are read by the rules of their encoding. -/
theorem valueRead?_eq (kind : WireType) (bytes : List UInt8) :
    Value.read? kind bytes = read? kind bytes := by
  cases kind <;>
    simp only [Value.read?, read?, readNat?_eq, bytesReadBody?_eq]

theorem writeBody_eq (width : Nat) (body : List UInt8) :
    Bytes.writeBody width body =
      if body.length < 256 ^ width then
        .ok (digits width body.length ++ body)
      else
        .error body.length := by
  rw [Bytes.writeBody, capacity_eq]
  split_ifs with fits
  · rw [bigEndian_eq_digits fits]
  · rfl

/-- Values are written by the rules of their encoding, up to the bodies that
are too long. -/
theorem valueWrite_eq (value : Value) :
    value.write =
      match overlong? value with
      | none => .ok (bytes value)
      | some length => .error length := by
  cases value with
  | octet number | short number | long number | longLong number
  | timestamp number =>
      simp only [Value.write, overlong?, bytes, content]
      rw [bigEndian_eq_digits (by simpa using number.toNat_lt)]
  | bit flag =>
      rfl
  | shortString text | longString text =>
      simp only [Value.write, overlong?, bytes, content, writeBody_eq,
        Utf8.bytes_eq_toUTF8]
      split_ifs <;> rfl
  | table body =>
      simp only [Value.write, overlong?, bytes, content, writeBody_eq]
      split_ifs <;> rfl

/-! ## Where an encoding ends -/

theorem readNumber?_digits
    {width value : Nat} (fits : value < 256 ^ width) (rest : List UInt8) :
    readNumber? width (digits width value ++ rest) = some (value, rest) :=
  readNumber?_eq_some_iff.mpr ⟨fits, rfl⟩

theorem readBody?_digits
    {width : Nat} {body : List UInt8} (fits : body.length < 256 ^ width)
    (rest : List UInt8) :
    readBody? width (digits width body.length ++ body ++ rest) =
      some (body, rest) :=
  readBody?_eq_some_iff.mpr ⟨fits, rfl⟩

theorem readNumber?_split
    {width value : Nat} {bytes rest : List UInt8}
    (read : readNumber? width bytes = some (value, rest)) :
    ∃ own, bytes = own ++ rest ∧
      ∀ more, readNumber? width (own ++ more) = some (value, more) := by
  obtain ⟨fits, spelled⟩ := readNumber?_eq_some_iff.mp read
  exact ⟨digits width value, spelled, readNumber?_digits fits⟩

theorem readBody?_split
    {width : Nat} {bytes body rest : List UInt8}
    (read : readBody? width bytes = some (body, rest)) :
    ∃ own, bytes = own ++ rest ∧
      ∀ more, readBody? width (own ++ more) = some (body, more) := by
  obtain ⟨fits, spelled⟩ := readBody?_eq_some_iff.mp read
  exact ⟨digits width body.length ++ body, spelled, readBody?_digits fits⟩

/-- What is read of a value is fixed by the bytes in front of the rest. -/
theorem read?_split
    {kind : WireType} {bytes rest : List UInt8} {value : Value}
    (read : read? kind bytes = some (value, rest)) :
    ∃ own, bytes = own ++ rest ∧
      ∀ more, read? kind (own ++ more) = some (value, more) := by
  cases kind with
  | octet | short | long | longLong | timestamp =>
      obtain ⟨⟨number, after⟩, front, equality⟩ :=
        Option.map_eq_some_iff.mp read
      cases equality
      obtain ⟨own, split, again⟩ := readNumber?_split front
      exact ⟨own, split, fun more => by simp [read?, again]⟩
  | shortString | longString | table =>
      obtain ⟨⟨body, after⟩, front, equality⟩ :=
        Option.map_eq_some_iff.mp read
      cases equality
      obtain ⟨own, split, again⟩ := readBody?_split front
      exact ⟨own, split, fun more => by simp [read?, again]⟩
  | bit =>
      cases read

theorem type_of_read?
    {kind : WireType} {bytes rest : List UInt8} {value : Value}
    (read : read? kind bytes = some (value, rest)) :
    value.type = kind := by
  cases kind with
  | bit =>
      cases read
  | _ =>
      obtain ⟨_, _, equality⟩ := Option.map_eq_some_iff.mp read
      cases equality
      rfl

/-! ## Reading what was written -/

@[simp]
theorem repaired_toUTF8 (text : String) :
    Value.repaired text.toUTF8.data.toList = text := by
  rw [← Utf8.bytes_eq_toUTF8, Value.repaired, Utf8.bytes,
    Utf8.decodeLossy_encode, String.ofList_toList]

theorem fits_of_overlong?_eq_none
    {value : Value} {width : Nat} {body : List UInt8}
    (written : content value = .body width body)
    (fits : overlong? value = none) :
    body.length < 256 ^ width := by
  simpa [overlong?, written] using fits

/-- A value that is not too long is read back, whatever follows it. -/
theorem read?_bytes
    {value : Value} (plain : value.type.isFlag = false)
    (fits : overlong? value = none) (rest : List UInt8) :
    read? value.type (bytes value ++ rest) = some (value, rest) := by
  cases value with
  | octet number | short number | long number | longLong number
  | timestamp number =>
      simp only [Value.type, read?, bytes, content]
      rw [readNumber?_digits (by simpa using number.toNat_lt)]
      simp
  | shortString text | longString text =>
      simp only [Value.type, read?, bytes, content]
      rw [readBody?_digits (fits_of_overlong?_eq_none rfl fits)]
      simp only [Option.map_some, repaired_toUTF8]
  | table body =>
      simp only [Value.type, read?, bytes, content]
      rw [readBody?_digits (fits_of_overlong?_eq_none rfl fits)]
      rfl
  | bit flag =>
      cases plain

/-- An encoding ends where it says, so bytes that start with two encodings of
one value are split by both at one place. -/
theorem bytes_append_eq_iff
    {kind : WireType} {own rest : List UInt8} {value : Value}
    (read : read? kind (own ++ rest) = some (value, rest))
    (plain : kind.isFlag = false) (fits : overlong? value = none)
    (more : List UInt8) :
    bytes value ++ more = own ++ rest ↔ bytes value = own ∧ more = rest := by
  constructor
  · intro same
    have typed := type_of_read? read
    have again := read?_bytes (typed ▸ plain) fits more
    rw [typed, same, read] at again
    have left : rest = more :=
      (Prod.mk.inj (Option.some.inj again)).2
    rw [← left] at same
    exact ⟨List.append_cancel_right same, left.symm⟩
  · rintro ⟨rfl, rfl⟩
    rfl

/-! ## Writing what was read -/

private theorem body_eq_iff
    {width : Nat} {left right : List UInt8}
    (leftFits : left.length < 256 ^ width)
    (rightFits : right.length < 256 ^ width) :
    digits width left.length ++ left = digits width right.length ++ right ↔
      left = right := by
  constructor
  · intro equality
    have sameWidth :
        (digits width left.length).length =
          (digits width right.length).length := by
      rw [length_digits leftFits, length_digits rightFits]
    exact (List.append_inj equality sameWidth).2
  · rintro rfl
    rfl

private theorem repaired_bytes_eq_iff (body : List UInt8) :
    (Value.repaired body).toUTF8.data.toList = body ↔
      body.toByteArray.IsValidUTF8 := by
  rw [← Utf8.bytes_eq_toUTF8, Utf8.bytes, Value.repaired,
    String.toList_ofList, Utf8.encode_decodeLossy_eq_iff]

/-- A value is written in the bytes it was read from exactly when they held
no text to repair. -/
theorem bytes_eq_iff_of_read?
    {kind : WireType} {own rest : List UInt8} {value : Value}
    (read : read? kind (own ++ rest) = some (value, rest))
    (fits : overlong? value = none) :
    bytes value = own ↔
      ∀ body ∈ textBodies kind (own ++ rest),
        body.toByteArray.IsValidUTF8 := by
  cases kind with
  | octet | short | long | longLong | timestamp =>
      obtain ⟨⟨number, after⟩, front, equality⟩ :=
        Option.map_eq_some_iff.mp read
      cases equality
      obtain ⟨inRange, spelled⟩ := readNumber?_eq_some_iff.mp front
      have own_eq := List.append_cancel_right spelled
      norm_num at inRange
      simp [bytes, content, textBodies, own_eq, Nat.mod_eq_of_lt inRange]
  | shortString | longString =>
      obtain ⟨⟨body, after⟩, front, equality⟩ :=
        Option.map_eq_some_iff.mp read
      cases equality
      obtain ⟨inRange, spelled⟩ := readBody?_eq_some_iff.mp front
      have own_eq := List.append_cancel_right spelled
      simp only [bytes, content, textBodies, front, Option.toList_some,
        List.map_cons, List.map_nil, List.mem_singleton, forall_eq]
      rw [own_eq,
        body_eq_iff (fits_of_overlong?_eq_none rfl fits) inRange,
        repaired_bytes_eq_iff]
  | table =>
      obtain ⟨⟨body, after⟩, front, equality⟩ :=
        Option.map_eq_some_iff.mp read
      cases equality
      obtain ⟨_, spelled⟩ := readBody?_eq_some_iff.mp front
      have own_eq := List.append_cancel_right spelled
      simp only [bytes, content, textBodies, own_eq, List.not_mem_nil,
        false_imp_iff, implies_true]
  | bit =>
      cases read

end MethodCodec.Encoding
