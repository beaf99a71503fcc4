import Mathlib
import MethodCodec.Proofs.Codec

/-!
# Payloads that are cut short

Reading the arguments of a method takes a fixed stretch of bytes off the front
of a payload.  What follows the stretch has no influence on what is read, and
a payload that ends inside the stretch is refused under the name of the first
argument that it cuts.
-/

namespace MethodCodec

open OnePass

/-! ## The bytes that an argument takes -/

namespace Encoding

/-- The bytes of the encoding at the front of a payload. A body is as long as
the number before it says. -/
def extent (kind : WireType) (bytes : List UInt8) : Nat :=
  match kind with
  | .octet => 1
  | .short => 2
  | .long => 4
  | .longLong | .timestamp => 8
  | .shortString => 1 + number (bytes.take 1)
  | .longString | .table => 4 + number (bytes.take 4)
  | .bit => 0

theorem length_of_readNumber?
    {width value : Nat} {bytes rest : List UInt8}
    (read : readNumber? width bytes = some (value, rest)) :
    bytes.length = width + rest.length := by
  obtain ⟨fits, rfl⟩ := readNumber?_eq_some_iff.mp read
  rw [List.length_append, length_digits fits]

theorem length_of_readBody?
    {width : Nat} {bytes body rest : List UInt8}
    (read : readBody? width bytes = some (body, rest)) :
    bytes.length = width + number (bytes.take width) + rest.length := by
  obtain ⟨fits, rfl⟩ := readBody?_eq_some_iff.mp read
  have front :
      (digits width body.length ++ body ++ rest).take width =
        digits width body.length := by
    rw [List.append_assoc, List.take_left' (length_digits fits)]
  rw [front, number_digits fits, List.length_append, List.length_append,
    length_digits fits]

/-- What is read of a value leaves all but its extent. -/
theorem length_of_read?
    {kind : WireType} {bytes rest : List UInt8} {value : Value}
    (read : read? kind bytes = some (value, rest)) :
    bytes.length = extent kind bytes + rest.length := by
  cases kind with
  | octet | short | long | longLong | timestamp =>
      obtain ⟨⟨number, after⟩, front, equality⟩ :=
        Option.map_eq_some_iff.mp read
      cases equality
      exact length_of_readNumber? front
  | shortString | longString | table =>
      obtain ⟨⟨body, after⟩, front, equality⟩ :=
        Option.map_eq_some_iff.mp read
      cases equality
      exact length_of_readBody? front
  | bit =>
      cases read

end Encoding

namespace OnePass

/-- The bytes that a field takes, where `position` tells how many flags of the
open byte are taken: a flag takes a byte when none is open. -/
def fieldExtent (kind : WireType) (position : Nat) (bytes : List UInt8) : Nat :=
  if kind.isFlag then
    if position = 0 then 1 else 0
  else
    Encoding.extent kind bytes

/-- The bytes that each field takes, one field after the other. -/
def extents (position : Nat) : List Field → List UInt8 → List Nat
  | [], _ => []
  | field :: fields, bytes =>
      let extent := fieldExtent field.type position bytes
      extent ::
        extents (Layout.positionAfter position field.type) fields
          (bytes.drop extent)

/-! ## Reading one field of a cut payload -/

section

variable {kind : WireType} {opened next : Option OpenByte}
  {bytes rest : List UInt8} {value : Value}

theorem takeFlag?_split
    {flag : Bool} {byte : OpenByte}
    (took : takeFlag? opened bytes = some (flag, byte, rest)) :
    ∃ own, bytes = own ++ rest ∧
      ∀ more, takeFlag? opened (own ++ more) = some (flag, byte, more) := by
  have opening
      (took : openByte? bytes = some (flag, byte, rest)) :
      ∃ own, bytes = own ++ rest ∧
        ∀ more, openByte? (own ++ more) = some (flag, byte, more) := by
    cases bytes with
    | nil =>
        cases took
    | cons first others =>
        cases took
        exact ⟨[first], rfl, fun _ => rfl⟩
  match opened with
  | none =>
      exact opening took
  | some ⟨held, position⟩ =>
      rw [takeFlag?] at took
      split_ifs at took with inside
      · cases took
        exact ⟨[], rfl, fun more => if_pos inside⟩
      · obtain ⟨own, split, again⟩ := opening took
        exact ⟨own, split, fun more => (if_neg inside).trans (again more)⟩

/-- What is read of a field is fixed by the bytes in front of the rest. -/
theorem readField?_split
    (readHead : readField? kind opened bytes = some (value, next, rest)) :
    ∃ own, bytes = own ++ rest ∧
      ∀ more,
        readField? kind opened (own ++ more) = some (value, next, more) := by
  rw [readField?] at readHead
  split_ifs at readHead with flag
  · obtain ⟨_, took, equality⟩ := Option.map_eq_some_iff.mp readHead
    cases equality
    obtain ⟨own, split, again⟩ := takeFlag?_split took
    exact ⟨own, split, fun more => by
      rw [readField?, if_pos flag, again]
      rfl⟩
  · obtain ⟨_, readOwn, equality⟩ := Option.map_eq_some_iff.mp readHead
    cases equality
    obtain ⟨own, split, again⟩ := Encoding.read?_split readOwn
    exact ⟨own, split, fun more => by
      rw [readField?, if_neg flag, again]
      rfl⟩

/-- A field cannot be read of fewer bytes than it takes: more bytes behind
them would leave more over than there is. -/
theorem readField?_take_eq_none
    {own : List UInt8}
    (readHead :
      readField? kind opened (own ++ rest) = some (value, next, rest))
    {count : Nat} (cut : count < own.length) :
    readField? kind opened (own.take count) = none := by
  cases early : readField? kind opened (own.take count) with
  | none =>
      rfl
  | some result =>
      obtain ⟨other, after, left⟩ := result
      obtain ⟨front, split, again⟩ := readField?_split early
      have whole : own ++ rest = front ++ (left ++ (own.drop count ++ rest)) := by
        rw [← List.append_assoc, ← split, ← List.append_assoc,
          List.take_append_drop]
      rw [whole, again] at readHead
      have same : left ++ (own.drop count ++ rest) = rest := by
        simpa using congrArg (Option.map fun result => result.2.2) readHead
      have lengths := congrArg List.length same
      simp only [List.length_append, List.length_drop] at lengths
      omega

theorem length_of_takeFlag?
    {flags : List Bool} {flag : Bool} {byte : OpenByte}
    (shows : Codec.Shows flags opened)
    (took : takeFlag? opened bytes = some (flag, byte, rest)) :
    bytes.length =
      (if Codec.position opened = 0 then 1 else 0) + rest.length := by
  have opening
      (took : openByte? bytes = some (flag, byte, rest)) :
      bytes.length = 1 + rest.length := by
    cases bytes with
    | nil =>
        cases took
    | cons first others =>
        cases took
        exact Nat.add_comm _ 1
  match opened with
  | none =>
      exact opening took
  | some ⟨held, position⟩ =>
      obtain ⟨_, positive, atMost⟩ := shows
      rw [takeFlag?] at took
      split_ifs at took with inside
      · cases took
        rw [Codec.position, if_neg (by omega), Nat.zero_add]
      · rw [Codec.position, if_pos (by omega)]
        exact opening took

theorem shows_of_readField?
    {flags : List Bool} (shows : Codec.Shows flags opened)
    (readHead : readField? kind opened bytes = some (value, next, rest)) :
    ∃ after,
      Codec.Shows after next ∧
        Codec.position next =
          Layout.positionAfter (Codec.position opened) kind := by
  rw [readField?] at readHead
  rw [Layout.positionAfter]
  split_ifs at readHead ⊢ with flag
  · obtain ⟨⟨_, byte, _⟩, took, equality⟩ :=
      Option.map_eq_some_iff.mp readHead
    cases equality
    exact ⟨_, Codec.shows_of_takeFlag? shows took⟩
  · obtain ⟨_, _, equality⟩ := Option.map_eq_some_iff.mp readHead
    cases equality
    exact ⟨flags, trivial, rfl⟩

theorem length_of_readField?
    {flags : List Bool} (shows : Codec.Shows flags opened)
    (readHead : readField? kind opened bytes = some (value, next, rest)) :
    bytes.length =
      fieldExtent kind (Codec.position opened) bytes + rest.length := by
  rw [readField?] at readHead
  rw [fieldExtent]
  split_ifs at readHead with flag
  · obtain ⟨_, took, equality⟩ := Option.map_eq_some_iff.mp readHead
    cases equality
    rw [if_pos flag]
    exact length_of_takeFlag? shows took
  · obtain ⟨_, readOwn, equality⟩ := Option.map_eq_some_iff.mp readHead
    cases equality
    rw [if_neg flag]
    exact Encoding.length_of_read? readOwn

end

/-! ## Reading all fields of a cut payload -/

/-- Of stretches one behind the other, the one at `index` is the first that
`count` bytes do not hold in full. -/
def FirstCut (stretches : List Nat) (count index : Nat) : Prop :=
  (stretches.take index).sum ≤ count ∧
    count < (stretches.take (index + 1)).sum

theorem firstCut_zero
    {stretch count : Nat} (inside : count < stretch) (others : List Nat) :
    FirstCut (stretch :: others) count 0 :=
  ⟨Nat.zero_le count, by simpa using inside⟩

theorem firstCut_succ
    {stretch count index : Nat} {others : List Nat}
    (cut : FirstCut others count index) :
    FirstCut (stretch :: others) (stretch + count) (index + 1) := by
  obtain ⟨before, behind⟩ := cut
  constructor
  · simpa using before
  · simpa using behind

section

variable {fields : List Field} {opened : Option OpenByte}
  {bytes rest : List UInt8} {values : List Value}

theorem readFields_cons_of_some
    {field : Field} {next : Option OpenByte} {value : Value}
    (readHead : readField? field.type opened bytes = some (value, next, rest)) :
    readFields (field :: fields) opened bytes =
      (readFields fields next rest).map fun (others, left) =>
        (value :: others, left) := by
  rw [readFields, readHead]

theorem readFields_cons_of_none
    {field : Field} (missed : readField? field.type opened bytes = none) :
    readFields (field :: fields) opened bytes =
      .error (.truncated (missing field)) := by
  rw [readFields, missed]

/-- Every fault of a reader is that of bytes which are missing. -/
theorem truncated_of_readFields
    {fault : CodecFault}
    (refused : readFields fields opened bytes = .error fault) :
    ∃ what, fault = .truncated what := by
  induction fields generalizing opened bytes with
  | nil =>
      cases refused
  | cons field fields inductionHypothesis =>
      cases readHead : readField? field.type opened bytes with
      | none =>
          rw [readFields_cons_of_none readHead] at refused
          cases refused
          exact ⟨missing field, rfl⟩
      | some result =>
          obtain ⟨value, next, after⟩ := result
          rw [readFields_cons_of_some readHead] at refused
          cases later : readFields fields next after with
          | error other =>
              rw [later] at refused
              cases refused
              exact inductionHypothesis later
          | ok passed =>
              rw [later] at refused
              cases refused

/-- What is read of all fields is fixed by the bytes in front of the rest, and
those are the bytes that the fields take. -/
theorem readFields_split
    {flags : List Bool} (shows : Codec.Shows flags opened)
    (passed : readFields fields opened bytes = .ok (values, rest)) :
    ∃ own, bytes = own ++ rest ∧
      own.length = (extents (Codec.position opened) fields bytes).sum ∧
      ∀ more, readFields fields opened (own ++ more) = .ok (values, more) := by
  induction fields generalizing opened flags bytes values with
  | nil =>
      cases passed
      exact ⟨[], rfl, rfl, fun _ => rfl⟩
  | cons field fields inductionHypothesis =>
      obtain ⟨value, next, after, others, readHead, readTail, rfl⟩ :=
        readFields_cons_eq_ok_iff.mp passed
      have size := length_of_readField? shows readHead
      obtain ⟨_, showsNext, moved⟩ := shows_of_readField? shows readHead
      obtain ⟨front, rfl, again⟩ := readField?_split readHead
      have frontSize := (Nat.add_right_cancel
        (List.length_append.symm.trans size)).symm
      obtain ⟨back, rfl, backSize, againBack⟩ :=
        inductionHypothesis showsNext readTail
      refine ⟨front ++ back, (List.append_assoc _ _ _).symm, ?_, ?_⟩
      · rw [extents, frontSize, List.drop_left, ← moved, List.sum_cons, ← backSize,
          List.length_append]
      · intro more
        rw [List.append_assoc, readFields_cons_of_some (again _), againBack]
        rfl

/-- Bytes that end inside those which the fields take are refused under the
name of the first field that they cut. -/
theorem readFields_take
    {flags : List Bool} (shows : Codec.Shows flags opened)
    (passed : readFields fields opened bytes = .ok (values, rest))
    {count : Nat}
    (cut : count < (extents (Codec.position opened) fields bytes).sum) :
    ∃ index field, fields[index]? = some field ∧
      FirstCut (extents (Codec.position opened) fields bytes) count index ∧
      readFields fields opened (bytes.take count) =
        .error (.truncated (missing field)) := by
  induction fields generalizing opened flags bytes values count with
  | nil =>
      cases cut
  | cons field fields inductionHypothesis =>
      obtain ⟨value, next, after, others, readHead, readTail, rfl⟩ :=
        readFields_cons_eq_ok_iff.mp passed
      have size := length_of_readField? shows readHead
      obtain ⟨_, showsNext, moved⟩ := shows_of_readField? shows readHead
      obtain ⟨front, rfl, again⟩ := readField?_split readHead
      have frontSize := (Nat.add_right_cancel
        (List.length_append.symm.trans size)).symm
      rw [extents, frontSize, List.drop_left, ← moved] at cut ⊢
      by_cases inside : count < front.length
      · -- The cut is in the bytes of this field.
        have missed := readField?_take_eq_none readHead inside
        refine ⟨0, field, rfl, firstCut_zero inside _, ?_⟩
        rw [List.take_append_of_le_length inside.le,
          readFields_cons_of_none missed]
      · -- The field is whole, and the cut is in what follows it.
        obtain ⟨left, rfl⟩ := Nat.exists_eq_add_of_le (not_lt.mp inside)
        rw [List.sum_cons, Nat.add_lt_add_iff_left] at cut
        obtain ⟨index, cutField, declared, first, refused⟩ :=
          inductionHypothesis showsNext readTail cut
        refine ⟨index + 1, cutField, declared, firstCut_succ first, ?_⟩
        rw [List.take_length_add_append, readFields_cons_of_some (again _),
          refused]
        rfl

end

end OnePass

/-! ## Reading by the plan -/

namespace Method

/-- The bytes that each argument takes of a payload. -/
def extents (method : Method) (payload : List UInt8) : List Nat :=
  OnePass.extents 0 method.fields payload

/-- The bytes that all arguments take of a payload. -/
def extent (method : Method) (payload : List UInt8) : Nat :=
  (method.extents payload).sum

theorem decode_eq_error_iff
    {method : Method} {payload : List UInt8} {fault : CodecFault} :
    method.decode payload = .error fault ↔
      readFields method.fields none payload = .error fault := by
  rw [decode_eq]
  cases readFields method.fields none payload <;> simp [Except.map]

/-- Reading fails only where bytes are missing. A payload that is read is read
by the bytes that its arguments take: whatever follows them changes nothing,
and a payload cut inside them is refused under the name of the first argument
that is not whole, or of the flags if that is a flag. -/
theorem decode_take (method : Method) :
    (∀ payload fault, method.decode payload = .error fault →
        ∃ what, fault = .truncated what) ∧
      ∀ payload values, method.decode payload = .ok values →
        method.extent payload ≤ payload.length ∧
          (∀ more,
            method.decode (payload.take (method.extent payload) ++ more) =
              .ok values) ∧
          (∀ count < method.extent payload,
            ∃ index field, method.fields[index]? = some field ∧
              FirstCut (method.extents payload) count index ∧
              method.decode (payload.take count) =
                .error (.truncated (missing field))) ∧
          (method.fields = [] → method.extent payload = 0) := by
  have start : Codec.Shows [] none := trivial
  constructor
  · intro payload fault refused
    exact truncated_of_readFields (decode_eq_error_iff.mp refused)
  · intro payload values decoded
    obtain ⟨rest, passed⟩ := decode_eq_ok_iff.mp decoded
    obtain ⟨own, split, size, again⟩ := readFields_split start passed
    have size : own.length = method.extent payload := size
    have taken : payload.take (method.extent payload) = own := by
      rw [← size, split, List.take_left]
    refine ⟨?_, ?_, ?_, ?_⟩
    · rw [← size, split, List.length_append]
      exact Nat.le_add_right _ _
    · intro more
      rw [taken]
      exact decode_eq_ok_iff.mpr ⟨more, again more⟩
    · intro count cut
      obtain ⟨index, field, declared, first, refused⟩ :=
        readFields_take start passed cut
      exact ⟨index, field, declared, first, decode_eq_error_iff.mpr refused⟩
    · intro none
      rw [extent, extents, none]
      rfl

/-- The second byte of nine flags is cut off. -/
theorem decode_take_sample :
    sample.decode sampleBytes = .ok sampleValues ∧
      7 < sample.extent sampleBytes ∧
      ∃ index field, sample.fields[index]? = some field ∧
        FirstCut (sample.extents sampleBytes) 7 index ∧
        sample.decode (sampleBytes.take 7) =
          .error (.truncated (missing field)) :=
  have decoded : sample.decode sampleBytes = .ok sampleValues := by cbv
  have cut : 7 < sample.extent sampleBytes := by decide
  ⟨decoded, cut, ((decode_take sample).2 _ _ decoded).2.2.1 7 cut⟩

end Method

end MethodCodec
