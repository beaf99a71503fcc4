import Mathlib
import MethodCodec.Proofs.Plan

/-!
# Arguments of a method

Reading and writing the arguments of a method, through its layout and its
plans, are reading and writing in one pass.  What is written is read back,
whatever follows it.
-/

namespace MethodCodec

open OnePass

/-! ## A sample method -/

namespace Method

def sampleField (word : String) (type : WireType) : Field where
  name := ⟨word, word, word, word⟩
  type := type
  domain := none

/-- Nine flags between two strings, and one flag behind a table. -/
def sample : Method where
  id := 10
  classId := 40
  name := ⟨"declare", "declare", "Declare", "DECLARE"⟩
  qualifiedName := "exchange.declare"
  synchronous := true
  fields :=
    [sampleField "ticket" .short, sampleField "exchange" .shortString] ++
      List.replicate 9 (sampleField "option" .bit) ++
      [sampleField "comment" .longString, sampleField "arguments" .table,
        sampleField "wait" .bit]

def sampleValues : List Value :=
  [Value.short 258, Value.shortString "hé"] ++
    List.replicate 9 (Value.bit true) ++
    [Value.longString "", Value.table [1, 2], Value.bit true]

def sampleBytes : List UInt8 :=
  [1, 2, 3, 104, 195, 169, 255, 1, 0, 0, 0, 0, 0, 0, 0, 2, 1, 2, 1]

end Method

/-! ## Reading -/

namespace Method

theorem decode_eq (method : Method) (payload : List UInt8) :
    method.decode payload =
      (readFields method.fields none payload).map Prod.fst := by
  rw [decode, Codec.readBy, readPlan, layout]
  cases passed : readFields method.fields none payload with
  | error fault =>
      rw [Codec.foldlM_readPlan_of_error passed]
      rfl
  | ok result =>
      obtain ⟨flags, ran⟩ := Codec.foldlM_readPlan_of_ok passed
      rw [ran]
      simp [Except.map]

theorem decode_eq_ok_iff
    {method : Method} {payload : List UInt8} {values : List Value} :
    method.decode payload = .ok values ↔
      ∃ rest, readFields method.fields none payload = .ok (values, rest) := by
  rw [decode_eq]
  cases readFields method.fields none payload with
  | error fault =>
      simp [Except.map]
  | ok result =>
      obtain ⟨others, rest⟩ := result
      simp [Except.map]

/-- Reading by the plan is reading in one pass, faults included, and gives one
value per argument, in order and of the declared types. -/
theorem decode_inOnePass (method : Method) (payload : List UInt8) :
    method.decode payload =
        (readFields method.fields none payload).map Prod.fst ∧
      ∀ values, method.decode payload = .ok values →
        values.map Value.type = method.fields.map Field.type := by
  refine ⟨decode_eq method payload, fun values decoded => ?_⟩
  obtain ⟨rest, passed⟩ := decode_eq_ok_iff.mp decoded
  exact types_of_readFields passed

theorem decode_inOnePass_sample :
    sample.decode (sampleBytes.take 7) = .error (.truncated "bit flags") ∧
      sample.decode sampleBytes = .ok sampleValues ∧
      sampleValues.map Value.type = sample.fields.map Field.type :=
  have decoded : sample.decode sampleBytes = .ok sampleValues := by cbv
  ⟨(decode_inOnePass sample (sampleBytes.take 7)).1.trans (by cbv), decoded,
    (decode_inOnePass sample sampleBytes).2 sampleValues decoded⟩

end Method

/-! ## Writing -/

namespace Codec

theorem firstMismatch?_eq_none_iff
    {fields : List Field} {values : List Value}
    (aligned : values.length = fields.length) :
    firstMismatch? fields values = none ↔
      values.map Value.type = fields.map Field.type := by
  induction fields generalizing values with
  | nil =>
      simp_all [firstMismatch?]
  | cons field fields inductionHypothesis =>
      cases values with
      | nil =>
          cases aligned
      | cons value values =>
          rw [firstMismatch?, List.map_cons, List.map_cons, List.cons.injEq]
          split_ifs with same
          · simpa [same] using inductionHypothesis (Nat.succ.inj aligned)
          · simp [same]

end Codec

namespace Method

/-- Values of the declared types are written in one pass, unless one of them
is too long. -/
theorem encode_of_typed
    {method : Method} {values : List Value}
    (typed : values.map Value.type = method.fields.map Field.type) :
    method.encode values =
      match firstOverlong? method.fields values with
      | some (name, length) => .error (.tooLong name length)
      | none => .ok (writeValues [] values) := by
  have aligned : values.length = method.fields.length := by
    simpa using congrArg List.length typed
  rw [encode, if_neg (not_not_intro aligned),
    (Codec.firstMismatch?_eq_none_iff aligned).mpr typed]
  exact Codec.writeBy_writePlan typed

theorem typed_of_encode
    {method : Method} {values : List Value} {bytes : List UInt8}
    (encoded : method.encode values = .ok bytes) :
    values.map Value.type = method.fields.map Field.type := by
  rw [encode] at encoded
  split_ifs at encoded with misaligned
  apply (Codec.firstMismatch?_eq_none_iff (not_not.mp misaligned)).mp
  cases mismatch : Codec.firstMismatch? method.fields values with
  | none =>
      rfl
  | some field =>
      rw [mismatch] at encoded
      cases encoded

/-- What is written, and when. -/
theorem encode_eq_ok_iff
    {method : Method} {values : List Value} {bytes : List UInt8} :
    method.encode values = .ok bytes ↔
      values.map Value.type = method.fields.map Field.type ∧
        (∀ value ∈ values, Encoding.overlong? value = none) ∧
        bytes = writeValues [] values := by
  constructor
  · intro encoded
    have typed := typed_of_encode encoded
    have aligned : method.fields.length = values.length := by
      simpa using (congrArg List.length typed).symm
    rw [encode_of_typed typed] at encoded
    cases overlong : firstOverlong? method.fields values with
    | some fault =>
        rw [overlong] at encoded
        cases encoded
    | none =>
        rw [overlong] at encoded
        cases encoded
        exact ⟨typed, (firstOverlong?_eq_none_iff aligned).mp overlong, rfl⟩
  · rintro ⟨typed, fits, rfl⟩
    have aligned : method.fields.length = values.length := by
      simpa using (congrArg List.length typed).symm
    rw [encode_of_typed typed,
      (firstOverlong?_eq_none_iff aligned).mpr fits]

/-- Writing by the plan is writing in one pass, and every maximal run of flags
takes the bytes that its flags need. -/
theorem encode_inOnePass
    {method : Method} {values : List Value} {bytes : List UInt8}
    (encoded : method.encode values = .ok bytes) :
    bytes = writeValues [] values ∧
      bytes.length =
        plainLength values +
          flagLength (flagRuns (method.fields.map Field.type)) := by
  obtain ⟨typed, _, rfl⟩ := encode_eq_ok_iff.mp encoded
  refine ⟨rfl, ?_⟩
  rw [length_writeValues, typed]
  rfl

theorem encode_sample : sample.encode sampleValues = .ok sampleBytes := by
  cbv

theorem encode_inOnePass_sample :
    sample.encode sampleValues = .ok sampleBytes ∧
      sampleBytes = writeValues [] sampleValues ∧
      sampleBytes.length =
        plainLength sampleValues +
          flagLength (flagRuns (sample.fields.map Field.type)) :=
  ⟨encode_sample, encode_inOnePass encode_sample⟩

/-! ## Reading what was written -/

/-- Whatever bytes follow them, the bytes written for values are read as
exactly those values. -/
theorem decode_of_encode
    {method : Method} {values : List Value} {bytes : List UInt8}
    (encoded : method.encode values = .ok bytes) (rest : List UInt8) :
    method.decode (bytes ++ rest) = .ok values := by
  obtain ⟨typed, fits, rfl⟩ := encode_eq_ok_iff.mp encoded
  exact decode_eq_ok_iff.mpr ⟨rest, readFields_writeValues typed fits rest⟩

theorem decode_of_encode_sample :
    sample.encode sampleValues = .ok sampleBytes ∧
      sample.decode (sampleBytes ++ [7, 7]) = .ok sampleValues :=
  ⟨encode_sample, decode_of_encode encode_sample [7, 7]⟩

end Method

end MethodCodec
