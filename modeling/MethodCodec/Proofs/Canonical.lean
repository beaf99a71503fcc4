import Mathlib
import MethodCodec.Proofs.Codec

/-!
# Writing again what was read

A payload that was read can be written again, unless the repair of a text made
it too long.  The bytes are those that were read exactly when reading lost
nothing: no text had to be repaired, and no flag was left over in the last byte
of a run.
-/

namespace MethodCodec

open OnePass

/-! ## What reading loses -/

namespace OnePass

/-- The bodies of the strings that a reader meets. -/
def texts : List Field → Option OpenByte → List UInt8 → List (List UInt8)
  | [], _, _ => []
  | field :: fields, opened, bytes =>
      Encoding.textBodies field.type bytes ++
        match readField? field.type opened bytes with
        | some (_, next, rest) => texts fields next rest
        | none => []

/-- The flags that a reader leaves in the last byte of each run. -/
def padding : List Field → Option OpenByte → List UInt8 → List Bool
  | [], opened, _ => untaken opened
  | field :: fields, opened, bytes =>
      (if field.type.isFlag then [] else untaken opened) ++
        match readField? field.type opened bytes with
        | some (_, next, rest) => padding fields next rest
        | none => []

/-- Nothing is lost of bytes whose strings are valid and whose unused flags
are unset. -/
def Lossless (fields : List Field) (opened : Option OpenByte)
    (bytes : List UInt8) : Prop :=
  (∀ body ∈ texts fields opened bytes, body.toByteArray.IsValidUTF8) ∧
    ∀ flag ∈ padding fields opened bytes, flag = false

/-! ## Writing again in one pass -/

variable {raw bytes rest : List UInt8} {taken : List Bool}
  {opened : Option OpenByte}

/-- A value that is no flag ends the run in front of it. -/
theorem writeValues_plain_append_eq_iff
    {value : Value} (plain : value.type.isFlag = false)
    (inRun : InRun raw taken opened) (values : List Value) :
    writeValues taken (value :: values) ++ rest = raw ++ bytes ↔
      flush taken = raw ∧
        Encoding.bytes value ++ (writeValues [] values ++ rest) = bytes := by
  rw [writeValues_plain plain, List.append_assoc, List.append_assoc]
  constructor
  · intro same
    exact List.append_inj same inRun.length_raw.symm
  · rintro ⟨rfl, rfl⟩
    rfl

/-- The values that a reader goes on to read from where it stands in a run are
written in the bytes of the run and those ahead exactly when it loses nothing
from here on. -/
theorem writeValues_append_eq_iff
    {fields : List Field} {values : List Value}
    (passed : readFields fields opened bytes = .ok (values, rest))
    (fits : ∀ value ∈ values, Encoding.overlong? value = none)
    (inRun : InRun raw taken opened) :
    writeValues taken values ++ rest = raw ++ bytes ↔
      Lossless fields opened bytes := by
  induction fields generalizing values opened raw bytes taken with
  | nil =>
      cases passed
      rw [writeValues, List.append_left_inj, inRun.flush_eq_iff]
      simp [Lossless, texts, padding]
  | cons field fields inductionHypothesis =>
      obtain ⟨value, next, after, others, readHead, readTail, rfl⟩ :=
        readFields_cons_eq_ok_iff.mp passed
      have headFits := fits value List.mem_cons_self
      have tailFits := fun other member =>
        fits other (List.mem_cons_of_mem value member)
      have rule := readHead
      rw [readField?] at rule
      rw [Lossless, texts, padding, readHead]
      by_cases flag : field.type.isFlag
      · -- The run goes on: what the flag reads moves from ahead to behind.
        rw [if_pos flag] at rule
        obtain ⟨⟨taking, byte, left⟩, took, equality⟩ :=
          Option.map_eq_some_iff.mp rule
        cases equality
        obtain ⟨front, rfl, ahead⟩ := inRun.takeFlag took
        have later := inductionHypothesis readTail tailFits ahead
        rw [List.append_assoc] at later
        rw [Encoding.textBodies_of_flag flag, if_pos flag]
        exact later
      · -- The run ends: its bytes, the field's own and the rest are compared
        -- apart, since both sides split at the same places.
        rw [if_neg flag] at rule
        obtain ⟨⟨_, _⟩, readOwn, equality⟩ :=
          Option.map_eq_some_iff.mp rule
        cases equality
        have plain : field.type.isFlag = false := by
          simpa using flag
        have valuePlain : value.type.isFlag = false := by
          rw [Encoding.type_of_read? readOwn, plain]
        obtain ⟨own, rfl, _⟩ := Encoding.read?_split readOwn
        have later := inductionHypothesis readTail tailFits InRun.start
        rw [List.nil_append] at later
        rw [writeValues_plain_append_eq_iff valuePlain inRun,
          Encoding.bytes_append_eq_iff readOwn plain headFits, later,
          inRun.flush_eq_iff,
          Encoding.bytes_eq_iff_of_read? readOwn headFits, if_neg flag]
        simp only [List.forall_mem_append, Lossless]
        tauto

/-! ## Texts that are too long -/

/-- The length of a text that is longer than its length can say, in bytes of
UTF-8. -/
def longText? : Value → Option Nat
  | .shortString text =>
      if text.utf8ByteSize ≤ 255 then none else some text.utf8ByteSize
  | .longString text =>
      if text.utf8ByteSize ≤ 2 ^ 32 - 1 then none else some text.utf8ByteSize
  | _ => none

/-- The first field whose value is a text that is too long, by its name, with
the length of the text. -/
def firstLongText? (fields : List Field) (values : List Value) :
    Option (String × Nat) :=
  (fields.zip values).findSome? fun (field, value) =>
    (longText? value).map fun length => (field.name.written, length)

/-- Of the values that are read, only a text can be too long. -/
theorem overlong?_of_read?
    {kind : WireType} {value : Value}
    (read : Encoding.read? kind bytes = some (value, rest)) :
    Encoding.overlong? value = longText? value := by
  have size (text : String) :
      text.toUTF8.data.toList.length = text.utf8ByteSize := rfl
  cases kind with
  | octet | short | long | longLong | timestamp =>
      obtain ⟨_, _, equality⟩ := Option.map_eq_some_iff.mp read
      cases equality
      rfl
  | shortString | longString =>
      obtain ⟨_, _, equality⟩ := Option.map_eq_some_iff.mp read
      cases equality
      exact if_congr (by rw [size]; omega) rfl (by rw [size])
  | table =>
      obtain ⟨⟨body, after⟩, front, equality⟩ :=
        Option.map_eq_some_iff.mp read
      cases equality
      exact if_pos (Encoding.readBody?_eq_some_iff.mp front).1
  | bit =>
      cases read

theorem firstOverlong?_of_readFields
    {fields : List Field} {values : List Value}
    (passed : readFields fields opened bytes = .ok (values, rest)) :
    firstOverlong? fields values = firstLongText? fields values := by
  induction fields generalizing values opened bytes with
  | nil =>
      rfl
  | cons field fields inductionHypothesis =>
      obtain ⟨value, next, after, others, readHead, readTail, rfl⟩ :=
        readFields_cons_eq_ok_iff.mp passed
      have head : Encoding.overlong? value = longText? value := by
        rw [readField?] at readHead
        split_ifs at readHead
        · obtain ⟨_, _, equality⟩ := Option.map_eq_some_iff.mp readHead
          cases equality
          rfl
        · obtain ⟨⟨_, _⟩, readOwn, equality⟩ :=
            Option.map_eq_some_iff.mp readHead
          cases equality
          exact overlong?_of_read? readOwn
      have tail := inductionHypothesis readTail
      rw [firstOverlong?, firstLongText?] at tail ⊢
      simp only [List.zip_cons_cons, List.findSome?_cons, head, tail]

end OnePass

/-! ## Writing again by the plans -/

namespace Method

/-- The bytes that the plan leaves unread. -/
def unread (method : Method) (payload : List UInt8) : List UInt8 :=
  match method.readPlan.foldlM (Codec.readStep method.fields)
      (Codec.Reading.start method.fields payload) with
  | .ok reading => reading.rest
  | .error _ => []

/-- The bytes that the plan reads. -/
def consumed (method : Method) (payload : List UInt8) : List UInt8 :=
  payload.take (payload.length - (method.unread payload).length)

theorem unread_eq
    {method : Method} {payload rest : List UInt8} {values : List Value}
    (passed : readFields method.fields none payload = .ok (values, rest)) :
    method.unread payload = rest := by
  obtain ⟨flags, ran⟩ := Codec.foldlM_readPlan_of_ok passed
  rw [unread, readPlan, layout, ran]

theorem consumed_append_unread
    {method : Method} {payload : List UInt8} {values : List Value}
    (decoded : method.decode payload = .ok values) :
    method.consumed payload ++ method.unread payload = payload := by
  obtain ⟨rest, passed⟩ := decode_eq_ok_iff.mp decoded
  obtain ⟨front, rfl⟩ := suffix_of_readFields passed
  rw [consumed, unread_eq passed]
  simp

/-- What was read is written again unless a repaired text is too long, and
then it reads as it did. The bytes are those that were read exactly when
reading lost nothing. -/
theorem encode_of_decode
    {method : Method} {payload : List UInt8} {values : List Value}
    (decoded : method.decode payload = .ok values) :
    match firstLongText? method.fields values with
    | some (name, length) =>
        method.encode values = .error (.tooLong name length)
    | none =>
        ∃ bytes,
          method.encode values = .ok bytes ∧
            method.decode bytes = .ok values ∧
            (bytes = method.consumed payload ↔
              Lossless method.fields none payload) := by
  obtain ⟨rest, passed⟩ := decode_eq_ok_iff.mp decoded
  have typed := types_of_readFields passed
  have aligned : method.fields.length = values.length := by
    simpa using (congrArg List.length typed).symm
  have overlong := firstOverlong?_of_readFields passed
  have written := encode_of_typed typed
  rw [overlong] at written
  cases long : firstLongText? method.fields values with
  | some fault =>
      rw [long] at written
      exact written
  | none =>
      rw [long] at written overlong
      have fits := (firstOverlong?_eq_none_iff aligned).mp overlong
      have again := readFields_writeValues typed fits []
      rw [List.append_nil] at again
      refine ⟨writeValues [] values, written,
        decode_eq_ok_iff.mpr ⟨[], again⟩, ?_⟩
      rw [← writeValues_append_eq_iff passed fits InRun.start,
        List.nil_append]
      have whole := consumed_append_unread decoded
      rw [unread_eq passed] at whole
      rw [← List.append_left_inj rest, whole]

/-- A text and a flag behind it. -/
def remark : Method where
  id := 20
  classId := 40
  name := ⟨"remark", "remark", "Remark", "REMARK"⟩
  qualifiedName := "exchange.remark"
  synchronous := false
  fields := [sampleField "text" .shortString, sampleField "urgent" .bit]

/-- A payload whose text has a byte to be repaired and whose flags have a set bit of
padding. -/
def spoiledBytes : List UInt8 :=
  [2, 104, 255, 129]

def spoiledValues : List Value :=
  [.shortString "h\ufffd", .bit true]

/-- A payload whose text gets longer by repair than a short string can be. -/
def swellingBytes : List UInt8 :=
  86 :: List.replicate 86 255 ++ [0]

def swellingValues : List Value :=
  [.shortString (String.ofList (List.replicate 86 '\ufffd')), .bit false]

set_option maxRecDepth 2048 in
theorem encode_of_decode_sample :
    (sample.decode (sampleBytes ++ [7]) = .ok sampleValues ∧
      ∃ bytes,
        sample.encode sampleValues = .ok bytes ∧
          sample.decode bytes = .ok sampleValues ∧
          (bytes = sample.consumed (sampleBytes ++ [7]) ↔
            Lossless sample.fields none (sampleBytes ++ [7]))) ∧
      (remark.decode spoiledBytes = .ok spoiledValues ∧
        ∃ bytes,
          remark.encode spoiledValues = .ok bytes ∧
            remark.decode bytes = .ok spoiledValues ∧
            bytes ≠ remark.consumed spoiledBytes) ∧
      remark.decode swellingBytes = .ok swellingValues ∧
        remark.encode swellingValues = .error (.tooLong "text" 258) := by
  have decoded : sample.decode (sampleBytes ++ [7]) = .ok sampleValues := by
    cbv
  have fits : firstLongText? sample.fields sampleValues = none := by
    cbv
  have again := encode_of_decode decoded
  rw [fits] at again
  have spoiled : remark.decode spoiledBytes = .ok spoiledValues := by
    cbv
  have spoiledFits : firstLongText? remark.fields spoiledValues = none := by
    cbv
  have repaired := encode_of_decode spoiled
  rw [spoiledFits] at repaired
  obtain ⟨bytes, written, readAgain, same_iff⟩ := repaired
  have padded : true ∈ padding remark.fields none spoiledBytes := by
    decide
  have changed : bytes ≠ remark.consumed spoiledBytes := by
    intro same
    cases (same_iff.mp same).2 true padded
  have swollen : remark.decode swellingBytes = .ok swellingValues := by
    cbv
  have tooLong : firstLongText? remark.fields swellingValues = some ("text", 258) := by
    cbv
  have refused := encode_of_decode swollen
  rw [tooLong] at refused
  exact ⟨⟨decoded, again⟩, ⟨spoiled, bytes, written, readAgain, changed⟩, swollen,
    refused⟩

end Method

end MethodCodec
