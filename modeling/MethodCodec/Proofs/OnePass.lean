import Mathlib
import MethodCodec.Proofs.Bits
import MethodCodec.Proofs.Encoding
import MethodCodec.Wire.Codec

/-!
# The codec in one pass

A reader and a writer that know neither a layout nor a plan.  The reader goes
through the fields with the byte of flags that is open and the position of the
next flag in it; the writer goes through the values with the flags that are
pending in the current run.  The results are about these two alone: what one
writes the other reads, and what is lost by reading and writing again.
-/

namespace MethodCodec.OnePass

/-! ## Reading -/

/-- The byte of flags that is open, and the position of the next flag. -/
structure OpenByte where
  byte : UInt8
  next : Nat

/-- Opens a byte of flags and takes its first flag. -/
def openByte? : List UInt8 → Option (Bool × OpenByte × List UInt8)
  | [] => none
  | byte :: rest => some (byte.toNat.testBit 0, ⟨byte, 1⟩, rest)

/-- Takes a flag: a new byte is read when none is open or eight flags have
been taken, otherwise the next flag of the open byte is taken. -/
def takeFlag? (opened : Option OpenByte) (bytes : List UInt8) :
    Option (Bool × OpenByte × List UInt8) :=
  match opened with
  | none => openByte? bytes
  | some ⟨byte, next⟩ =>
      if next < 8 then
        some (byte.toNat.testBit next, ⟨byte, next + 1⟩, bytes)
      else
        openByte? bytes

/-- Reads a field, and tells which byte is open after it. A field that is no
flag closes the open byte. -/
def readField? (kind : WireType) (opened : Option OpenByte)
    (bytes : List UInt8) :
    Option (Value × Option OpenByte × List UInt8) :=
  if kind.isFlag then
    (takeFlag? opened bytes).map fun (flag, byte, rest) =>
      (.bit flag, some byte, rest)
  else
    (Encoding.read? kind bytes).map fun (value, rest) => (value, none, rest)

/-- What is missing when the bytes end before a field does. -/
def missing (field : Field) : String :=
  if field.type.isFlag then "bit flags" else field.name.written

/-- Reads the fields in order; gives their values and the bytes left over. -/
def readFields : List Field → Option OpenByte → List UInt8 →
    Except CodecFault (List Value × List UInt8)
  | [], _, bytes => .ok ([], bytes)
  | field :: fields, opened, bytes =>
      match readField? field.type opened bytes with
      | none => .error (.truncated (missing field))
      | some (value, next, rest) =>
          (readFields fields next rest).map fun (values, left) =>
            (value :: values, left)

theorem readFields_cons_eq_ok_iff
    {field : Field} {fields : List Field} {opened : Option OpenByte}
    {bytes left : List UInt8} {values : List Value} :
    readFields (field :: fields) opened bytes = .ok (values, left) ↔
      ∃ value next rest others,
        readField? field.type opened bytes = some (value, next, rest) ∧
          readFields fields next rest = .ok (others, left) ∧
          values = value :: others := by
  rw [readFields]
  cases readField? field.type opened bytes with
  | none =>
      simp
  | some result =>
      obtain ⟨value, next, rest⟩ := result
      dsimp only
      cases tail : readFields fields next rest with
      | error fault =>
          simp [Except.map, tail]
      | ok result =>
          obtain ⟨others, after⟩ := result
          simp [Except.map, tail, and_comm, eq_comm]

theorem type_of_readField?
    {kind : WireType} {opened next : Option OpenByte}
    {bytes rest : List UInt8} {value : Value}
    (readHead : readField? kind opened bytes = some (value, next, rest)) :
    value.type = kind := by
  rw [readField?] at readHead
  split_ifs at readHead with flag
  · obtain ⟨_, _, equality⟩ := Option.map_eq_some_iff.mp readHead
    cases equality
    cases kind <;> first | rfl | cases flag
  · obtain ⟨_, readOwn, equality⟩ := Option.map_eq_some_iff.mp readHead
    cases equality
    exact Encoding.type_of_read? readOwn

/-- One value per field, in the order of the fields and of their types. -/
theorem types_of_readFields
    {fields : List Field} {opened : Option OpenByte}
    {bytes left : List UInt8} {values : List Value}
    (result : readFields fields opened bytes = .ok (values, left)) :
    values.map Value.type = fields.map Field.type := by
  induction fields generalizing opened bytes values with
  | nil =>
      cases result
      rfl
  | cons field fields inductionHypothesis =>
      obtain ⟨value, next, rest, others, readHead, readTail, rfl⟩ :=
        readFields_cons_eq_ok_iff.mp result
      rw [List.map_cons, List.map_cons, type_of_readField? readHead,
        inductionHypothesis readTail]

theorem suffix_of_takeFlag?
    {opened : Option OpenByte} {bytes rest : List UInt8} {flag : Bool}
    {byte : OpenByte}
    (took : takeFlag? opened bytes = some (flag, byte, rest)) :
    rest <:+ bytes := by
  have opening
      (took : openByte? bytes = some (flag, byte, rest)) :
      rest <:+ bytes := by
    cases bytes with
    | nil =>
        cases took
    | cons first others =>
        cases took
        exact List.suffix_cons first _
  match opened with
  | none =>
      exact opening took
  | some ⟨_, next⟩ =>
      rw [takeFlag?] at took
      split_ifs at took
      · cases took
        exact List.suffix_rfl
      · exact opening took

theorem suffix_of_readField?
    {kind : WireType} {opened next : Option OpenByte}
    {bytes rest : List UInt8} {value : Value}
    (readHead : readField? kind opened bytes = some (value, next, rest)) :
    rest <:+ bytes := by
  rw [readField?] at readHead
  split_ifs at readHead
  · obtain ⟨_, took, equality⟩ := Option.map_eq_some_iff.mp readHead
    cases equality
    exact suffix_of_takeFlag? took
  · obtain ⟨_, readOwn, equality⟩ := Option.map_eq_some_iff.mp readHead
    cases equality
    obtain ⟨own, split, _⟩ := Encoding.read?_split readOwn
    exact ⟨own, split.symm⟩

/-- The bytes left over are the end of the bytes that were there. -/
theorem suffix_of_readFields
    {fields : List Field} {opened : Option OpenByte}
    {bytes left : List UInt8} {values : List Value}
    (result : readFields fields opened bytes = .ok (values, left)) :
    left <:+ bytes := by
  induction fields generalizing opened bytes values with
  | nil =>
      cases result
      exact List.suffix_rfl
  | cons field fields inductionHypothesis =>
      obtain ⟨value, next, rest, others, readHead, readTail, rfl⟩ :=
        readFields_cons_eq_ok_iff.mp result
      exact (inductionHypothesis readTail).trans
        (suffix_of_readField? readHead)

/-! ## Writing -/

/-- The bytes of pending flags: eight to a byte, the first in the least
significant bit, and zeros above the last. -/
def flush (pending : List Bool) : List UInt8 :=
  (List.range ((pending.length + 7) / 8)).map fun place =>
    UInt8.ofNat (Nat.ofBits fun position : Fin 8 =>
      pending.getD (8 * place + position) false)

/-- Writes values in order, while `pending` holds the flags of the run that is
open. A value that is no flag ends the run, and so does the end. -/
def writeValues (pending : List Bool) : List Value → List UInt8
  | [] => flush pending
  | .bit flag :: values => writeValues (pending ++ [flag]) values
  | value :: values =>
      flush pending ++ Encoding.bytes value ++ writeValues [] values

/-- The first field whose value has a body that is too long, by its name, with
the length of the body. -/
def firstOverlong? (fields : List Field) (values : List Value) :
    Option (String × Nat) :=
  (fields.zip values).findSome? fun (field, value) =>
    (Encoding.overlong? value).map fun length => (field.name.written, length)

theorem firstOverlong?_cons
    (field : Field) (fields : List Field) (value : Value)
    (values : List Value) :
    firstOverlong? (field :: fields) (value :: values) =
      match Encoding.overlong? value with
      | some length => some (field.name.written, length)
      | none => firstOverlong? fields values := by
  rw [firstOverlong?, List.zip_cons_cons, List.findSome?_cons]
  dsimp only
  cases Encoding.overlong? value <;> rfl

theorem firstOverlong?_eq_none_iff
    {fields : List Field} {values : List Value}
    (aligned : fields.length = values.length) :
    firstOverlong? fields values = none ↔
      ∀ value ∈ values, Encoding.overlong? value = none := by
  induction values generalizing fields with
  | nil =>
      simp [firstOverlong?]
  | cons value values inductionHypothesis =>
      cases fields with
      | nil =>
          cases aligned
      | cons field fields =>
          rw [firstOverlong?_cons, List.forall_mem_cons]
          cases Encoding.overlong? value with
          | some length =>
              simp
          | none =>
              simpa using inductionHypothesis (Nat.succ.inj aligned)

@[simp]
theorem flush_nil : flush [] = [] :=
  rfl

theorem writeValues_plain
    {value : Value} (plain : value.type.isFlag = false)
    (pending : List Bool) (values : List Value) :
    writeValues pending (value :: values) =
      flush pending ++ Encoding.bytes value ++ writeValues [] values := by
  cases value with
  | bit flag =>
      cases plain
  | _ =>
      rfl

/-! ## How much is written -/

/-- The runs of flags between the other arguments. A run that holds no flag
occupies no byte. -/
def flagRuns (kinds : List WireType) : List (List WireType) :=
  kinds.splitOnP fun kind => !kind.isFlag

/-- The bytes that runs of flags occupy, eight flags to a byte. -/
def flagLength (runs : List (List WireType)) : Nat :=
  (runs.map fun run => (run.length + 7) / 8).sum

/-- The bytes that the values other than flags occupy. -/
def plainLength (values : List Value) : Nat :=
  ((values.filter fun value => !value.type.isFlag).map fun value =>
    (Encoding.bytes value).length).sum

@[simp]
theorem length_flush (pending : List Bool) :
    (flush pending).length = (pending.length + 7) / 8 := by
  rw [flush, List.length_map, List.length_range]

/-- The flags that are pending count as the start of the first run. -/
theorem length_writeValues (pending : List Bool) (values : List Value) :
    (writeValues pending values).length =
      plainLength values +
        flagLength (flagRuns
          (List.replicate pending.length .bit ++ values.map Value.type)) := by
  have noEnd (count : Nat) :
      ∀ kind ∈ List.replicate count WireType.bit,
        (!kind.isFlag) = false := by
    intro kind member
    rw [List.eq_of_mem_replicate member]
    rfl
  induction values generalizing pending with
  | nil =>
      rw [List.map_nil, List.append_nil, flagRuns,
        List.splitOnP_eq_singleton (noEnd _)]
      simp [writeValues, length_flush, plainLength, flagLength]
  | cons value values inductionHypothesis =>
      cases plain : value.type.isFlag with
      | true =>
          cases value with
          | bit flag =>
              rw [writeValues, inductionHypothesis, List.length_append,
                List.length_singleton, List.replicate_succ',
                List.append_assoc]
              rfl
          | _ =>
              cases plain
      | false =>
          have ends :
              flagRuns (List.replicate pending.length .bit ++
                  value.type :: values.map Value.type) =
                List.replicate pending.length .bit ::
                  flagRuns (values.map Value.type) :=
            List.splitOnP_append_cons_of_forall_mem (noEnd _) _
              (by simp [plain]) _
          rw [writeValues_plain plain, List.map_cons, ends,
            List.length_append, List.length_append, inductionHypothesis,
            length_flush]
          simp [plainLength, flagLength, plain]
          omega

/-! ## Flushed flags -/

private theorem ofBits_eq_toNat (flags : List Bool) :
    (Nat.ofBits fun position : Fin 8 => flags.getD position false) =
      Bits.toNat (flags.take 8) := by
  apply Nat.eq_of_testBit_eq
  intro position
  rw [Nat.testBit_ofBits, Bits.testBit_toNat]
  split_ifs with inside
  · simp [List.getD_eq_getElem?_getD, List.getElem?_take_of_lt inside]
  · exact (List.getD_eq_default _ _ (by simp; omega)).symm

/-- Flushing packs the flags. -/
theorem flush_eq_pack (pending : List Bool) :
    flush pending = Bits.pack pending := by
  induction pending using Bits.chunks_induction with
  | nil => rw [Bits.pack_nil, flush_nil]
  | step pending nonempty inductionHypothesis =>
      have positive := List.length_pos_iff.mpr nonempty
      have count :
          (pending.length + 7) / 8 =
            ((pending.drop 8).length + 7) / 8 + 1 := by
        rw [List.length_drop]
        omega
      rw [Bits.pack_of_ne_nil nonempty, ← inductionHypothesis, flush, count,
        List.range_succ_eq_map, List.map_cons, List.map_map]
      congr 1
      · simp only [Nat.mul_zero, Nat.zero_add, ofBits_eq_toNat]
      · apply List.map_congr_left
        intro place _
        simp only [Function.comp_apply, List.getD_eq_getElem?_getD,
          List.getElem?_drop]
        congr 3
        funext position
        congr 2
        omega

/-! ## A run in progress -/

/-- The flags of the open byte that are not taken yet. -/
def untaken : Option OpenByte → List Bool
  | none => []
  | some ⟨byte, next⟩ => ((List.range 8).map byte.toNat.testBit).drop next

theorem untaken_of_lt {next : Nat} (inside : next < 8) (byte : UInt8) :
    untaken (some ⟨byte, next⟩) =
      byte.toNat.testBit next :: untaken (some ⟨byte, next + 1⟩) := by
  simp only [untaken]
  rw [List.drop_eq_getElem_cons (by simpa using inside)]
  simp

theorem unpack_eq_cons (byte : UInt8) :
    Bits.unpack byte =
      byte.toNat.testBit 0 :: untaken (some ⟨byte, 1⟩) :=
  rfl

theorem takeFlag?_of_untaken_nil
    {opened : Option OpenByte} (none_left : untaken opened = [])
    (bytes : List UInt8) :
    takeFlag? opened bytes = openByte? bytes := by
  match opened with
  | none =>
      rfl
  | some ⟨byte, next⟩ =>
      have full : ¬ next < 8 := by
        intro inside
        rw [untaken_of_lt inside] at none_left
        cases none_left
      rw [takeFlag?, if_neg full]

theorem takeFlag?_of_untaken_cons
    {opened : Option OpenByte} {flag : Bool} {left : List Bool}
    (ahead : untaken opened = flag :: left) :
    ∃ byte, untaken (some byte) = left ∧
      ∀ bytes, takeFlag? opened bytes = some (flag, byte, bytes) := by
  match opened with
  | none =>
      cases ahead
  | some ⟨byte, next⟩ =>
      have inside : next < 8 := by
        by_contra full
        rw [untaken, List.drop_eq_nil_of_le (by simpa using full)] at ahead
        cases ahead
      rw [untaken_of_lt inside] at ahead
      cases ahead
      exact ⟨⟨byte, next + 1⟩, rfl, fun bytes => by
        rw [takeFlag?, if_pos inside]⟩

/-- Where a reader stands in a run: the bytes read of it hold the flags taken
of it, followed by those that are left in the open byte. -/
structure InRun (raw : List UInt8) (taken : List Bool)
    (opened : Option OpenByte) : Prop where
  flags : raw.flatMap Bits.unpack = taken ++ untaken opened
  short : (untaken opened).length < 8

namespace InRun

theorem start : InRun [] [] none where
  flags := rfl
  short := by decide

variable {raw : List UInt8} {taken : List Bool} {opened : Option OpenByte}

theorem length_raw (inRun : InRun raw taken opened) :
    raw.length = (flush taken).length := by
  have lengths := congrArg List.length inRun.flags
  rw [Bits.length_flatMap_unpack, List.length_append] at lengths
  have := inRun.short
  rw [length_flush]
  omega

/-- Flushing the flags that were taken gives the bytes they were taken from
exactly when nothing but unset flags is left. -/
theorem flush_eq_iff (inRun : InRun raw taken opened) :
    flush taken = raw ↔ ∀ flag ∈ untaken opened, flag = false := by
  have flushed :
      (flush taken).flatMap Bits.unpack =
        taken ++ List.replicate (untaken opened).length false := by
    have lengths := congrArg List.length inRun.flags
    rw [Bits.length_flatMap_unpack, List.length_append, inRun.length_raw,
      flush_eq_pack, Bits.length_pack] at lengths
    rw [flush_eq_pack, Bits.flatMap_unpack_pack, lengths,
      Nat.add_sub_cancel_left]
  constructor
  · rintro rfl
    have same := List.append_cancel_left (inRun.flags.symm.trans flushed)
    exact (List.eq_replicate_iff.mp same).2
  · intro unset
    apply Bits.flatMap_unpack_injective
    rw [flushed, inRun.flags]
    congr 1
    exact (List.eq_replicate_iff.mpr ⟨rfl, unset⟩).symm

/-- Taking a flag reads at most one byte and keeps the run in step. -/
theorem takeFlag
    (inRun : InRun raw taken opened)
    {bytes rest : List UInt8} {flag : Bool} {byte : OpenByte}
    (took : takeFlag? opened bytes = some (flag, byte, rest)) :
    ∃ front, bytes = front ++ rest ∧
      InRun (raw ++ front) (taken ++ [flag]) (some byte) := by
  have short := inRun.short
  cases ahead : untaken opened with
  | nil =>
      rw [takeFlag?_of_untaken_nil ahead] at took
      cases bytes with
      | nil =>
          cases took
      | cons first others =>
          cases took
          refine ⟨[first], rfl, ?_, by simp [untaken]⟩
          rw [List.flatMap_append, List.flatMap_singleton, inRun.flags,
            ahead, unpack_eq_cons]
          simp
  | cons next left =>
      obtain ⟨byte, rfl, takes⟩ := takeFlag?_of_untaken_cons ahead
      rw [takes] at took
      cases took
      refine ⟨[], rfl, ?_, ?_⟩
      · rw [List.append_nil, inRun.flags, ahead]
        simp
      · rw [ahead, List.length_cons] at short
        omega

/-- A reader takes the flag that the bytes of the run hold next. -/
theorem takeFlag?_of_prefix
    (inRun : InRun raw taken opened) {bytes : List UInt8} {flag : Bool}
    (held : taken ++ [flag] <+: (raw ++ bytes).flatMap Bits.unpack) :
    ∃ byte rest, takeFlag? opened bytes = some (flag, byte, rest) := by
  rw [List.flatMap_append, inRun.flags, List.append_assoc,
    List.prefix_append_right_inj] at held
  cases ahead : untaken opened with
  | nil =>
      rw [takeFlag?_of_untaken_nil ahead]
      cases bytes with
      | nil =>
          simp [ahead] at held
      | cons first others =>
          rw [ahead, List.nil_append, List.flatMap_cons, unpack_eq_cons,
            List.cons_append, List.cons_prefix_cons] at held
          exact ⟨⟨first, 1⟩, others, by rw [openByte?, held.1]⟩
  | cons next left =>
      rw [ahead, List.cons_append, List.cons_prefix_cons] at held
      obtain ⟨byte, _, takes⟩ := takeFlag?_of_untaken_cons ahead
      exact ⟨byte, bytes, by rw [takes, held.1]⟩

end InRun

/-! ## Flags that are written -/

/-- The flags pending in a run come first among the flags of what is
written. -/
theorem prefix_flags_writeValues (pending : List Bool) (values : List Value) :
    pending <+: (writeValues pending values).flatMap Bits.unpack := by
  have flushed (pending : List Bool) :
      pending <+: (flush pending).flatMap Bits.unpack := by
    rw [flush_eq_pack, Bits.flatMap_unpack_pack]
    exact List.prefix_append _ _
  induction values generalizing pending with
  | nil =>
      exact flushed pending
  | cons value values inductionHypothesis =>
      cases plain : value.type.isFlag with
      | false =>
          rw [writeValues_plain plain, List.append_assoc, List.flatMap_append]
          exact (flushed pending).trans (List.prefix_append _ _)
      | true =>
          cases value with
          | bit flag =>
              exact (List.prefix_append pending [flag]).trans
                (inductionHypothesis (pending ++ [flag]))
          | _ =>
              cases plain

/-! ## Reading what was written -/

section

variable {raw bytes rest : List UInt8} {taken : List Bool}
  {opened : Option OpenByte}

theorem readField?_of_plain
    {value : Value} (plain : value.type.isFlag = false)
    (fits : Encoding.overlong? value = none)
    (inRun : InRun raw taken opened)
    (written :
      raw ++ bytes = flush taken ++ (Encoding.bytes value ++ rest)) :
    readField? value.type opened bytes = some (value, none, rest) := by
  have ahead : bytes = Encoding.bytes value ++ rest :=
    (List.append_inj written inRun.length_raw).2
  rw [readField?, if_neg (by simp [plain]), ahead,
    Encoding.read?_bytes plain fits]
  rfl

theorem readField?_of_flag
    {flag : Bool} {values : List Value}
    (inRun : InRun raw taken opened)
    (written :
      raw ++ bytes = writeValues (taken ++ [flag]) values ++ rest) :
    ∃ byte front after,
      readField? .bit opened bytes = some (.bit flag, some byte, after) ∧
        bytes = front ++ after ∧
        InRun (raw ++ front) (taken ++ [flag]) (some byte) := by
  have held : taken ++ [flag] <+: (raw ++ bytes).flatMap Bits.unpack := by
    rw [written, List.flatMap_append]
    exact (prefix_flags_writeValues _ values).trans (List.prefix_append _ _)
  obtain ⟨byte, after, took⟩ := inRun.takeFlag?_of_prefix held
  obtain ⟨front, split, next⟩ := inRun.takeFlag took
  refine ⟨byte, front, after, ?_, split, next⟩
  rw [readField?, if_pos (by rfl), took]
  rfl

/-- The values in front of a run are read back, whatever the run has taken so
far and whatever follows. -/
theorem readFields_of_writeValues
    {values : List Value} {fields : List Field}
    (fits : ∀ value ∈ values, Encoding.overlong? value = none)
    (typed : values.map Value.type = fields.map Field.type)
    (inRun : InRun raw taken opened)
    (written : raw ++ bytes = writeValues taken values ++ rest) :
    readFields fields opened bytes = .ok (values, rest) := by
  induction values generalizing fields raw bytes taken opened with
  | nil =>
      have noFields : fields = [] := by
        simpa using typed.symm
      subst fields
      have left : bytes = rest :=
        (List.append_inj written inRun.length_raw).2
      rw [readFields, left]
  | cons value values inductionHypothesis =>
      cases fields with
      | nil =>
          cases typed
      | cons field fields =>
          simp only [List.map_cons, List.cons.injEq] at typed
          obtain ⟨headTyped, tailTyped⟩ := typed
          have headFits := fits value List.mem_cons_self
          have tailFits := fun other member =>
            fits other (List.mem_cons_of_mem value member)
          apply readFields_cons_eq_ok_iff.mpr
          rw [← headTyped]
          cases plain : value.type.isFlag with
          | false =>
              rw [writeValues_plain plain, List.append_assoc,
                List.append_assoc] at written
              exact ⟨value, none, writeValues [] values ++ rest, values,
                readField?_of_plain plain headFits inRun written,
                inductionHypothesis tailFits tailTyped InRun.start rfl, rfl⟩
          | true =>
              cases value with
              | bit flag =>
                  obtain ⟨byte, front, after, readHead, rfl, next⟩ :=
                    readField?_of_flag inRun written
                  rw [← List.append_assoc] at written
                  exact ⟨.bit flag, some byte, after, values, readHead,
                    inductionHypothesis tailFits tailTyped next written,
                    rfl⟩
              | _ =>
                  cases plain

end

/-- Whatever follows them, the bytes that are written are read as the values
they were written for. -/
theorem readFields_writeValues
    {fields : List Field} {values : List Value}
    (typed : values.map Value.type = fields.map Field.type)
    (fits : ∀ value ∈ values, Encoding.overlong? value = none)
    (rest : List UInt8) :
    readFields fields none (writeValues [] values ++ rest) = .ok (values, rest) :=
  readFields_of_writeValues fits typed InRun.start rfl

end MethodCodec.OnePass
