import Mathlib
import MethodCodec.Proofs.OnePass

/-!
# Plans carried out

Carrying out the reading plan of a layout is reading in one pass, and carrying
out the writing plan is writing in one pass.  For reading, the plan is first
laid out step by step along the fields, so that each field of the pass has its
own steps; then one field at a time is carried out.
-/

namespace MethodCodec

open OnePass

/-! ## The reading plan along the fields -/

namespace Layout

/-- The steps that read one field.  A flag at position zero needs a byte
first. -/
def fieldSteps (index position : Nat) (kind : WireType) : List ReadStep :=
  if kind.isFlag then
    if position = 0 then
      [.flagByte, .flag index 0]
    else
      [.flag index position]
  else
    [.field index]

/-- The position of the next flag after a field has been read. -/
def positionAfter (position : Nat) (kind : WireType) : Nat :=
  if kind.isFlag then (position + 1) % 8 else 0

/-- The steps that read fields from an index on. -/
def steps (index position : Nat) : List WireType → List ReadStep
  | [] => []
  | kind :: kinds =>
      fieldSteps index position kind ++
        steps (index + 1) (positionAfter position kind) kinds

theorem readPlan_closeRun (run : List Nat) (rest : List Segment) :
    readPlan (closeRun run rest) =
      (Bits.chunks run.reverse).flatMap readChunk ++ readPlan rest := by
  cases run with
  | nil =>
      simp [closeRun]
  | cons last before =>
      rfl

@[simp]
theorem readChunk_concat (chunk : List Nat) (index : Nat) :
    readChunk (chunk ++ [index]) =
      readChunk chunk ++ [.flag index chunk.length] := by
  simp [readChunk, List.mapIdx_append]

/-- One more flag in a run adds the steps of that flag. -/
theorem flatMap_readChunk_concat (run : List Nat) (index : Nat) :
    (Bits.chunks (run ++ [index])).flatMap readChunk =
      (Bits.chunks run).flatMap readChunk ++
        fieldSteps index (run.length % 8) .bit := by
  induction run using Bits.chunks_induction with
  | nil =>
      rw [List.nil_append, Bits.chunks_of_length_le (by simp) (by simp)]
      simp [readChunk, fieldSteps, WireType.isFlag]
  | step run nonempty inductionHypothesis =>
      by_cases short : run.length < 8
      · have positive := List.length_pos_iff.mpr nonempty
        have position : run.length % 8 = run.length :=
          Nat.mod_eq_of_lt short
        rw [Bits.chunks_of_length_le (by simp) (by simp; omega),
          Bits.chunks_of_length_le nonempty (by omega),
          List.flatMap_singleton, List.flatMap_singleton,
          readChunk_concat, position, fieldSteps,
          if_pos (by rfl), if_neg (by omega)]
      · have position : (run.drop 8).length % 8 = run.length % 8 := by
          rw [List.length_drop]
          omega
        rw [Bits.chunks_of_ne_nil (by simp), Bits.chunks_of_ne_nil nonempty,
          List.take_append_of_le_length (by omega),
          List.drop_append_of_le_length (by omega), List.flatMap_cons,
          List.flatMap_cons, inductionHypothesis, position,
          List.append_assoc]

/-- The reading plan, while a run is open, is what reads the flags seen of the
run and then goes on along the fields. -/
theorem readPlan_segmentsFrom
    (index : Nat) (run : List Nat) (kinds : List WireType) :
    readPlan (segmentsFrom index run kinds) =
      (Bits.chunks run.reverse).flatMap readChunk ++
        steps index (run.length % 8) kinds := by
  induction kinds generalizing index run with
  | nil =>
      rw [segmentsFrom, readPlan_closeRun]
      rfl
  | cons kind kinds inductionHypothesis =>
      rw [segmentsFrom, steps]
      split_ifs with flag
      · obtain rfl := Encoding.eq_bit_of_isFlag flag
        rw [inductionHypothesis, List.reverse_cons,
          flatMap_readChunk_concat, List.length_reverse, List.append_assoc,
          positionAfter, if_pos flag, List.length_cons, Nat.mod_add_mod]
      · rw [readPlan_closeRun, readPlan, List.flatMap_cons, ← readPlan,
          inductionHypothesis, fieldSteps, if_neg flag, positionAfter,
          if_neg flag]
        simp [readSegment]

/-- The reading plan of a list of fields, laid out along the fields. -/
theorem readPlan_segments (kinds : List WireType) :
    readPlan (segments kinds) = steps 0 0 kinds := by
  rw [segments, readPlan_segmentsFrom]
  simp

end Layout

/-! ## Carrying out the reading plan -/

namespace Codec

/-- The flags that a reading keeps are those of the open byte. -/
def Shows (flags : List Bool) : Option OpenByte → Prop
  | none => True
  | some ⟨byte, next⟩ => flags = Bits.unpack byte ∧ 0 < next ∧ next ≤ 8

/-- The position of the next flag in the open byte, zero when there is
none. -/
def position : Option OpenByte → Nat
  | none => 0
  | some ⟨_, next⟩ => next % 8

variable {fields : List Field} {index : Nat} {opened : Option OpenByte}
  {flags : List Bool} {slots : List (Option Value)}

theorem readStep_flag
    (declared : index < fields.length) {place : Nat} (inside : place < 8)
    (byte : UInt8) (rest : List UInt8) :
    readStep fields ⟨rest, Bits.unpack byte, slots⟩ (.flag index place) =
      .ok ⟨rest, Bits.unpack byte,
        slots.set index (some (.bit (byte.toNat.testBit place)))⟩ := by
  simp only [readStep, if_pos declared, Bits.getElem?_unpack inside]

/-- Opening a byte and taking its first flag. -/
theorem foldlM_openByte (declared : index < fields.length)
    (bytes : List UInt8) :
    [ReadStep.flagByte, .flag index 0].foldlM (readStep fields)
        ⟨bytes, flags, slots⟩ =
      match openByte? bytes with
      | none => .error (.truncated flagByteName)
      | some (flag, byte, rest) =>
          .ok ⟨rest, Bits.unpack byte.byte,
            slots.set index (some (.bit flag))⟩ := by
  cases bytes with
  | nil =>
      rfl
  | cons byte rest =>
      have opens :
          readStep fields ⟨byte :: rest, flags, slots⟩ .flagByte =
            .ok ⟨rest, Bits.unpack byte, slots⟩ := rfl
      rw [List.foldlM_cons, opens]
      change [ReadStep.flag index 0].foldlM (readStep fields)
        ⟨rest, Bits.unpack byte, slots⟩ = _
      rw [List.foldlM_cons, readStep_flag declared (by decide)]
      rfl

/-- The steps of one flag take that flag. -/
theorem foldlM_fieldSteps_flag
    (declared : index < fields.length) (shows : Shows flags opened)
    (bytes : List UInt8) :
    (Layout.fieldSteps index (position opened) .bit).foldlM
        (readStep fields) ⟨bytes, flags, slots⟩ =
      match takeFlag? opened bytes with
      | none => .error (.truncated flagByteName)
      | some (flag, byte, rest) =>
          .ok ⟨rest, Bits.unpack byte.byte,
            slots.set index (some (.bit flag))⟩ := by
  rw [Layout.fieldSteps, if_pos (show WireType.bit.isFlag = true from rfl)]
  match opened with
  | none =>
      exact foldlM_openByte declared bytes
  | some ⟨byte, next⟩ =>
      obtain ⟨rfl, positive, atMost⟩ := shows
      by_cases inside : next < 8
      · have here : next % 8 = next := Nat.mod_eq_of_lt inside
        rw [position, here, if_neg (by omega), takeFlag?, if_pos inside,
          List.foldlM_cons, readStep_flag declared inside]
        rfl
      · have full : next % 8 = 0 := by
          omega
        rw [position, full, if_pos rfl, takeFlag?, if_neg inside]
        exact foldlM_openByte declared bytes

theorem shows_of_takeFlag?
    {bytes rest : List UInt8} {flag : Bool} {byte : OpenByte}
    (shows : Shows flags opened)
    (took : takeFlag? opened bytes = some (flag, byte, rest)) :
    Shows (Bits.unpack byte.byte) (some byte) ∧
      position (some byte) = (position opened + 1) % 8 := by
  have opening
      (took : openByte? bytes = some (flag, byte, rest)) :
      byte.next = 1 := by
    cases bytes with
    | nil =>
        cases took
    | cons first others =>
        cases took
        rfl
  match opened with
  | none =>
      have first := opening took
      exact ⟨⟨rfl, by omega, by omega⟩, by simp [position, first]⟩
  | some ⟨before, next⟩ =>
      obtain ⟨_, positive, atMost⟩ := shows
      rw [takeFlag?] at took
      split_ifs at took with inside
      · cases took
        exact ⟨⟨rfl, by omega, by omega⟩, by simp [position]⟩
      · have first := opening took
        have eight : next = 8 := by
          omega
        exact ⟨⟨rfl, by omega, by omega⟩, by simp [position, first, eight]⟩

/-- A field whose bytes are missing stops its steps with the fault that names
it. -/
theorem foldlM_fieldSteps_missing
    {field : Field} (declared : fields[index]? = some field)
    (shows : Shows flags opened) {bytes : List UInt8}
    (missed : readField? field.type opened bytes = none) :
    (Layout.fieldSteps index (position opened) field.type).foldlM
        (readStep fields) ⟨bytes, flags, slots⟩ =
      .error (.truncated (missing field)) := by
  rw [readField?] at missed
  split_ifs at missed with flag
  · have bit : field.type = .bit := Encoding.eq_bit_of_isFlag flag
    have inside := (List.getElem?_eq_some_iff.mp declared).1
    rw [bit, foldlM_fieldSteps_flag inside shows,
      Option.map_eq_none_iff.mp missed, missing, if_pos flag]
    rfl
  · rw [Layout.fieldSteps, if_neg flag, List.foldlM_cons]
    simp only [readStep, declared, if_neg flag, Encoding.valueRead?_eq,
      Option.map_eq_none_iff.mp missed, missing]
    rfl

/-- The steps of a field that is there fill its slot and keep the open
byte. -/
theorem foldlM_fieldSteps
    {field : Field} (declared : fields[index]? = some field)
    (shows : Shows flags opened) {bytes rest : List UInt8}
    {value : Value} {next : Option OpenByte}
    (readHead : readField? field.type opened bytes =
      some (value, next, rest)) :
    ∃ after,
      (Layout.fieldSteps index (position opened) field.type).foldlM
          (readStep fields) ⟨bytes, flags, slots⟩ =
        .ok ⟨rest, after, slots.set index (some value)⟩ ∧
      Shows after next ∧
      position next = Layout.positionAfter (position opened) field.type := by
  rw [readField?] at readHead
  split_ifs at readHead with flag
  · have bit : field.type = .bit := Encoding.eq_bit_of_isFlag flag
    have inside := (List.getElem?_eq_some_iff.mp declared).1
    obtain ⟨⟨taken, byte, after⟩, took, equality⟩ :=
      Option.map_eq_some_iff.mp readHead
    cases equality
    obtain ⟨showsNext, moved⟩ := shows_of_takeFlag? shows took
    refine ⟨Bits.unpack byte.byte, ?_, showsNext, ?_⟩
    · rw [bit, foldlM_fieldSteps_flag inside shows, took]
    · rw [moved, Layout.positionAfter, if_pos flag]
  · obtain ⟨⟨own, after⟩, readOwn, equality⟩ :=
      Option.map_eq_some_iff.mp readHead
    cases equality
    refine ⟨flags, ?_, trivial, ?_⟩
    · rw [Layout.fieldSteps, if_neg flag, List.foldlM_cons]
      simp only [readStep, declared, if_neg flag, Encoding.valueRead?_eq,
        readOwn]
      rfl
    · rw [Layout.positionAfter, if_neg flag]
      rfl

/-- Carrying out the steps of the fields that are left is reading them in one
pass: the same faults, and the values behind those that are there already. -/
theorem foldlM_steps
    {todo : List Field} :
    ∀ (done : List Field) (values : List Value) {opened : Option OpenByte}
      {flags : List Bool} (bytes : List UInt8),
      values.length = done.length →
      Shows flags opened →
      ((Layout.steps done.length (position opened)
          (todo.map Field.type)).foldlM (readStep (done ++ todo))
          ⟨bytes, flags, values.map some ++ todo.map fun _ => none⟩).map
          (fun reading => (reading.slots, reading.rest)) =
        (readFields todo opened bytes).map fun (others, rest) =>
          ((values ++ others).map some, rest) := by
  induction todo with
  | nil =>
      intro done values opened flags bytes _ _
      simp [Layout.steps, readFields, Except.map, pure, Except.pure]
  | cons field todo inductionHypothesis =>
      intro done values opened flags bytes filled shows
      have declared : (done ++ field :: todo)[done.length]? = some field := by
        simp
      rw [List.map_cons (f := Field.type), Layout.steps, List.foldlM_append,
        readFields]
      cases readHead : readField? field.type opened bytes with
      | none =>
          rw [foldlM_fieldSteps_missing declared shows readHead]
          rfl
      | some result =>
          obtain ⟨value, next, rest⟩ := result
          obtain ⟨after, ran, showsNext, moved⟩ :=
            foldlM_fieldSteps declared shows readHead
          have slots :
              (values.map some ++ (field :: todo).map fun _ => none).set
                  done.length (some value) =
                (values ++ [value]).map some ++
                  todo.map fun _ => none := by
            rw [← filled]
            simp
          have later :=
            inductionHypothesis (done ++ [field]) (values ++ [value]) rest
              (by simp [filled]) showsNext
          simp only [List.length_append, List.length_singleton,
            List.append_assoc, List.singleton_append] at later
          rw [ran, slots, ← moved]
          refine later.trans ?_
          dsimp only
          cases readFields todo next rest <;> rfl

/-- Carrying out the whole reading plan of a list of fields. -/
theorem foldlM_readPlan (fields : List Field) (payload : List UInt8) :
    ((Layout.readPlan (Layout.segments (fields.map Field.type))).foldlM
        (readStep fields) (Reading.start fields payload)).map
        (fun reading => (reading.slots, reading.rest)) =
      (readFields fields none payload).map fun (values, rest) =>
        (values.map some, rest) := by
  have start : Shows (Reading.start fields payload).flags none := trivial
  rw [Layout.readPlan_segments]
  exact foldlM_steps [] [] payload rfl start

theorem foldlM_readPlan_of_error
    {fields : List Field} {payload : List UInt8} {fault : CodecFault}
    (passed : readFields fields none payload = .error fault) :
    (Layout.readPlan (Layout.segments (fields.map Field.type))).foldlM
        (readStep fields) (Reading.start fields payload) =
      .error fault := by
  have ran := foldlM_readPlan fields payload
  rw [passed] at ran
  cases outcome :
      (Layout.readPlan (Layout.segments (fields.map Field.type))).foldlM
        (readStep fields) (Reading.start fields payload) with
  | error other =>
      rw [outcome] at ran
      cases ran
      rfl
  | ok reading =>
      rw [outcome] at ran
      cases ran

theorem foldlM_readPlan_of_ok
    {fields : List Field} {payload rest : List UInt8} {values : List Value}
    (passed : readFields fields none payload = .ok (values, rest)) :
    ∃ flags,
      (Layout.readPlan (Layout.segments (fields.map Field.type))).foldlM
          (readStep fields) (Reading.start fields payload) =
        .ok ⟨rest, flags, values.map some⟩ := by
  have ran := foldlM_readPlan fields payload
  rw [passed] at ran
  cases outcome :
      (Layout.readPlan (Layout.segments (fields.map Field.type))).foldlM
        (readStep fields) (Reading.start fields payload) with
  | error other =>
      rw [outcome] at ran
      cases ran
  | ok reading =>
      rw [outcome] at ran
      obtain ⟨left, flags, slots⟩ := reading
      cases ran
      exact ⟨flags, rfl⟩

/-! ## Carrying out the writing plan -/

section

variable {fields : List Field} {values : List Value}

@[simp]
theorem writeBy_nil : writeBy [] fields values = .ok [] :=
  rfl

theorem writeBy_cons (step : WriteStep) (plan : List WriteStep) :
    writeBy (step :: plan) fields values =
      (writeStep fields values step).bind fun bytes =>
        (writeBy plan fields values).map fun others => bytes ++ others := by
  rw [writeBy, writeBy, List.mapM_cons]
  cases writeStep fields values step with
  | error fault =>
      rfl
  | ok bytes =>
      cases plan.mapM (writeStep fields values) <;> rfl

theorem writeStep_field
    {index : Nat} {field : Field} {value : Value}
    (declared : fields[index]? = some field)
    (given : values[index]? = some value)
    (plain : value.type.isFlag = false) :
    writeStep fields values (.field index) =
      match Encoding.overlong? value with
      | none => .ok (Encoding.bytes value)
      | some length => .error (.tooLong field.name.written length) := by
  simp only [writeStep, declared, given, plain, Encoding.valueWrite_eq]
  cases Encoding.overlong? value <;> rfl

theorem writeBy_closeRun
    {run : List Nat} {pending : List Bool}
    (flags : run.reverse.mapM (flagAt values) = .ok pending)
    (rest : List Segment) :
    writeBy (Layout.writePlan (Layout.closeRun run rest)) fields values =
      (writeBy (Layout.writePlan rest) fields values).map fun others =>
        flush pending ++ others := by
  cases run with
  | nil =>
      cases flags
      rw [Layout.closeRun]
      cases writeBy (Layout.writePlan rest) fields values <;> rfl
  | cons last before =>
      have written :
          writeStep fields values (.flags (last :: before).reverse) =
            .ok (flush pending) := by
        rw [writeStep, flags, flush_eq_pack]
      rw [Layout.closeRun, Layout.writePlan, List.map_cons,
        Layout.writeSegment, writeBy_cons, written, ← Layout.writePlan]
      rfl

/-- One more flag in a run adds that flag to those that are pending. -/
theorem mapM_flagAt_concat
    {run : List Nat} {pending : List Bool} {index : Nat} {flag : Bool}
    (flags : run.reverse.mapM (flagAt values) = .ok pending)
    (given : values[index]? = some (.bit flag)) :
    (index :: run).reverse.mapM (flagAt values) = .ok (pending ++ [flag]) := by
  have here : flagAt values index = .ok flag := by
    rw [flagAt, given]
    cases flag <;> rfl
  rw [List.reverse_cons, List.mapM_append, flags, List.mapM_cons, here]
  rfl

/-- A field that is no flag flushes the run in front of it and writes its own
bytes. -/
theorem writeBy_closeRun_field
    {run : List Nat} {pending : List Bool} {index : Nat} {field : Field}
    {value : Value}
    (flags : run.reverse.mapM (flagAt values) = .ok pending)
    (declared : fields[index]? = some field)
    (given : values[index]? = some value)
    (plain : value.type.isFlag = false) (rest : List Segment) :
    writeBy (Layout.writePlan (Layout.closeRun run (.field index :: rest)))
        fields values =
      match Encoding.overlong? value with
      | none =>
          (writeBy (Layout.writePlan rest) fields values).map fun others =>
            flush pending ++ Encoding.bytes value ++ others
      | some length => .error (.tooLong field.name.written length) := by
  rw [writeBy_closeRun flags, Layout.writePlan, List.map_cons,
    Layout.writeSegment, writeBy_cons, writeStep_field declared given plain,
    ← Layout.writePlan]
  cases Encoding.overlong? value with
  | some length =>
      rfl
  | none =>
      cases writeBy (Layout.writePlan rest) fields values with
      | error fault =>
          rfl
      | ok others =>
          simp [Except.map, Except.bind]

end

/-- Carrying out the writing plan of the fields that are left is writing their
values in one pass, unless one of them is too long. -/
theorem writeBy_segmentsFrom
    {todo : List Field} :
    ∀ (done : List Field) (before after : List Value) {run : List Nat}
      {pending : List Bool},
      before.length = done.length →
      after.map Value.type = todo.map Field.type →
      run.reverse.mapM (flagAt (before ++ after)) = .ok pending →
      writeBy
          (Layout.writePlan
            (Layout.segmentsFrom done.length run (todo.map Field.type)))
          (done ++ todo) (before ++ after) =
        match firstOverlong? todo after with
        | some (name, length) => .error (.tooLong name length)
        | none => .ok (writeValues pending after) := by
  induction todo with
  | nil =>
      intro done before after run pending aligned typed flags
      have noValues : after = [] := by
        simpa using typed
      subst after
      rw [List.map_nil, Layout.segmentsFrom, writeBy_closeRun flags,
        Layout.writePlan, List.map_nil, writeBy_nil]
      simp [firstOverlong?, writeValues, Except.map]
  | cons field todo inductionHypothesis =>
      intro done before after run pending aligned typed flags
      cases after with
      | nil =>
          cases typed
      | cons value after =>
          simp only [List.map_cons, List.cons.injEq] at typed
          obtain ⟨headTyped, tailTyped⟩ := typed
          have declared :
              (done ++ field :: todo)[done.length]? = some field := by
            simp
          have given :
              (before ++ value :: after)[done.length]? = some value := by
            simp [← aligned]
          have later {run : List Nat} {pending : List Bool}
              (flags :
                run.reverse.mapM (flagAt (before ++ value :: after)) =
                  .ok pending) :=
            inductionHypothesis (done ++ [field]) (before ++ [value]) after
              (by simp [aligned]) tailTyped (by simpa using flags)
          simp only [List.length_append, List.length_singleton,
            List.append_assoc, List.singleton_append] at later
          rw [List.map_cons, Layout.segmentsFrom, firstOverlong?_cons,
            ← headTyped]
          cases plain : value.type.isFlag with
          | true =>
              cases value with
              | bit flag =>
                  exact later (mapM_flagAt_concat flags given)
              | _ =>
                  cases plain
          | false =>
              have noRun :
                  [].reverse.mapM (flagAt (before ++ value :: after)) =
                    .ok [] := rfl
              rw [if_neg (by simp),
                writeBy_closeRun_field flags declared given plain,
                later noRun, writeValues_plain plain]
              cases Encoding.overlong? value with
              | some length =>
                  rfl
              | none =>
                  cases firstOverlong? todo after <;> rfl

/-- Carrying out the whole writing plan of a list of fields. -/
theorem writeBy_writePlan
    {fields : List Field} {values : List Value}
    (typed : values.map Value.type = fields.map Field.type) :
    writeBy (Layout.writePlan (Layout.segments (fields.map Field.type)))
        fields values =
      match firstOverlong? fields values with
      | some (name, length) => .error (.tooLong name length)
      | none => .ok (writeValues [] values) := by
  have noRun : [].reverse.mapM (flagAt ([] ++ values)) = .ok [] := rfl
  exact writeBy_segmentsFrom [] [] values rfl typed noRun

end Codec

end MethodCodec
