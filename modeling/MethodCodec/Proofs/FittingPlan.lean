import Mathlib
import MethodCodec.Proofs.Codec
import MethodCodec.Proofs.MaximalRuns
import MethodCodec.Proofs.SourceFile
import MethodCodec.Protocol.Outline

/-!
# Plans that fit their arguments

A plan fits a list of arguments if it names declared arguments only, treats
those as flags that are flags, and takes no flag from beyond a byte.  A plan
that fits can be carried out on every payload and on all values of the declared
types.  The plans of a layout fit, so no method, class or protocol meets a
plan that does not.
-/

namespace MethodCodec

/-! ## Steps that fit -/

/-- There is an argument at a position, and it is a flag or not, as asked. -/
def Declares (fields : List Field) (index : Nat) (flag : Bool) : Prop :=
  ∃ field, fields[index]? = some field ∧ field.type.isFlag = flag

def Segment.Fits (fields : List Field) : Segment → Prop
  | .field index => Declares fields index false
  | .flags indices => ∀ index ∈ indices, Declares fields index true

def ReadStep.Fits (fields : List Field) : ReadStep → Prop
  | .field index => Declares fields index false
  | .flagByte => True
  | .flag index position => Declares fields index true ∧ position < 8

def WriteStep.Fits (fields : List Field) : WriteStep → Prop
  | .field index => Declares fields index false
  | .flags indices => ∀ index ∈ indices, Declares fields index true

section

variable {fields : List Field}

theorem Segment.Fits.readStep
    {segment : Segment} (fits : segment.Fits fields) {step : ReadStep}
    (member : step ∈ Layout.readSegment segment) :
    step.Fits fields := by
  cases segment with
  | field index =>
      rw [List.mem_singleton.mp member]
      exact fits
  | flags indices =>
      obtain ⟨chunk, inside, member⟩ := List.mem_flatMap.mp member
      rcases List.mem_cons.mp member with rfl | taken
      · trivial
      · obtain ⟨position, below, rfl⟩ := List.mem_mapIdx.mp taken
        have given : chunk[position] ∈ indices := by
          rw [← Bits.flatten_chunks indices]
          exact List.mem_flatten.mpr ⟨chunk, inside, List.getElem_mem below⟩
        exact ⟨fits _ given,
          Nat.lt_of_lt_of_le below (Bits.length_le_of_mem_chunks inside)⟩

theorem Segment.Fits.writeStep
    {segment : Segment} (fits : segment.Fits fields) :
    (Layout.writeSegment segment).Fits fields := by
  cases segment <;> exact fits

end

namespace Method

theorem declares_of_kind
    {method : Method} {index : Nat} {flag : Bool}
    (found : ∃ kind,
      (method.fields.map Field.type)[index]? = some kind ∧
        kind.isFlag = flag) :
    Declares method.fields index flag := by
  obtain ⟨kind, found, isFlag⟩ := found
  rw [List.getElem?_map] at found
  obtain ⟨field, declared, rfl⟩ := Option.map_eq_some_iff.mp found
  exact ⟨field, declared, isFlag⟩

theorem fits_of_mem_layout
    {method : Method} {segment : Segment} (member : segment ∈ method.layout) :
    segment.Fits method.fields := by
  have laysOut :=
    (Layout.laysOut_iff_eq_segments (method.fields.map Field.type) _).mpr rfl
  cases segment with
  | field index => exact declares_of_kind (laysOut.plain index member)
  | flags indices =>
      intro index inside
      exact declares_of_kind (laysOut.flags indices member index inside)

theorem fits_of_mem_readPlan
    {method : Method} {step : ReadStep} (member : step ∈ method.readPlan) :
    step.Fits method.fields := by
  obtain ⟨segment, inside, member⟩ := List.mem_flatMap.mp member
  exact (fits_of_mem_layout inside).readStep member

theorem fits_of_mem_writePlan
    {method : Method} {step : WriteStep} (member : step ∈ method.writePlan) :
    step.Fits method.fields := by
  obtain ⟨segment, inside, rfl⟩ := List.mem_map.mp member
  exact (fits_of_mem_layout inside).writeStep

end Method

/-! ## Plans carried out -/

namespace Codec

/-- An outcome that is not due to a plan that does not fit. -/
def Planned {α : Type} (outcome : Except CodecFault α) : Prop :=
  ∀ fault, outcome ≠ .error (.misplanned fault)

section

variable {α β : Type}

@[simp]
theorem planned_ok (value : α) : Planned (.ok value) :=
  fun _ same => by cases same

theorem planned_map
    {outcome : Except CodecFault α} (planned : Planned outcome)
    (change : α → β) :
    Planned (outcome.map change) := by
  cases outcome with
  | ok value => exact planned_ok (change value)
  | error fault =>
      intro other same
      cases same
      exact planned other rfl

theorem planned_bind
    {outcome : Except CodecFault α} (planned : Planned outcome)
    {next : α → Except CodecFault β}
    (later : ∀ value, outcome = .ok value → Planned (next value)) :
    Planned (outcome >>= next) := by
  cases outcome with
  | ok value => exact later value rfl
  | error fault =>
      intro other same
      cases same
      exact planned other rfl

theorem planned_mapM
    {items : List α} {f : α → Except CodecFault β}
    (each : ∀ item ∈ items, Planned (f item)) :
    Planned (items.mapM f) := by
  induction items with
  | nil => exact planned_ok []
  | cons item items inductionHypothesis =>
      obtain ⟨here, each⟩ := List.forall_mem_cons.mp each
      rw [List.mapM_cons]
      refine planned_bind here fun value _ => ?_
      exact planned_bind (inductionHypothesis each) fun values _ => planned_ok _

end

section

variable {fields : List Field} {values : List Value} {reading : Reading}

/-- A step that fits is carried out, or bytes are missing for it. -/
theorem planned_readStep
    (eight : reading.flags.length = 8) {step : ReadStep}
    (fits : step.Fits fields) :
    Planned (readStep fields reading step) := by
  cases step with
  | field index =>
      obtain ⟨field, declared, plain⟩ := fits
      simp only [readStep, declared, plain]
      cases Value.read? field.type reading.rest with
      | none => intro fault same; cases same
      | some result => exact planned_ok _
  | flagByte =>
      simp only [readStep]
      cases reading.rest with
      | nil => intro fault same; cases same
      | cons byte rest => exact planned_ok _
  | flag index position =>
      obtain ⟨⟨field, declared, _⟩, inside⟩ := fits
      have below : index < fields.length :=
        (List.getElem?_eq_some_iff.mp declared).1
      have bit : reading.flags[position]? = some reading.flags[position] :=
        List.getElem?_eq_getElem (by omega)
      simp only [readStep, if_pos below, bit]
      exact planned_ok _

/-- Eight flags are in sight at all times. -/
theorem length_flags_of_readStep
    (eight : reading.flags.length = 8) {step : ReadStep} {after : Reading}
    (ran : readStep fields reading step = .ok after) :
    after.flags.length = 8 := by
  cases step with
  | field index =>
      simp only [readStep] at ran
      split at ran
      · cases ran
      · split_ifs at ran
        split at ran <;> cases ran
        exact eight
  | flagByte =>
      simp only [readStep] at ran
      split at ran <;> cases ran
      exact Bits.length_unpack _
  | flag index position =>
      simp only [readStep] at ran
      split_ifs at ran
      split at ran <;> cases ran
      exact eight

theorem planned_foldlM_readStep
    {plan : List ReadStep} (fits : ∀ step ∈ plan, step.Fits fields)
    (eight : reading.flags.length = 8) :
    Planned (plan.foldlM (readStep fields) reading) := by
  induction plan generalizing reading with
  | nil => exact planned_ok reading
  | cons step plan inductionHypothesis =>
      obtain ⟨here, fits⟩ := List.forall_mem_cons.mp fits
      rw [List.foldlM_cons]
      refine planned_bind (planned_readStep eight here) fun after ran => ?_
      exact inductionHypothesis fits (length_flags_of_readStep eight ran)

/-- A plan that fits can be carried out on every payload. -/
theorem planned_readBy
    {plan : List ReadStep} (fits : ∀ step ∈ plan, step.Fits fields)
    (payload : List UInt8) :
    Planned (readBy plan fields payload) := by
  have start : (Reading.start fields payload).flags.length = 8 := rfl
  have values :
      readBy plan fields payload =
        (plan.foldlM (readStep fields) (Reading.start fields payload)).map
          fun reading => reading.slots.filterMap id := by
    rw [readBy]
    cases plan.foldlM (readStep fields) (Reading.start fields payload) <;> rfl
  rw [values]
  exact planned_map (planned_foldlM_readStep fits start) _

/-- A plan that takes a ninth flag from a byte does not fit. -/
example :
    readBy [.flagByte, .flag 0 8] [Method.sampleField "wait" .bit] [255] =
      .error (.misplanned (.noPosition 8)) := by
  cbv

/-- Values of the declared types are there for every argument that is. -/
theorem exists_value
    (typed : values.map Value.type = fields.map Field.type)
    {index : Nat} {flag : Bool} (declares : Declares fields index flag) :
    ∃ value, values[index]? = some value ∧ value.type.isFlag = flag := by
  obtain ⟨field, declared, isFlag⟩ := declares
  have types := congrArg (fun types => types[index]?) typed
  simp only [List.getElem?_map, declared, Option.map_some] at types
  obtain ⟨value, given, same⟩ := Option.map_eq_some_iff.mp types
  exact ⟨value, given, same ▸ isFlag⟩

theorem planned_writeStep
    (typed : values.map Value.type = fields.map Field.type)
    {step : WriteStep} (fits : step.Fits fields) :
    Planned (writeStep fields values step) := by
  cases step with
  | field index =>
      obtain ⟨value, given, plain⟩ := exists_value typed fits
      obtain ⟨field, declared, _⟩ := fits
      simp only [writeStep, declared, given, plain]
      cases value.write with
      | ok bytes => exact planned_ok bytes
      | error length => intro fault same; cases same
  | flags indices =>
      have bytes :
          writeStep fields values (.flags indices) =
            (indices.mapM (flagAt values)).map Bits.pack := by
        rw [writeStep]
        cases indices.mapM (flagAt values) <;> rfl
      rw [bytes]
      refine planned_map (planned_mapM fun index member => ?_) Bits.pack
      obtain ⟨value, given, _⟩ := exists_value typed (fits index member)
      rw [flagAt, given]
      exact planned_ok _

/-- A plan that fits can be carried out on all values of the declared types. -/
theorem planned_writeBy
    (typed : values.map Value.type = fields.map Field.type)
    {plan : List WriteStep} (fits : ∀ step ∈ plan, step.Fits fields) :
    Planned (writeBy plan fields values) := by
  have bytes :
      writeBy plan fields values =
        (plan.mapM (writeStep fields values)).map List.flatten := by
    rw [writeBy]
    cases plan.mapM (writeStep fields values) <;> rfl
  have each := fun step member => planned_writeStep typed (fits step member)
  rw [bytes]
  exact planned_map (planned_mapM each) List.flatten

end

end Codec

/-! ## Methods, classes and protocols -/

namespace Method

theorem planned_decode (method : Method) (payload : List UInt8) :
    Codec.Planned (method.decode payload) :=
  Codec.planned_readBy (fun _ member => fits_of_mem_readPlan member) payload

/-- Other values than those of the declared types are refused before the plan
is carried out. -/
theorem planned_encode (method : Method) (values : List Value) :
    Codec.Planned (method.encode values) := by
  rw [encode]
  split_ifs with misaligned
  · intro fault same
    cases same
  · cases mismatch : Codec.firstMismatch? method.fields values with
    | some field => intro fault same; cases same
    | none =>
        have typed :=
          (Codec.firstMismatch?_eq_none_iff (not_not.mp misaligned)).mp mismatch
        exact Codec.planned_writeBy typed fun _ member =>
          fits_of_mem_writePlan member

theorem exists_outlineSegment
    {method : Method} {segment : Segment} (fits : segment.Fits method.fields) :
    ∃ outline, method.outlineSegment segment = .ok outline := by
  have named {index : Nat} {flag : Bool}
      (declares : Declares method.fields index flag) :
      ∃ name, method.argumentName index = .ok name := by
    obtain ⟨field, declared, _⟩ := declares
    exact ⟨field.name.written, by rw [argumentName, declared]⟩
  cases segment with
  | field index =>
      obtain ⟨name, found⟩ := named fits
      exact ⟨.text name, by rw [outlineSegment, found]; rfl⟩
  | flags indices =>
      obtain ⟨names, found⟩ :=
        exists_mapM_eq_ok fun index member => named (fits index member)
      exact ⟨_, by rw [outlineSegment, found]⟩

theorem exists_outline (method : Method) :
    ∃ outline, method.outline = .ok outline := by
  obtain ⟨nodes, shown⟩ :=
    exists_mapM_eq_ok fun segment (member : segment ∈ method.layout) =>
      exists_outlineSegment (fits_of_mem_layout member)
  exact ⟨_, by rw [outline, shown]⟩

end Method

theorem ProtocolClass.exists_outline (cls : ProtocolClass) :
    ∃ outline, cls.outline = .ok outline := by
  obtain ⟨methods, shown⟩ :=
    exists_mapM_eq_ok fun method (_ : method ∈ cls.methods) =>
      method.exists_outline
  exact ⟨_, by rw [outline, shown]⟩

theorem Protocol.exists_outline (protocol : Protocol) :
    ∃ outline, protocol.outline = .ok outline := by
  obtain ⟨classes, shown⟩ :=
    exists_mapM_eq_ok fun cls (_ : cls ∈ protocol.classes) =>
      cls.exists_outline
  exact ⟨_, by rw [outline, shown]⟩

/-- The plans of every method fit its arguments. So no payload and no list of
values, whatever its length and types, makes the codec meet an argument that is
not declared, a flag on its own or a position beyond a byte; every method has
its lines, every class its module, and the protocol its outline. -/
theorem Protocol.plans_fit (protocol : Protocol) :
    (∀ method ∈ protocol.methods,
      (∀ step ∈ method.readPlan, step.Fits method.fields) ∧
        (∀ step ∈ method.writePlan, step.Fits method.fields) ∧
        (∀ payload, Codec.Planned (method.decode payload)) ∧
        (∀ values, Codec.Planned (method.encode values)) ∧
        (∀ locals, ∃ lines, Source.readLines method locals = .ok lines) ∧
        ∃ lines, Source.writeLines method = .ok lines) ∧
      (∀ cls ∈ protocol.classes,
        ∀ settings, ∃ text, Source.classText cls settings = .ok text) ∧
      ∃ outline, protocol.outline = .ok outline := by
  refine ⟨fun method _ => ?_, fun cls _ settings => ?_, protocol.exists_outline⟩
  · exact ⟨fun _ member => Method.fits_of_mem_readPlan member,
      fun _ member => Method.fits_of_mem_writePlan member,
      method.planned_decode, method.planned_encode,
      fun locals => ⟨_, by rw [Source.readLines, Source.readStatements_eq]; rfl⟩,
      ⟨_, by rw [Source.writeLines, Source.writeStatements_eq]; rfl⟩⟩
  · exact ⟨_, Source.classText_eq cls settings⟩

/-- The protocol of the sample method. -/
def sampleProtocol : Protocol where
  info := ⟨none, none, none⟩
  domains := []
  classes := [⟨40, Name.ofText "exchange", [Method.sample]⟩]

theorem Protocol.plans_fit_sample :
    Method.sample ∈ sampleProtocol.methods ∧
      (∀ step ∈ Method.sample.readPlan, step.Fits Method.sample.fields) ∧
      Codec.Planned (Method.sample.decode [1, 2, 3]) ∧
      Codec.Planned (Method.sample.encode [.bit true, .octet 7]) ∧
      ∃ outline, sampleProtocol.outline = .ok outline := by
  have member : Method.sample ∈ sampleProtocol.methods := List.mem_cons_self
  obtain ⟨methods, _, shown⟩ := Protocol.plans_fit sampleProtocol
  obtain ⟨fits, _, decoded, encoded, _⟩ := methods Method.sample member
  exact ⟨member, fits, decoded _, encoded _, shown⟩

end MethodCodec
