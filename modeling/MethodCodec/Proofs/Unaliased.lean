import Mathlib
import MethodCodec.Proofs.Collision
import MethodCodec.Proofs.SourceFile
import MethodCodec.Wire.Codec

/-!
# Protocols without domains

A resolved field keeps a note of the domain that its type came from.  Neither
the codec nor the generated source reads that note, and no collision depends on
it.
-/

namespace MethodCodec

/-- A field without a note of the domain that its type came from. -/
def Field.unaliased (field : Field) : Field :=
  { field with domain := none }

def Method.unaliased (method : Method) : Method :=
  { method with fields := method.fields.map Field.unaliased }

def ProtocolClass.unaliased (cls : ProtocolClass) : ProtocolClass :=
  { cls with methods := cls.methods.map Method.unaliased }

section

variable {α : Type}

/-- Anything that is read off the name and the type of each field. -/
theorem Method.map_fields_unaliased
    (method : Method) {read : Field → α}
    (same : ∀ field : Field, read field.unaliased = read field) :
    method.unaliased.fields.map read = method.fields.map read := by
  rw [unaliased, List.map_map]
  exact List.map_congr_left fun field _ => same field

/-- Anything that is read off each method and has nothing to do with domains. -/
theorem ProtocolClass.map_methods_unaliased
    (cls : ProtocolClass) {read : Method → α}
    (same : ∀ method : Method, read method.unaliased = read method) :
    cls.unaliased.methods.map read = cls.methods.map read := by
  rw [unaliased, List.map_map]
  exact List.map_congr_left fun method _ => same method

end

theorem getElem?_map_unaliased (fields : List Field) (index : Nat) :
    (fields.map Field.unaliased)[index]? =
      fields[index]?.map Field.unaliased :=
  List.getElem?_map

/-! ## The codec -/

namespace Codec

@[simp]
theorem readStep_unaliased (fields : List Field) :
    readStep (fields.map Field.unaliased) = readStep fields := by
  funext reading step
  cases step with
  | field index =>
      rw [readStep, readStep, getElem?_map_unaliased]
      cases fields[index]? <;> rfl
  | flagByte => rfl
  | flag index position =>
      rw [readStep, readStep, List.length_map]

@[simp]
theorem writeStep_unaliased (fields : List Field) (values : List Value) :
    writeStep (fields.map Field.unaliased) values = writeStep fields values := by
  funext step
  cases step with
  | field index =>
      rw [writeStep, writeStep, getElem?_map_unaliased]
      cases fields[index]? <;> cases values[index]? <;> rfl
  | flags indices => rfl

@[simp]
theorem firstMismatch?_unaliased (fields : List Field) (values : List Value) :
    firstMismatch? (fields.map Field.unaliased) values =
      (firstMismatch? fields values).map Field.unaliased := by
  induction fields generalizing values with
  | nil => rfl
  | cons field fields inductionHypothesis =>
      cases values with
      | nil => rfl
      | cons value values =>
          rw [List.map_cons, firstMismatch?, firstMismatch?,
            inductionHypothesis, Field.unaliased]
          split_ifs <;> rfl

end Codec

namespace Method

@[simp]
theorem layout_unaliased (method : Method) :
    method.unaliased.layout = method.layout := by
  have types :
      method.unaliased.fields.map Field.type = method.fields.map Field.type :=
    method.map_fields_unaliased fun _ => rfl
  exact congrArg Layout.segments types

@[simp]
theorem decode_unaliased (method : Method) (payload : List UInt8) :
    method.unaliased.decode payload = method.decode payload := by
  have start :
      Codec.Reading.start (method.fields.map Field.unaliased) payload =
        Codec.Reading.start method.fields payload := by
    rw [Codec.Reading.start, List.map_map]
    rfl
  rw [decode, decode, readPlan, readPlan, layout_unaliased, unaliased,
    Codec.readBy, Codec.readBy, Codec.readStep_unaliased, start]

@[simp]
theorem encode_unaliased (method : Method) (values : List Value) :
    method.unaliased.encode values = method.encode values := by
  have written :
      Codec.writeBy method.writePlan (method.fields.map Field.unaliased) values =
        Codec.writeBy method.writePlan method.fields values := by
    rw [Codec.writeBy, Codec.writeStep_unaliased, Codec.writeBy]
  rw [encode, encode, writePlan, layout_unaliased, ← writePlan, unaliased,
    List.length_map, Codec.firstMismatch?_unaliased, written]
  cases Codec.firstMismatch? method.fields values <;> rfl

end Method

/-! ## The generated source -/

namespace Source

theorem statementsFrom_unaliased
    (locals : ReadLocals) (position : Nat) (fields : List Field) :
    statementsFrom locals position (fields.map Field.unaliased) =
      statementsFrom locals position fields := by
  induction fields generalizing position with
  | nil => rfl
  | cons field fields inductionHypothesis =>
      rw [List.map_cons, statementsFrom, statementsFrom, inductionHypothesis]
      rfl

theorem writeStatementsFrom_unaliased
    (names : List String) (fields : List Field) :
    writeStatementsFrom names (fields.map Field.unaliased) =
      writeStatementsFrom names fields := by
  induction fields generalizing names with
  | nil => rfl
  | cons field fields inductionHypothesis =>
      rw [List.map_cons, writeStatementsFrom, writeStatementsFrom,
        inductionHypothesis, inductionHypothesis]
      rfl

@[simp]
theorem structLines_unaliased (method : Method) (settings : SourceSettings) :
    structLines method.unaliased settings = structLines method settings := by
  rw [structLines, structLines, method.map_fields_unaliased fun _ => rfl,
    Method.unaliased, List.isEmpty_map]

theorem decodeRoutine_unaliased
    (classId : UInt16) (method : Method) (reader : String)
    (reading : List String) :
    decodeRoutine classId method.unaliased reader reading =
      decodeRoutine classId method reader reading := by
  rw [decodeRoutine, decodeRoutine, method.map_fields_unaliased fun _ => rfl,
    Method.unaliased, List.isEmpty_map]

@[simp]
theorem encodeRoutine_unaliased (method : Method) (writing : List String) :
    encodeRoutine method.unaliased writing = encodeRoutine method writing := by
  rw [encodeRoutine, encodeRoutine, Method.unaliased, List.isEmpty_map]

theorem memberLines_unaliased
    (classId : UInt16) (settings : SourceSettings) (method : Method) :
    memberLines classId settings method.unaliased =
      memberLines classId settings method := by
  have locals :
      ReadLocals.ofFields method.unaliased.fields =
        ReadLocals.ofFields method.fields := by
    rw [ReadLocals.ofFields, ReadLocals.ofFields,
      method.map_fields_unaliased fun _ => rfl]
  have reading (locals : ReadLocals) :
      statementsFrom locals 0 method.unaliased.fields =
        statementsFrom locals 0 method.fields :=
    statementsFrom_unaliased locals 0 method.fields
  have writing :
      writeStatementsFrom [] method.unaliased.fields =
        writeStatementsFrom [] method.fields :=
    writeStatementsFrom_unaliased [] method.fields
  rw [memberLines, memberLines, locals, reading, writing, methodLines,
    methodLines, structLines_unaliased, decodeRoutine_unaliased,
    encodeRoutine_unaliased]
  rfl

theorem any_fields_unaliased (method : Method) (holds : WireType → Bool) :
    (method.unaliased.fields.any fun field => holds field.type) =
      method.fields.any fun field => holds field.type := by
  rw [Method.unaliased, List.any_map]
  rfl

theorem any_methods_unaliased
    (cls : ProtocolClass) {holds : Method → Bool}
    (same : ∀ method : Method, holds method.unaliased = holds method) :
    cls.unaliased.methods.any holds = cls.methods.any holds := by
  rw [ProtocolClass.unaliased, List.any_map]
  exact congrArg cls.methods.any (funext same)

theorem importLines_unaliased (cls : ProtocolClass) (settings : SourceSettings) :
    importLines cls.unaliased settings = importLines cls settings := by
  have tables : cls.unaliased.uses .table = cls.uses .table :=
    any_methods_unaliased cls fun method =>
      any_fields_unaliased method (· == .table)
  rw [importLines, importLines, tables,
    any_methods_unaliased cls fun method =>
      any_fields_unaliased method (· != .table)]

theorem moduleLines_unaliased (settings : SourceSettings) (cls : ProtocolClass) :
    moduleLines settings cls.unaliased = moduleLines settings cls := by
  have members :
      cls.unaliased.methods.flatMap (memberLines cls.id settings) =
        cls.methods.flatMap (memberLines cls.id settings) := by
    rw [List.flatMap_def, List.flatMap_def,
      cls.map_methods_unaliased (memberLines_unaliased cls.id settings)]
  rw [moduleLines, moduleLines, classLines, classLines, importLines_unaliased,
    cls.map_methods_unaliased fun _ => rfl]
  exact congrArg (fun members => block _ (_ ++ members)) members

end Source

/-! ## Collisions -/

theorem ProtocolClass.Apart.unaliased {cls : ProtocolClass} (apart : cls.Apart) :
    cls.unaliased.Apart := by
  have constants :
      Protocol.classConstants cls.unaliased = Protocol.classConstants cls := by
    rw [Protocol.classConstants, Protocol.classConstants,
      cls.map_methods_unaliased fun _ => rfl]
  refine ⟨?_, ?_, ?_, ?_, ?_⟩
  · exact List.forall_mem_map.mpr apart.free
  · rw [cls.map_methods_unaliased fun _ => rfl]
    exact apart.types
  · rw [constants]
    exact apart.constants
  · rw [constants]
    refine List.forall_mem_map.mpr fun method member noFields => ?_
    exact apart.units method member (List.map_eq_nil_iff.mp noFields)
  · refine List.forall_mem_map.mpr fun method member => ?_
    rw [Method.fieldIdentifiers, method.map_fields_unaliased fun _ => rfl]
    exact apart.fields method member

namespace Protocol

section

variable {protocol other : Protocol}
  (classes : other.classes = protocol.classes.map ProtocolClass.unaliased)

include classes

theorem Apart.unaliased (apart : protocol.Apart) : other.Apart := by
  have modules :
      (other.classes.map fun cls => cls.name.snake) =
        protocol.classes.map fun cls => cls.name.snake := by
    rw [classes, List.map_map]
    rfl
  refine ⟨?_, ?_, ?_⟩
  · rw [classes]
    exact List.forall_mem_map.mpr apart.free
  · rw [modules]
    exact apart.modules
  · rw [classes]
    exact List.forall_mem_map.mpr fun cls member =>
      (apart.inside cls member).unaliased

theorem methods_unaliased :
    other.methods = protocol.methods.map Method.unaliased := by
  rw [methods, methods, classes, List.flatMap_map, List.map_flatMap]
  rfl

theorem entries_unaliased : other.entries = protocol.entries := by
  rw [entries, entries, classes, List.flatMap_map]
  exact List.flatMap_congr fun cls _ => cls.map_methods_unaliased fun _ => rfl

theorem importCollision?_unaliased (typeName : String) :
    (other.importCollision? typeName).map Collision.message =
      (protocol.importCollision? typeName).map Collision.message := by
  let named := fun method : Method => method.name.pascal == typeName
  have inside (cls : ProtocolClass) :
      ((cls.unaliased.methods.find? named).map Collision.importedType).map
          Collision.message =
        ((cls.methods.find? named).map Collision.importedType).map
          Collision.message := by
    have found :
        cls.unaliased.methods.find? named =
          (cls.methods.find? named).map Method.unaliased :=
      List.find?_map
    rw [found]
    cases cls.methods.find? named <;> rfl
  rw [importCollision?, importCollision?, classes, List.findSome?_map,
    List.map_findSome?, List.map_findSome?]
  exact congrArg (List.findSome? · protocol.classes) (funext inside)

/-- The generated source and its events, or the message of a failure, do not
depend on domains. -/
theorem generate_unaliased (info : other.info = protocol.info)
    (settings : SourceSettings) :
    (other.generate settings).mapError GenerationFault.message =
      (protocol.generate settings).mapError GenerationFault.message := by
  have modules :
      other.classes.map (Source.moduleLines settings) =
        protocol.classes.map (Source.moduleLines settings) := by
    rw [classes, List.map_map]
    exact List.map_congr_left fun cls _ =>
      Source.moduleLines_unaliased settings cls
  have told :
      other.classes.map Source.emission =
        protocol.classes.map Source.emission := by
    rw [classes, List.map_map]
    refine List.map_congr_left fun cls _ => ?_
    exact congrArg (Event.classEmitted cls.name.written) (List.length_map _)
  have text :
      Source.sectionsText other settings =
        Source.sectionsText protocol settings := by
    rw [Source.sectionsText, Source.sections, info, modules,
      Source.methodTableLines, Source.methodArms, entries_unaliased classes]
    rfl
  have counts :
      other.classes.length = protocol.classes.length ∧
        other.methods.length = protocol.methods.length := by
    rw [methods_unaliased classes, classes, List.length_map, List.length_map]
    exact ⟨rfl, rfl⟩
  have refused := importCollision?_unaliased classes settings.tableType
  rw [generate_eq, generate_eq, told, text, counts.1, counts.2]
  cases mine : protocol.importCollision? settings.tableType with
  | none =>
      rw [mine, Option.map_none, Option.map_eq_none_iff] at refused
      rw [refused]
  | some collision =>
      rw [mine, Option.map_some, Option.map_eq_some_iff] at refused
      obtain ⟨found, refused, same⟩ := refused
      rw [refused]
      exact congrArg (fun message => Traced.fail (malformedPrefix ++ message)) same

end

end Protocol

end MethodCodec
