import Mathlib
import MethodCodec.Proofs.Lists
import MethodCodec.Protocol.Collision

/-!
# Identifiers kept apart

What it means that no two identifiers of a protocol meet.
-/

namespace MethodCodec

def Method.fieldIdentifiers (method : Method) : List String :=
  method.fields.map fun field => field.name.snake

namespace Protocol

/-! ## Fields -/

theorem lookup_eq_none_iff_keys
    {taken : List (String × String)} {identifier : String} :
    taken.lookup identifier = none ↔ identifier ∉ taken.map Prod.fst := by
  rw [List.lookup_eq_none_iff, List.mem_map]
  constructor
  · rintro apart ⟨entry, member, rfl⟩
    simpa using apart entry member
  · intro absent entry member
    have different : identifier ≠ entry.1 := fun same =>
      absent ⟨entry, member, same.symm⟩
    simpa using different

theorem fieldCollision?_eq_none_iff
    {cls method : Name} {taken : List (String × String)} {fields : List Field} :
    fieldCollision? cls method taken fields = none ↔
      Fresh (taken.map Prod.fst) (fields.map fun field => field.name.snake) := by
  induction fields generalizing taken with
  | nil =>
      simp [fieldCollision?, fresh_nil]
  | cons field fields inductionHypothesis =>
      rw [fieldCollision?, List.map_cons, fresh_cons_iff,
        ← lookup_eq_none_iff_keys]
      cases taken.lookup field.name.snake with
      | some previous => simp
      | none => simp [inductionHypothesis]

theorem methodFieldCollision?_eq_none_iff {cls : Name} {methods : List Method} :
    methodFieldCollision? cls methods = none ↔
      ∀ method ∈ methods, method.fieldIdentifiers.Nodup := by
  induction methods with
  | nil =>
      simp [methodFieldCollision?]
  | cons method methods inductionHypothesis =>
      have here :
          fieldCollision? cls method.name [] method.fields = none ↔
            method.fieldIdentifiers.Nodup :=
        fieldCollision?_eq_none_iff.trans fresh_nil_iff
      rw [methodFieldCollision?, List.forall_mem_cons, ← here]
      cases fieldCollision? cls method.name [] method.fields with
      | some collision => simp
      | none => simpa using inductionHypothesis

/-! ## Classes -/

theorem memberCollision?_eq_none_iff
    (moduleName : String) {types constants : List (String × String)}
    {methods : List Method} :
    memberCollision? moduleName types constants methods = none ↔
      (∀ method ∈ methods, method.name.pascal ∉ reservedTypes) ∧
        Fresh (types.map Prod.fst)
          (methods.map fun method => method.name.pascal) ∧
        Fresh (constants.map Prod.fst)
          (methods.map fun method => method.name.screaming) := by
  induction methods generalizing types constants with
  | nil =>
      simp [memberCollision?, fresh_nil]
  | cons method methods inductionHypothesis =>
      rw [memberCollision?, List.forall_mem_cons, List.map_cons,
        List.map_cons, fresh_cons_iff, fresh_cons_iff,
        ← lookup_eq_none_iff_keys, ← lookup_eq_none_iff_keys]
      by_cases reserved : method.name.pascal ∈ reservedTypes
      · simp [reserved]
      · cases types.lookup method.name.pascal with
        | some previous => simp [reserved]
        | none =>
            cases constants.lookup method.name.screaming with
            | some previous => simp [reserved]
            | none => simp [reserved, inductionHypothesis]

theorem unitCollision?_eq_none_iff
    {constants : List String} {methods : List Method} :
    unitCollision? constants methods = none ↔
      ∀ method ∈ methods, method.fields = [] →
        method.name.pascal ∉ constants := by
  induction methods with
  | nil =>
      simp [unitCollision?]
  | cons method methods inductionHypothesis =>
      rw [unitCollision?, List.forall_mem_cons, ← inductionHypothesis]
      by_cases unit : method.fields = []
      · by_cases met : method.name.pascal ∈ constants <;> simp [unit, met]
      · simp [unit]

end Protocol

/-- The rules on the structures and the constants of a class module. -/
structure ProtocolClass.MembersApart (cls : ProtocolClass) : Prop where
  free : ∀ method ∈ cls.methods, method.name.pascal ∉ reservedTypes
  types : (cls.methods.map fun method => method.name.pascal).Nodup
  constants : (Protocol.classConstants cls).Nodup

/-- The rules on the identifiers inside a class module. -/
structure ProtocolClass.Apart (cls : ProtocolClass) : Prop where
  free : ∀ method ∈ cls.methods, method.name.pascal ∉ reservedTypes
  types : (cls.methods.map fun method => method.name.pascal).Nodup
  constants : (Protocol.classConstants cls).Nodup
  units :
    ∀ method ∈ cls.methods, method.fields = [] →
      method.name.pascal ∉ Protocol.classConstants cls
  fields : ∀ method ∈ cls.methods, method.fieldIdentifiers.Nodup

namespace Protocol

theorem membersApart_iff {cls : ProtocolClass} :
    memberCollision? cls.name.snake [] [(classIdConstant, classIdHolder)]
        cls.methods = none ↔
      cls.MembersApart := by
  have constants :
      Fresh [classIdConstant] (cls.methods.map fun method => method.name.screaming) ↔
        (classConstants cls).Nodup := by
    rw [classConstants, ← @fresh_nil_iff String (classIdConstant :: _),
      fresh_cons_iff]
    simp
  rw [memberCollision?_eq_none_iff, List.map_nil, fresh_nil_iff]
  exact ⟨fun ⟨free, types, new⟩ => ⟨free, types, constants.mp new⟩,
    fun apart => ⟨apart.free, apart.types, constants.mpr apart.constants⟩⟩

theorem classCollision?_eq_none_iff {cls : ProtocolClass} :
    classCollision? cls = none ↔ cls.Apart := by
  rw [classCollision?]
  constructor
  · intro apart
    split at apart
    next => cases apart
    next memberApart =>
      split at apart
      next => cases apart
      next unitApart =>
        obtain ⟨free, types, constants⟩ := membersApart_iff.mp memberApart
        exact ⟨free, types, constants,
          unitCollision?_eq_none_iff.mp unitApart,
          methodFieldCollision?_eq_none_iff.mp apart⟩
  · rintro ⟨free, types, constants, units, fields⟩
    rw [membersApart_iff.mpr ⟨free, types, constants⟩]
    dsimp only
    rw [unitCollision?_eq_none_iff.mpr units]
    exact methodFieldCollision?_eq_none_iff.mpr fields

theorem moduleCollision?_eq_none_iff
    {taken : List (String × String)} {classes : List ProtocolClass} :
    moduleCollision? taken classes = none ↔
      (∀ cls ∈ classes, cls.name.snake ∉ reservedModules) ∧
        Fresh (taken.map Prod.fst)
          (classes.map fun cls => cls.name.snake) ∧
        ∀ cls ∈ classes, cls.Apart := by
  induction classes generalizing taken with
  | nil =>
      simp [moduleCollision?, fresh_nil]
  | cons cls classes inductionHypothesis =>
      rw [moduleCollision?, List.forall_mem_cons, List.forall_mem_cons,
        List.map_cons, fresh_cons_iff, ← lookup_eq_none_iff_keys,
        ← classCollision?_eq_none_iff]
      by_cases reserved : cls.name.snake ∈ reservedModules
      · simp [reserved]
      · cases taken.lookup cls.name.snake with
        | some previous => simp [reserved]
        | none =>
            cases classCollision? cls with
            | some collision => simp [reserved]
            | none => simp [reserved, inductionHypothesis]

/-! ## Protocols -/

/-- The rules on the identifiers of a protocol. -/
structure Apart (protocol : Protocol) : Prop where
  free : ∀ cls ∈ protocol.classes, cls.name.snake ∉ reservedModules
  modules : (protocol.classes.map fun cls => cls.name.snake).Nodup
  inside : ∀ cls ∈ protocol.classes, cls.Apart

/-- No collision is found exactly where the identifiers keep the rules. -/
theorem collision?_eq_none_iff {protocol : Protocol} :
    protocol.collision? = none ↔ protocol.Apart := by
  rw [collision?, moduleCollision?_eq_none_iff, List.map_nil, fresh_nil_iff]
  constructor
  · rintro ⟨free, modules, inside⟩
    exact ⟨free, modules, inside⟩
  · rintro ⟨free, modules, inside⟩
    exact ⟨free, modules, inside⟩

/-- Where no two identifiers meet, the fields of each method have identifiers
of their own. -/
theorem nodup_fieldIdentifiers
    {protocol : Protocol} (apart : protocol.collision? = none)
    {method : Method} (member : method ∈ protocol.methods) :
    method.fieldIdentifiers.Nodup := by
  obtain ⟨cls, clsMember, methodMember⟩ := List.mem_flatMap.mp member
  have inside := (collision?_eq_none_iff.mp apart).inside cls clsMember
  exact inside.fields method methodMember

end Protocol

end MethodCodec
