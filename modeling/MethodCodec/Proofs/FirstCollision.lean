import Mathlib
import MethodCodec.Proofs.Collision

/-!
# The collision that is reported

The check of identifiers decides whether the identifiers of a protocol are kept
apart, and where they are not it reports the first collision: class by class the
module, then method by method the structure before the constant, then the
structures without fields, then the fields method by method.
-/

namespace MethodCodec

/-! ## Identifiers with their holders -/

/-- Entries by which every identifier is found with the holder that claims
it. -/
def Registers (entries : List (String × String))
    (claims : String → String → Prop) : Prop :=
  ∀ identifier holder,
    entries.lookup identifier = some holder ↔ claims identifier holder

section Registers

variable {α : Type} {identifier holder : α → String} {item : α}
  {before : List α} {entries : List (String × String)}
  {claims : String → String → Prop}

theorem Registers.cons
    (registers : Registers entries claims) {added owner : String}
    (new : entries.lookup added = none) :
    Registers ((added, owner) :: entries) fun name other =>
      claims name other ∨ added = name ∧ owner = other := by
  intro name other
  rw [List.lookup_cons]
  by_cases same : name = added
  · subst same
    have unclaimed : ¬ claims name other := by
      rw [← registers, new]
      simp
    simp [unclaimed]
  · have different : (name == added) = false := by simpa using same
    rw [different]
    simp [registers name other, Ne.symm same]

/-- That an earlier item holds an identifier. -/
def Claimed (identifier holder : α → String) (before : List α)
    (name other : String) : Prop :=
  ∃ item ∈ before, identifier item = name ∧ holder item = other

@[simp]
theorem registers_nil (identifier holder : α → String) :
    Registers [] (Claimed identifier holder []) := by
  simp [Registers, Claimed]

theorem claimed_concat_iff {name other : String} :
    Claimed identifier holder (before ++ [item]) name other ↔
      Claimed identifier holder before name other ∨
        identifier item = name ∧ holder item = other := by
  simp only [Claimed, List.mem_append, List.mem_singleton, or_and_right,
    exists_or, exists_eq_left]

theorem Registers.concat
    (registers : Registers entries (Claimed identifier holder before))
    (new : entries.lookup (identifier item) = none) :
    Registers ((identifier item, holder item) :: entries)
      (Claimed identifier holder (before ++ [item])) := by
  intro name other
  rw [registers.cons new, claimed_concat_iff]

end Registers

namespace Protocol

/-! ## Fields -/

/-- A field meets an earlier one of its method. -/
inductive FieldMeets (cls method : Name) (before : List Field) (field : Field) :
    Collision → Prop
  | shared {previous : Field} (earlier : previous ∈ before)
      (same : previous.name.snake = field.name.snake) :
      FieldMeets cls method before field
        (.sharedField previous.name.written field.name cls method)

theorem fieldMeets_iff
    {cls method : Name} {before : List Field} {field : Field}
    {collision : Collision} :
    FieldMeets cls method before field collision ↔
      ∃ previous,
        Claimed (fun other => other.name.snake) (fun other => other.name.written)
            before field.name.snake previous ∧
          collision = .sharedField previous field.name cls method := by
  constructor
  · rintro ⟨earlier, same⟩
    exact ⟨_, ⟨_, earlier, same, rfl⟩, rfl⟩
  · rintro ⟨_, ⟨previous, earlier, same, rfl⟩, rfl⟩
    exact .shared earlier same

theorem fieldCollision?_eq_some_iff
    {cls method : Name} {fields : List Field} {collision : Collision} :
    fieldCollision? cls method [] fields = some collision ↔
      FirstAt (FieldMeets cls method) fields collision := by
  refine scan_eq_some_iff (fieldCollision? cls method)
    (fun taken before =>
      Registers taken
        (Claimed (fun other => other.name.snake) (fun other => other.name.written)
          before))
    (fun _ => rfl) (fun taken before field recorded => ?_) _ (registers_nil _ _)
  cases found : taken.lookup field.name.snake with
  | some previous =>
      refine .inl ⟨.sharedField previous field.name cls method, fun other => ?_,
        fun fields => by rw [fieldCollision?, found]⟩
      simp [fieldMeets_iff, ← recorded _ _, found]
  | none =>
      refine .inr ⟨fun other => ?_, _, recorded.concat found,
        fun fields => by rw [fieldCollision?, found]⟩
      simp [fieldMeets_iff, ← recorded _ _, found]

theorem methodFieldCollision?_eq_some_iff
    {cls : Name} {methods : List Method} {collision : Collision} :
    methodFieldCollision? cls methods = some collision ↔
      FirstAt (fun _ method => FirstAt (FieldMeets cls method.name) method.fields)
        methods collision := by
  refine scan_eq_some_iff_of_alone _ rfl fun method => ?_
  simp only [← fieldCollision?_eq_some_iff, methodFieldCollision?]
  cases fieldCollision? cls method.name [] method.fields with
  | some found => exact .inl ⟨found, by simp [eq_comm], by simp⟩
  | none => exact .inr ⟨by simp, by simp⟩

/-! ## Structures and constants -/

/-- A structure without fields goes by the name of a constant of its class, be
it that of an earlier method or of a later one. -/
inductive UnitMeets (cls : ProtocolClass) (method : Method) : Collision → Prop
  | constant (unit : method.fields = [])
      (met : method.name.pascal ∈ classConstants cls) :
      UnitMeets cls method (.unitConstant method)

theorem unitCollision?_eq_some_iff
    {cls : ProtocolClass} {methods : List Method} {collision : Collision} :
    unitCollision? (classConstants cls) methods = some collision ↔
      FirstAt (fun _ => UnitMeets cls) methods collision := by
  refine scan_eq_some_iff_of_alone _ rfl fun method => ?_
  have meets_iff (other : Collision) :
      UnitMeets cls method other ↔
        (method.fields = [] ∧ method.name.pascal ∈ classConstants cls) ∧
          other = .unitConstant method := by
    constructor
    · rintro ⟨unit, met⟩
      exact ⟨⟨unit, met⟩, rfl⟩
    · rintro ⟨⟨unit, met⟩, rfl⟩
      exact .constant unit met
  by_cases met : method.fields = [] ∧ method.name.pascal ∈ classConstants cls
  · exact .inl ⟨.unitConstant method, by simp [meets_iff, met],
      fun methods => by simp [unitCollision?, met]⟩
  · refine .inr ⟨by simp [meets_iff, met], fun methods => ?_⟩
    have passed :
        ¬ (method.fields.isEmpty && (classConstants cls).contains method.name.pascal) =
          true := by
      simpa using met
    rw [unitCollision?, if_neg passed]

/-- Who holds a constant: the class for its id, or an earlier method. -/
inductive HoldsConstant (before : List Method) : String → String → Prop
  | classId : HoldsConstant before classIdConstant classIdHolder
  | method {previous : Method} (earlier : previous ∈ before) :
      HoldsConstant before previous.name.screaming previous.qualifiedName

/-- The structure of a method meets a reserved one or that of an earlier method,
or else its constant meets one that is held. -/
inductive MemberMeets (moduleName : String) (before : List Method)
    (method : Method) : Collision → Prop
  | reserved (taken : method.name.pascal ∈ reservedTypes) :
      MemberMeets moduleName before method (.reservedType method)
  | type {previous : Method} (free : method.name.pascal ∉ reservedTypes)
      (earlier : previous ∈ before)
      (same : previous.name.pascal = method.name.pascal) :
      MemberMeets moduleName before method
        (.sharedType previous.qualifiedName method)
  | constant {holder : String} (free : method.name.pascal ∉ reservedTypes)
      (new : ∀ previous ∈ before, previous.name.pascal ≠ method.name.pascal)
      (held : HoldsConstant before method.name.screaming holder) :
      MemberMeets moduleName before method
        (.sharedConstant holder method moduleName)

/-- The record of the structures and constants of earlier methods. -/
structure RecordsMembers (taken : List (String × String) × List (String × String))
    (before : List Method) : Prop where
  types :
    Registers taken.1
      (Claimed (fun method => method.name.pascal) Method.qualifiedName before)
  constants : Registers taken.2 (HoldsConstant before)

theorem holdsConstant_concat_iff
    {before : List Method} {method : Method} {name holder : String} :
    HoldsConstant (before ++ [method]) name holder ↔
      HoldsConstant before name holder ∨
        method.name.screaming = name ∧ method.qualifiedName = holder := by
  constructor
  · rintro (_ | @⟨previous, earlier⟩)
    · exact .inl .classId
    · rcases List.mem_append.mp earlier with front | last
      · exact .inl (.method front)
      · obtain rfl := List.mem_singleton.mp last
        exact .inr ⟨rfl, rfl⟩
  · rintro ((_ | earlier) | ⟨rfl, rfl⟩)
    · exact .classId
    · exact .method (List.mem_append_left _ earlier)
    · exact .method (by simp)

theorem RecordsMembers.start :
    RecordsMembers ([], [(classIdConstant, classIdHolder)]) [] where
  types := registers_nil _ _
  constants := by
    intro name holder
    have held :
        HoldsConstant [] name holder ↔
          classIdConstant = name ∧ classIdHolder = holder := by
      constructor
      · rintro (_ | earlier)
        · exact ⟨rfl, rfl⟩
        · cases earlier
      · rintro ⟨rfl, rfl⟩
        exact .classId
    rw [held]
    have none : List.lookup classIdConstant ([] : List (String × String)) = none := rfl
    have registers : Registers [] fun _ _ => False := by simp [Registers]
    simpa using registers.cons none name holder

theorem RecordsMembers.concat
    {types constants : List (String × String)} {before : List Method}
    (recorded : RecordsMembers (types, constants) before) {method : Method}
    (newType : types.lookup method.name.pascal = none)
    (newConstant : constants.lookup method.name.screaming = none) :
    RecordsMembers
      ((method.name.pascal, method.qualifiedName) :: types,
        (method.name.screaming, method.qualifiedName) :: constants)
      (before ++ [method]) where
  types := recorded.types.concat newType
  constants := by
    intro name holder
    rw [recorded.constants.cons newConstant, holdsConstant_concat_iff]

theorem memberMeets_iff
    {moduleName : String} {before : List Method} {method : Method}
    {collision : Collision} :
    MemberMeets moduleName before method collision ↔
      method.name.pascal ∈ reservedTypes ∧ collision = .reservedType method ∨
        method.name.pascal ∉ reservedTypes ∧
          ((∃ holder,
            Claimed (fun other => other.name.pascal) Method.qualifiedName before
                method.name.pascal holder ∧
              collision = .sharedType holder method) ∨
            (∀ holder,
              ¬ Claimed (fun other => other.name.pascal) Method.qualifiedName
                before method.name.pascal holder) ∧
              ∃ holder,
                HoldsConstant before method.name.screaming holder ∧
                  collision = .sharedConstant holder method moduleName) := by
  constructor
  · rintro (taken | ⟨free, earlier, same⟩ | ⟨free, new, held⟩)
    · exact .inl ⟨taken, rfl⟩
    · exact .inr ⟨free, .inl ⟨_, ⟨_, earlier, same, rfl⟩, rfl⟩⟩
    · refine .inr ⟨free, .inr ⟨?_, _, held, rfl⟩⟩
      rintro _ ⟨previous, earlier, same, _⟩
      exact new previous earlier same
  · rintro (⟨taken, rfl⟩ | ⟨free, ⟨_, ⟨previous, earlier, same, rfl⟩, rfl⟩ |
      ⟨new, holder, held, rfl⟩⟩)
    · exact .reserved taken
    · exact .type free earlier same
    · exact .constant free
        (fun previous earlier same => new _ ⟨previous, earlier, same, rfl⟩) held

theorem memberCollision?_eq_some_iff
    {moduleName : String} {methods : List Method} {collision : Collision} :
    memberCollision? moduleName [] [(classIdConstant, classIdHolder)] methods =
        some collision ↔
      FirstAt (MemberMeets moduleName) methods collision := by
  refine scan_eq_some_iff
    (fun taken => memberCollision? moduleName taken.1 taken.2) RecordsMembers
    (fun _ => rfl) (fun taken before method recorded => ?_) _ RecordsMembers.start
  obtain ⟨types, constants⟩ := taken
  simp only [memberMeets_iff, ← recorded.types _ _, ← recorded.constants _ _,
    memberCollision?, List.contains_iff_mem]
  by_cases reserved : method.name.pascal ∈ reservedTypes
  · exact .inl ⟨.reservedType method, by simp [reserved], by simp [reserved]⟩
  cases foundType : types.lookup method.name.pascal with
  | some previous =>
      exact .inl ⟨.sharedType previous method, by simp [reserved], by simp [reserved]⟩
  | none =>
      cases foundConstant : constants.lookup method.name.screaming with
      | some holder =>
          exact .inl ⟨.sharedConstant holder method moduleName, by simp [reserved],
            by simp [reserved]⟩
      | none =>
          exact .inr ⟨by simp [reserved], _, recorded.concat foundType foundConstant,
            by simp [reserved]⟩

/-! ## Classes -/

/-- The first collision inside a class: among structures and constants, or else
of a structure without fields, or else among the fields of a method. -/
inductive FirstInside (cls : ProtocolClass) : Collision → Prop
  | member {collision : Collision}
      (first : FirstAt (MemberMeets cls.name.snake) cls.methods collision) :
      FirstInside cls collision
  | unit {collision : Collision} (members : cls.MembersApart)
      (first : FirstAt (fun _ => UnitMeets cls) cls.methods collision) :
      FirstInside cls collision
  | field {collision : Collision} (members : cls.MembersApart)
      (units : ∀ method ∈ cls.methods, method.fields = [] →
        method.name.pascal ∉ classConstants cls)
      (first :
        FirstAt
          (fun _ method => FirstAt (FieldMeets cls.name method.name) method.fields)
          cls.methods collision) :
      FirstInside cls collision

theorem classCollision?_eq_some_iff {cls : ProtocolClass} {collision : Collision} :
    classCollision? cls = some collision ↔ FirstInside cls collision := by
  constructor
  · intro found
    rw [classCollision?] at found
    split at found
    next other member =>
      obtain rfl := Option.some.inj found
      exact .member (memberCollision?_eq_some_iff.mp member)
    next members =>
      have apart := membersApart_iff.mp members
      split at found
      next other unit =>
        obtain rfl := Option.some.inj found
        exact .unit apart (unitCollision?_eq_some_iff.mp unit)
      next units =>
        exact .field apart (unitCollision?_eq_none_iff.mp units)
          (methodFieldCollision?_eq_some_iff.mp found)
  · rintro (first | ⟨members, first⟩ | ⟨members, units, first⟩)
    · rw [classCollision?, memberCollision?_eq_some_iff.mpr first]
    · rw [classCollision?, membersApart_iff.mpr members]
      dsimp only
      rw [unitCollision?_eq_some_iff.mpr first]
    · rw [classCollision?, membersApart_iff.mpr members]
      dsimp only
      rw [unitCollision?_eq_none_iff.mpr units]
      exact methodFieldCollision?_eq_some_iff.mpr first

/-! ## Protocols -/

/-- The module of a class meets a reserved one or that of an earlier class, or
else there is a collision inside the class. -/
inductive ClassMeets (before : List ProtocolClass) (cls : ProtocolClass) :
    Collision → Prop
  | reserved (taken : cls.name.snake ∈ reservedModules) :
      ClassMeets before cls (.reservedModule cls.name)
  | shared {previous : ProtocolClass} (free : cls.name.snake ∉ reservedModules)
      (earlier : previous ∈ before)
      (same : previous.name.snake = cls.name.snake) :
      ClassMeets before cls (.sharedModule previous.name.written cls.name)
  | inside {collision : Collision} (free : cls.name.snake ∉ reservedModules)
      (new : ∀ previous ∈ before, previous.name.snake ≠ cls.name.snake)
      (first : FirstInside cls collision) :
      ClassMeets before cls collision

theorem classMeets_iff
    {before : List ProtocolClass} {cls : ProtocolClass} {collision : Collision} :
    ClassMeets before cls collision ↔
      cls.name.snake ∈ reservedModules ∧ collision = .reservedModule cls.name ∨
        cls.name.snake ∉ reservedModules ∧
          ((∃ holder,
            Claimed (fun other => other.name.snake) (fun other => other.name.written)
                before cls.name.snake holder ∧
              collision = .sharedModule holder cls.name) ∨
            (∀ holder,
              ¬ Claimed (fun other => other.name.snake)
                (fun other => other.name.written) before cls.name.snake holder) ∧
              FirstInside cls collision) := by
  constructor
  · rintro (taken | ⟨free, earlier, same⟩ | ⟨free, new, first⟩)
    · exact .inl ⟨taken, rfl⟩
    · exact .inr ⟨free, .inl ⟨_, ⟨_, earlier, same, rfl⟩, rfl⟩⟩
    · refine .inr ⟨free, .inr ⟨?_, first⟩⟩
      rintro _ ⟨previous, earlier, same, _⟩
      exact new previous earlier same
  · rintro (⟨taken, rfl⟩ | ⟨free, ⟨_, ⟨previous, earlier, same, rfl⟩, rfl⟩ |
      ⟨new, first⟩⟩)
    · exact .reserved taken
    · exact .shared free earlier same
    · exact .inside free
        (fun previous earlier same => new _ ⟨previous, earlier, same, rfl⟩) first

theorem moduleCollision?_eq_some_iff
    {classes : List ProtocolClass} {collision : Collision} :
    moduleCollision? [] classes = some collision ↔
      FirstAt ClassMeets classes collision := by
  refine scan_eq_some_iff moduleCollision?
    (fun taken before =>
      Registers taken
        (Claimed (fun cls => cls.name.snake) (fun cls => cls.name.written) before))
    (fun _ => rfl) (fun taken before cls recorded => ?_) _ (registers_nil _ _)
  simp only [classMeets_iff, ← recorded _ _, ← classCollision?_eq_some_iff,
    moduleCollision?, List.contains_iff_mem]
  by_cases reserved : cls.name.snake ∈ reservedModules
  · exact .inl ⟨.reservedModule cls.name, by simp [reserved], by simp [reserved]⟩
  cases found : taken.lookup cls.name.snake with
  | some previous =>
      exact .inl ⟨.sharedModule previous cls.name, by simp [reserved],
        by simp [reserved]⟩
  | none =>
      cases inside : classCollision? cls with
      | some collision =>
          exact .inl ⟨collision, by simp [reserved, eq_comm], by simp [reserved]⟩
      | none =>
          exact .inr ⟨by simp [reserved], _, recorded.concat found, by simp [reserved]⟩

/-- The check of identifiers passes exactly where they are kept apart, and
reports a collision exactly where it is the first one. -/
theorem collision?_decides (protocol : Protocol) :
    (protocol.collision? = none ↔ protocol.Apart) ∧
      ∀ collision,
        protocol.collision? = some collision ↔
          FirstAt ClassMeets protocol.classes collision :=
  ⟨collision?_eq_none_iff, fun _ => moduleCollision?_eq_some_iff⟩

end Protocol

end MethodCodec
