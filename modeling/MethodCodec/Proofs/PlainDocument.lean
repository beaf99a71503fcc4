import Mathlib
import MethodCodec.Proofs.Collision
import MethodCodec.Proofs.PlainName
import MethodCodec.Proofs.Resolution

/-!
# Documents of plain names

Where all names of a document are plain, its identifiers meet only where a name
stands twice or is reserved, or where a method without arguments is named by
single letters that together are the name of a method.
-/

namespace MethodCodec

open Name

/-! ## Lists of plain names -/

section Names

variable {identify : String → String} {name : String} {names : List String}

theorem nodup_map_iff_of_plain
    (injOn : Set.InjOn identify {written | Plain written})
    (plain : ∀ name ∈ names, Plain name) :
    (names.map identify).Nodup ↔ names.Nodup := by
  constructor
  · exact List.Nodup.of_map identify
  · exact List.Nodup.map_on fun left leftMember right rightMember same =>
      injOn (plain left leftMember) (plain right rightMember) same

theorem mem_map_iff_of_plain
    (injOn : Set.InjOn identify {written | Plain written})
    (plainName : Plain name) (plain : ∀ name ∈ names, Plain name) :
    identify name ∈ names.map identify ↔ name ∈ names := by
  constructor
  · intro member
    obtain ⟨other, otherMember, same⟩ := List.mem_map.mp member
    rwa [← injOn (plain other otherMember) plainName same]
  · exact List.mem_map_of_mem

/-- The type of a name is among the constants of others only if the name is
terse. -/
theorem pascalCase_mem_map_screamingCase_iff
    (plainName : Plain name) (plain : ∀ name ∈ names, Plain name) :
    pascalCase name ∈ names.map screamingCase ↔
      Terse name ∧ unhyphenated name ∈ names := by
  rw [List.mem_map]
  constructor
  · rintro ⟨other, member, same⟩
    obtain ⟨terse, rfl⟩ :=
      (pascalCase_eq_screamingCase_iff plainName (plain other member)).mp same.symm
    exact ⟨terse, member⟩
  · rintro ⟨terse, member⟩
    exact ⟨_, member,
      ((pascalCase_eq_screamingCase_iff plainName (plain _ member)).mpr
        ⟨terse, rfl⟩).symm⟩

end Names

/-! ## Plain documents -/

def ClassSpec.methodNames (cls : ClassSpec) : List String :=
  cls.methods.map MethodSpec.name

def MethodSpec.argumentNames (method : MethodSpec) : List String :=
  method.arguments.map ArgumentSpec.name

/-- A class with plain names throughout. -/
structure ClassSpec.Plain (cls : ClassSpec) : Prop where
  name : Name.Plain cls.name
  methods : ∀ name ∈ cls.methodNames, Name.Plain name
  arguments :
    ∀ method ∈ cls.methods, ∀ name ∈ method.argumentNames, Name.Plain name

/-- The rules on plain names inside a class. -/
structure ClassSpec.NamesApart (cls : ClassSpec) : Prop where
  free : ∀ name ∈ ["method", "method-frame", "class-id"], name ∉ cls.methodNames
  methods : cls.methodNames.Nodup
  /-- No method without arguments, named by single letters with digits behind
  them, goes by the name of a method when its hyphens are dropped. -/
  units :
    ∀ method ∈ cls.methods, method.arguments = [] → Terse method.name →
      unhyphenated method.name ∉ cls.methodNames
  arguments : ∀ method ∈ cls.methods, method.argumentNames.Nodup

namespace Spec

/-! ## Protocols with the names of a document -/

/-- A method with the names of its declaration. -/
structure NamesMethod (declared : MethodSpec) (method : Method) : Prop where
  name : method.name = Name.ofText declared.name
  fields : method.fields.map Field.name = declared.argumentNames.map Name.ofText

/-- A class with the names of its declaration. -/
structure NamesClass (declared : ClassSpec) (cls : ProtocolClass) : Prop where
  name : cls.name = Name.ofText declared.name
  methods : List.Forall₂ NamesMethod declared.methods cls.methods

theorem name_of_resolveArgument
    {domains : Domains} {className methodName : String} {argument : ArgumentSpec}
    {field : Field}
    (built : resolveArgument domains className methodName argument = .ok field) :
    field.name = Name.ofText argument.name := by
  rw [resolveArgument] at built
  split at built
  next => cases built
  next =>
    split at built
    next =>
      cases built
      rfl
    next => cases built

theorem namesMethod_of_resolveMethod
    {domains : Domains} {cls : ClassSpec} {declared : MethodSpec} {method : Method}
    (built : (resolveMethod domains cls declared).outcome = .ok method) :
    NamesMethod declared method := by
  rw [outcome_resolveMethod, map_eq_ok_iff] at built
  obtain ⟨fields, arguments, rfl⟩ := built
  refine ⟨rfl, ?_⟩
  rw [MethodSpec.argumentNames, List.map_map]
  exact map_eq_map_of_forall₂ (mapM_eq_ok_iff.mp arguments)
    fun _ _ => name_of_resolveArgument

theorem namesClass_of_resolveClass
    {domains : Domains} {declared : ClassSpec} {cls : ProtocolClass}
    (built : (resolveClass domains declared).outcome = .ok cls) :
    NamesClass declared cls := by
  rw [outcome_resolveClass, map_eq_ok_iff] at built
  obtain ⟨methods, each, rfl⟩ := built
  exact ⟨rfl, (mapM_eq_ok_iff.mp each).imp fun _ _ => namesMethod_of_resolveMethod⟩

theorem namesClasses_of_resolveClasses
    {domains : Domains} {declared : List ClassSpec} {classes : List ProtocolClass}
    (built : (resolveClasses domains declared).outcome = .ok classes) :
    List.Forall₂ NamesClass declared classes := by
  rw [outcome_resolveClasses] at built
  exact (mapM_eq_ok_iff.mp built).imp fun _ _ => namesClass_of_resolveClass

/-! ## Classes -/

section NamesMethod

variable {declared : MethodSpec} {method : Method}

theorem NamesMethod.fields_eq_nil_iff (named : NamesMethod declared method) :
    method.fields = [] ↔ declared.arguments = [] := by
  rw [← List.map_eq_nil_iff, named.fields, List.map_eq_nil_iff,
    MethodSpec.argumentNames, List.map_eq_nil_iff]

theorem NamesMethod.fieldIdentifiers_eq (named : NamesMethod declared method) :
    method.fieldIdentifiers = declared.argumentNames.map snakeCase := by
  have fields := congrArg (List.map Name.snake) named.fields
  rwa [List.map_map, List.map_map] at fields

end NamesMethod

section NamesClass

variable {declared : ClassSpec} {cls : ProtocolClass}

theorem NamesClass.types_eq (named : NamesClass declared cls) :
    (cls.methods.map fun method => method.name.pascal) =
      declared.methodNames.map pascalCase := by
  rw [ClassSpec.methodNames, List.map_map]
  exact map_eq_map_of_forall₂ named.methods fun _ _ named => by
    rw [named.name]
    rfl

/-- The constant of the class is that of a method by the name `class-id`. -/
theorem NamesClass.classConstants_eq (named : NamesClass declared cls) :
    Protocol.classConstants cls =
      ("class-id" :: declared.methodNames).map screamingCase := by
  have classId : screamingCase "class-id" = classIdConstant := by decide
  rw [Protocol.classConstants, List.map_cons, classId, ClassSpec.methodNames,
    List.map_map]
  congr 1
  exact map_eq_map_of_forall₂ named.methods fun _ _ named => by
    rw [named.name]
    rfl

theorem plain_cons_classId (plain : declared.Plain) :
    ∀ name ∈ "class-id" :: declared.methodNames, Plain name :=
  List.forall_mem_cons.mpr ⟨by decide, plain.methods⟩

theorem NamesClass.free_iff (named : NamesClass declared cls) (plain : declared.Plain) :
    (∀ method ∈ cls.methods, method.name.pascal ∉ reservedTypes) ↔
      ∀ name ∈ ["method", "method-frame"], name ∉ declared.methodNames := by
  have reserved : reservedTypes = ["method", "method-frame"].map pascalCase := by
    decide
  have plainWords : ∀ name ∈ ["method", "method-frame"], Plain name := by
    decide
  have listed :
      (∀ method ∈ cls.methods, method.name.pascal ∉ reservedTypes) ↔
        ∀ type ∈ declared.methodNames.map pascalCase, type ∉ reservedTypes := by
    rw [← named.types_eq, List.forall_mem_map]
  rw [listed, List.forall_mem_map, reserved]
  constructor
  · intro free word reservedWord member
    exact free word member (List.mem_map_of_mem reservedWord)
  · intro free name member reservedType
    rw [mem_map_iff_of_plain pascalCase_injOn (plain.methods name member)
      plainWords] at reservedType
    exact free name reservedType member

theorem NamesClass.types_nodup_iff
    (named : NamesClass declared cls) (plain : declared.Plain) :
    (cls.methods.map fun method => method.name.pascal).Nodup ↔
      declared.methodNames.Nodup := by
  rw [named.types_eq, nodup_map_iff_of_plain pascalCase_injOn plain.methods]

theorem NamesClass.constants_nodup_iff
    (named : NamesClass declared cls) (plain : declared.Plain) :
    (Protocol.classConstants cls).Nodup ↔
      "class-id" ∉ declared.methodNames ∧ declared.methodNames.Nodup := by
  rw [named.classConstants_eq,
    nodup_map_iff_of_plain screamingCase_injOn (plain_cons_classId plain),
    List.nodup_cons]

/-- Hyphens are dropped, so the constant of the class is met by no structure. -/
theorem unhyphenated_ne_classId (written : String) :
    unhyphenated written ≠ "class-id" := by
  intro same
  have hyphen : '-' ∈ (unhyphenated written).toList := by
    rw [same]
    decide
  rw [unhyphenated, String.toList_ofList] at hyphen
  simpa using List.of_mem_filter hyphen

theorem NamesClass.units_iff
    (named : NamesClass declared cls) (plain : declared.Plain) :
    (∀ method ∈ cls.methods, method.fields = [] →
        method.name.pascal ∉ Protocol.classConstants cls) ↔
      ∀ method ∈ declared.methods, method.arguments = [] → Terse method.name →
        unhyphenated method.name ∉ declared.methodNames := by
  have plainMethods (method : MethodSpec) (member : method ∈ declared.methods) :
      Plain method.name :=
    plain.methods method.name (List.mem_map_of_mem member)
  have paired := (List.forall₂_and_left _ _).mpr ⟨plainMethods, named.methods⟩
  refine (forall_iff_of_forall₂ paired fun method resolved ⟨plainMethod, same⟩ => ?_).symm
  have type : resolved.name.pascal = pascalCase method.name := by
    rw [same.name]
    rfl
  rw [same.fields_eq_nil_iff, type, named.classConstants_eq,
    pascalCase_mem_map_screamingCase_iff plainMethod (plain_cons_classId plain),
    not_and, List.mem_cons, or_iff_right (unhyphenated_ne_classId method.name)]

theorem NamesClass.fields_iff
    (named : NamesClass declared cls) (plain : declared.Plain) :
    (∀ method ∈ cls.methods, method.fieldIdentifiers.Nodup) ↔
      ∀ method ∈ declared.methods, method.argumentNames.Nodup := by
  have paired := (List.forall₂_and_left _ _).mpr ⟨plain.arguments, named.methods⟩
  refine (forall_iff_of_forall₂ paired fun method resolved ⟨plainNames, same⟩ => ?_).symm
  rw [same.fieldIdentifiers_eq, nodup_map_iff_of_plain snakeCase_injOn plainNames]

theorem NamesClass.apart_iff
    (named : NamesClass declared cls) (plain : declared.Plain) :
    cls.Apart ↔ declared.NamesApart := by
  constructor
  · rintro ⟨free, types, constants, units, fields⟩
    have words := (named.free_iff plain).mp free
    obtain ⟨noClassId, methods⟩ := (named.constants_nodup_iff plain).mp constants
    exact ⟨by simpa using ⟨words "method" (by simp), words "method-frame" (by simp),
      noClassId⟩, methods, (named.units_iff plain).mp units,
      (named.fields_iff plain).mp fields⟩
  · rintro ⟨free, methods, units, arguments⟩
    have words : ∀ name ∈ ["method", "method-frame"], name ∉ declared.methodNames :=
      fun name member => free name (List.mem_append_left ["class-id"] member)
    exact ⟨(named.free_iff plain).mpr words, (named.types_nodup_iff plain).mpr methods,
      (named.constants_nodup_iff plain).mpr ⟨free "class-id" (by simp), methods⟩,
      (named.units_iff plain).mpr units, (named.fields_iff plain).mpr arguments⟩

end NamesClass

/-! ## Documents -/

/-- The rules on plain names of a document. -/
structure NamesApart (classes : List ClassSpec) : Prop where
  free : "wire" ∉ classes.map ClassSpec.name
  modules : (classes.map ClassSpec.name).Nodup
  inside : ∀ cls ∈ classes, cls.NamesApart

theorem collision?_eq_none_iff_of_namesClasses
    {declared : List ClassSpec} {protocol : Protocol}
    (named : List.Forall₂ NamesClass declared protocol.classes)
    (plain : ∀ cls ∈ declared, cls.Plain) :
    protocol.collision? = none ↔ NamesApart declared := by
  have modules :
      (protocol.classes.map fun cls => cls.name.snake) =
        (declared.map ClassSpec.name).map snakeCase := by
    rw [List.map_map]
    exact map_eq_map_of_forall₂ named fun _ _ named => by
      rw [named.name]
      rfl
  have plainModules : ∀ name ∈ declared.map ClassSpec.name, Plain name :=
    List.forall_mem_map.mpr fun cls member => (plain cls member).name
  have free :
      (∀ cls ∈ protocol.classes, cls.name.snake ∉ reservedModules) ↔
        "wire" ∉ declared.map ClassSpec.name := by
    have wire : snakeCase "wire" = "wire" ∧ Plain "wire" := by decide
    have listed :
        (∀ cls ∈ protocol.classes, cls.name.snake ∉ reservedModules) ↔
          snakeCase "wire" ∉ (declared.map ClassSpec.name).map snakeCase := by
      rw [← modules, wire.1, List.mem_map]
      simp [reservedModules]
    rw [listed, mem_map_iff_of_plain snakeCase_injOn wire.2 plainModules]
  have inside :
      (∀ cls ∈ protocol.classes, cls.Apart) ↔ ∀ cls ∈ declared, cls.NamesApart := by
    have paired := (List.forall₂_and_left _ _).mpr ⟨plain, named⟩
    exact (forall_iff_of_forall₂ paired fun _ _ ⟨plainClass, same⟩ =>
      (same.apart_iff plainClass).symm).symm
  rw [Protocol.collision?_eq_none_iff]
  constructor
  · rintro ⟨freeModules, nodup, apart⟩
    rw [modules, nodup_map_iff_of_plain snakeCase_injOn plainModules] at nodup
    exact ⟨free.mp freeModules, nodup, inside.mp apart⟩
  · rintro ⟨freeNames, nodup, apart⟩
    rw [← nodup_map_iff_of_plain snakeCase_injOn plainModules, ← modules] at nodup
    exact ⟨free.mpr freeNames, nodup, inside.mpr apart⟩

/-- Plain names have identifiers of their own of each form, and where a document
has no others, the check of identifiers refuses only names that stand twice, are
reserved, or are single letters that spell the name of a method. -/
theorem plain_identifiers_apart_iff :
    Set.InjOn snakeCase {written | Plain written} ∧
      Set.InjOn pascalCase {written | Plain written} ∧
      Set.InjOn screamingCase {written | Plain written} ∧
      ∀ (domains : Domains) (declared : List ClassSpec) (protocol : Protocol),
        (resolveClasses domains declared).outcome = .ok protocol.classes →
          (∀ cls ∈ declared, cls.Plain) →
            (protocol.collision? = none ↔ NamesApart declared) :=
  ⟨snakeCase_injOn, pascalCase_injOn, screamingCase_injOn,
    fun _ _ _ built plain =>
      collision?_eq_none_iff_of_namesClasses (namesClasses_of_resolveClasses built)
        plain⟩

/-- A document with a method of a single letter that has an argument. -/
def plainDeclarations : List ClassSpec :=
  [⟨50, "queue",
    [⟨20, "bind", none, [⟨"queue", some "shortstr", none⟩, ⟨"no-wait", some "bit", none⟩]⟩,
      ⟨21, "bind-ok", none, []⟩,
      ⟨30, "x", none, [⟨"type", some "octet", none⟩]⟩]⟩,
    ⟨60, "basic", [⟨10, "bind", none, []⟩, ⟨11, "a-b1", none, []⟩]⟩]

theorem exists_collision?_eq_none_plainDeclarations :
    ∃ protocol : Protocol,
      (resolveClasses ⟨[]⟩ plainDeclarations).outcome = .ok protocol.classes ∧
        (∀ cls ∈ plainDeclarations, cls.Plain) ∧
        protocol.collision? = none := by
  let classes : List ProtocolClass :=
    [⟨50, Name.ofText "queue",
      [⟨20, 50, Name.ofText "bind", "queue.bind", false,
          [⟨Name.ofText "queue", .shortString, none⟩, ⟨Name.ofText "no-wait", .bit, none⟩]⟩,
        ⟨21, 50, Name.ofText "bind-ok", "queue.bind-ok", false, []⟩,
        ⟨30, 50, Name.ofText "x", "queue.x", false, [⟨Name.ofText "type", .octet, none⟩]⟩]⟩,
      ⟨60, Name.ofText "basic",
        [⟨10, 60, Name.ofText "bind", "basic.bind", false, []⟩,
          ⟨11, 60, Name.ofText "a-b1", "basic.a-b1", false, []⟩]⟩]
  let protocol : Protocol := ⟨⟨none, none, none⟩, [], classes⟩
  have built : (resolveClasses ⟨[]⟩ plainDeclarations).outcome = .ok protocol.classes := by
    rfl
  have plain : ∀ cls ∈ plainDeclarations, cls.Plain := by
    simp only [plainDeclarations, List.forall_mem_cons]
    exact ⟨⟨by decide, by decide, by decide⟩,
      ⟨by decide, by decide, by decide⟩, by simp⟩
  have apart : NamesApart plainDeclarations := by
    refine ⟨by decide, by decide, ?_⟩
    simp only [plainDeclarations, List.forall_mem_cons]
    exact ⟨⟨by decide, by decide, by decide, by decide⟩,
      ⟨by decide, by decide, by decide, by decide⟩,
      by simp⟩
  have decided := plain_identifiers_apart_iff.2.2.2 ⟨[]⟩ plainDeclarations protocol
  exact ⟨protocol, built, plain, (decided built plain).mpr apart⟩

end Spec

end MethodCodec
