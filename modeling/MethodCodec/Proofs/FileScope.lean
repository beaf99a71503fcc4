import Mathlib
import MethodCodec.Proofs.ModuleScope
import MethodCodec.Proofs.Resolution

/-!
# Names in the generated file

At the top of the file two names meet exactly where a class goes by the name of
the trait or of the frame type; inside a class module none do.
-/

namespace MethodCodec

namespace Source

/-! ## Names of a file -/

theorem items_headerLines (info : ProtocolInfo) (settings : SourceSettings) :
    items (headerLines info settings) = [] := by
  have label : items (labelLines info) = [] := by
    rw [labelLines]
    cases protocolLabel? info with
    | none => rfl
    | some label =>
        dsimp only
        split_ifs
        · rfl
        · have comment : Item.ofLine? ("// Protocol: " ++ label) = none := by
            apply ofLine?_of_head <;> simp
          rw [items_cons_of_none comment]
          rfl
  have notice :
      items ["// This file is autogenerated by amqpgen. Do not edit."] = [] := by
    decide
  rw [headerLines]
  split_ifs
  · rw [List.cons_append, ← List.singleton_append, items_append, items_append,
      notice, label]
    decide
  · rfl

/-- The lines of the fields of a frame. -/
def frameFields : List String :=
  ["pub class_id: u16,", "pub method_id: u16,", "pub arguments: Vec<u8>,"]

theorem items_traitLines : items traitLines = [.trait "Method"] := by
  have comment :
      Item.ofLine?
          "/// A protocol method that can be decoded from and encoded to a method frame payload." =
        none := by
    apply ofLine?_of_head <;> simp
  have head : Item.ofLine? ("pub trait Method: Sized" ++ " \x7b") = some (.trait "Method") := by
    decide
  rw [traitLines, items_cons_of_none comment, items_block, head]
  rfl

theorem items_helperLines : items helperLines = [.submodule "wire"] := by
  have comment :
      Item.ofLine? "/// Byte-level helpers shared by the method codecs." = none := by
    apply ofLine?_of_head <;> simp
  rw [helperLines, items_cons_of_none comment, items_block]
  exact congrArg Option.toList (ofLine?_submodule "wire")

/-- The frame type is the only structure with fields in the shared part. -/
theorem sharedLines_eq :
    ∃ front back,
      sharedLines =
          front ++ block ("pub struct " ++ "MethodFrame") frameFields ++ back ∧
        items front = [.trait "Method"] ∧ items back = [.submodule "wire"] := by
  let comment := "/// The class id, method id and raw argument payload of a method frame."
  let derived := "#[derive(Debug, Clone, PartialEq, Eq)]"
  have opening : items ["", comment, derived] = [] := by
    have first : Item.ofLine? comment = none := by
      apply ofLine?_of_head <;> simp [comment]
    have second : Item.ofLine? derived = none := by
      apply ofLine?_of_head <;> simp [derived]
    rw [items_cons_of_none ofLine?_empty, items_cons_of_none first,
      items_cons_of_none second]
    rfl
  have implementation :
      Item.ofLine? ("impl MethodFrame" ++ " \x7b") = none := by
    apply ofLine?_of_head <;> simp
  have name : "pub struct " ++ "MethodFrame" = "pub struct MethodFrame" := rfl
  obtain ⟨body, lines⟩ :
      ∃ body,
        frameLines =
          [comment, derived] ++ block "pub struct MethodFrame" frameFields ++
            ([""] ++ block "impl MethodFrame" body) := by
    rw [frameLines, List.append_assoc _ [""]]
    exact ⟨_, rfl⟩
  refine ⟨traitLines ++ ["", comment, derived],
    "" :: block "impl MethodFrame" body ++ "" :: helperLines, ?_, ?_, ?_⟩
  · rw [sharedLines, lines, name]
    simp only [List.append_assoc]
    rfl
  · rw [items_append, items_traitLines, opening]
    rfl
  · rw [List.cons_append, items_cons_of_none ofLine?_empty, items_append,
      items_block, implementation, items_cons_of_none ofLine?_empty,
      items_helperLines]
    rfl

theorem items_sharedLines :
    items sharedLines =
      [.trait "Method", .struct "MethodFrame", .submodule "wire"] := by
  obtain ⟨front, back, lines, before, behind⟩ := sharedLines_eq
  rw [lines, items_append, items_append, before, behind, items_block,
    ofLine?_struct]
  rfl

theorem items_methodTableLines (protocol : Protocol) :
    items (methodTableLines protocol) = [.function "method_name"] := by
  have comment :
      items ["/// Resolve a `(class_id, method_id)` pair to its `\"class.method\"` name."] =
        [] := by
    decide
  have head :
      Item.ofLine?
          ("pub fn method_name(class_id: u16, method_id: u16) -> &'static str" ++
            " \x7b") =
        some (.function "method_name") := by
    decide
  rw [methodTableLines, ← List.singleton_append, items_append, comment,
    items_block, head]
  rfl

theorem items_moduleLines (settings : SourceSettings) (cls : ProtocolClass) :
    items (moduleLines settings cls) = [.submodule cls.name.snake] := by
  rw [moduleLines, classLines, items_block, ofLine?_submodule]
  rfl

theorem items_modules (protocol : Protocol) (settings : SourceSettings) :
    items (methodTableLines protocol ::
        protocol.classes.map (moduleLines settings)).flatten =
      .function "method_name" ::
        protocol.classes.map fun cls => .submodule cls.name.snake := by
  rw [List.flatten_cons, items_append, items_methodTableLines, ← List.flatMap_def,
    items_flatMap_of_single (items_moduleLines settings)]
  rfl

theorem items_sections (protocol : Protocol) (settings : SourceSettings) :
    items (sections protocol settings).flatten =
      [.trait "Method", .struct "MethodFrame", .submodule "wire",
          .function "method_name"] ++
        protocol.classes.map fun cls => .submodule cls.name.snake := by
  rw [sections, List.flatten_cons, items_append, items_append,
    items_headerLines, items_sharedLines, items_modules]
  rfl

theorem typeNames_sections (protocol : Protocol) (settings : SourceSettings) :
    typeNames (items (sections protocol settings).flatten) =
      ["Method", "MethodFrame", "wire"] ++
        protocol.classes.map fun cls => cls.name.snake := by
  rw [items_sections, typeNames, List.flatMap_append, List.flatMap_map]
  congr 1
  exact List.map_eq_flatMap.symm

theorem valueNames_sections (protocol : Protocol) (settings : SourceSettings) :
    valueNames (items (sections protocol settings).flatten) =
      ["method_name"] := by
  rw [items_sections, valueNames, List.flatMap_append, List.flatMap_map]
  have modules :
      (protocol.classes.flatMap fun cls =>
        (Item.submodule cls.name.snake).valueNames) = [] :=
    List.flatMap_eq_nil_iff.mpr fun _ _ => rfl
  rw [modules]
  rfl

theorem structures_sections (protocol : Protocol) :
    structures (sections protocol {}).flatten =
      [("MethodFrame", ["class_id", "method_id", "arguments"])] := by
  obtain ⟨front, back, shared, before, behind⟩ := sharedLines_eq
  have names :
      (frameFields.map indent).filterMap readFieldName? =
        ["class_id", "method_id", "arguments"] := by
    decide
  let rest :=
    methodTableLines protocol :: protocol.classes.map (moduleLines {})
  have lines :
      (sections protocol {}).flatten =
        (headerLines protocol.info {} ++ front) ++
          (block ("pub struct " ++ "MethodFrame") frameFields ++
            ((back ++ rest.flatten) ++ [])) := by
    rw [sections, List.flatten_cons, shared]
    simp only [List.append_assoc, List.append_nil, rest]
  have absentBefore (name : String) :
      .struct name ∉ items (headerLines protocol.info {} ++ front) := by
    rw [items_append, items_headerLines, before]
    simp
  have absentBehind (name : String) :
      .struct name ∉ items (back ++ rest.flatten) := by
    rw [items_append, items_modules, behind]
    simp
  rw [lines, structures_append_of_items absentBefore, structures_block, names,
    structures_append_of_items absentBehind]
  rfl

theorem keptApart_sections_iff {protocol : Protocol} :
    KeptApart (sections protocol {}).flatten ↔
      (protocol.classes.map fun cls => cls.name.snake).Nodup ∧
        ∀ cls ∈ protocol.classes,
          cls.name.snake ∉ ["Method", "MethodFrame", "wire"] := by
  have types :
      (typeNames (items (sections protocol {}).flatten)).Nodup ↔
        (protocol.classes.map fun cls => cls.name.snake).Nodup ∧
          ∀ cls ∈ protocol.classes,
            cls.name.snake ∉ ["Method", "MethodFrame", "wire"] := by
    rw [typeNames_sections, List.nodup_append', List.disjoint_right,
      List.forall_mem_map]
    exact and_iff_right (by decide)
  refine ⟨fun apart => types.mp apart.types, fun apart => ?_⟩
  refine ⟨types.mpr apart, ?_, ?_⟩
  · rw [valueNames_sections]
    exact List.nodup_singleton _
  · intro entry listed
    rw [structures_sections, List.mem_singleton] at listed
    subst listed
    decide

end Source

open Source

/-! ## Accepted documents -/

namespace Spec

theorem Resolves.derived
    {spec : Spec} {protocol : Protocol} (resolves : spec.Resolves protocol)
    {cls : ProtocolClass} (clsMember : cls ∈ protocol.classes) :
    ∀ method ∈ cls.methods, ∃ written, method.name = Name.ofText written := by
  intro method member
  obtain ⟨clsSpec, _, resolvesClass⟩ :=
    exists_left_of_forall₂ resolves.classes clsMember
  obtain ⟨methodSpec, _, resolvesMethod⟩ :=
    exists_left_of_forall₂ resolvesClass.methods member
  exact ⟨methodSpec.name, resolvesMethod.name⟩

end Spec

theorem Protocol.free_of_generate
    {protocol : Protocol} {settings : SourceSettings} {text : String}
    (generated : (protocol.generate settings).outcome = .ok text) :
    protocol.importCollision? settings.tableType = none ∧
      text = sectionsText protocol settings := by
  rw [generate_eq] at generated
  cases found : protocol.importCollision? settings.tableType with
  | some collision =>
      rw [found] at generated
      cases generated
  | none =>
      rw [found] at generated
      exact ⟨rfl, (Except.ok.inj generated).symm⟩

theorem Protocol.importCollision?_eq_none_iff
    {protocol : Protocol} {typeName : String} :
    protocol.importCollision? typeName = none ↔
      ∀ cls ∈ protocol.classes, ∀ method ∈ cls.methods,
        method.name.pascal ≠ typeName := by
  simp [importCollision?]

/-- The names of a generated file never meet inside a class module, and at its
top exactly where a class goes by the name of the trait or of the frame type.  Names
are compared as the texts that stand in the file: a class named `Method` followed by
a space, or `r#Method`, is a class of another name. -/
theorem keptApart_generated_iff
    {spec : Spec} {protocol : Protocol} {text : String}
    (accepted : spec.resolve.outcome = .ok protocol)
    (generated : (protocol.generate {}).outcome = .ok text) :
    text = joinSections ((sections protocol {}).map joinLines) ∧
      (KeptApart (sections protocol {}).flatten ↔
        ∀ cls ∈ spec.classes, cls.name ≠ "Method" ∧ cls.name ≠ "MethodFrame") ∧
      ∀ cls ∈ protocol.classes, KeptApart (inside (moduleLines {} cls)) := by
  obtain ⟨_, resolves, noCollision⟩ := Spec.resolves_of_resolve accepted
  have apart := Protocol.collision?_eq_none_iff.mp noCollision
  obtain ⟨noImport, written⟩ := Protocol.free_of_generate generated
  have free := Protocol.importCollision?_eq_none_iff.mp noImport
  refine ⟨written, ?_, fun cls member => ?_⟩
  · rw [keptApart_sections_iff, and_iff_right apart.modules]
    have taken :
        ∀ name ∈ protocol.classes.map fun cls => cls.name.snake,
          name ∉ reservedModules :=
      List.forall_mem_map.mpr apart.free
    rw [← List.forall_mem_map (f := fun cls : ProtocolClass => cls.name.snake)
      (P := (· ∉ ["Method", "MethodFrame", "wire"]))]
    rw [resolves.moduleNames, List.forall_mem_map] at taken ⊢
    refine forall₂_congr fun cls member => ?_
    have notWire := taken cls member
    have trait :
        Name.snakeCase cls.name = "Method" ↔ cls.name = "Method" :=
      Name.snakeCase_eq_iff (by decide) (by decide) (by decide) cls.name
    have frame :
        Name.snakeCase cls.name = "MethodFrame" ↔ cls.name = "MethodFrame" :=
      Name.snakeCase_eq_iff (by decide) (by decide) (by decide) cls.name
    simp only [reservedModules, List.mem_cons, List.not_mem_nil, or_false,
      not_or, trait, frame] at notWire ⊢
    exact ⟨fun apart => ⟨apart.1, apart.2.1⟩,
      fun apart => ⟨apart.1, apart.2, notWire⟩⟩
  · exact keptApart_inside_moduleLines (apart.inside cls member)
      (resolves.derived member) (free cls member)

/-- A document whose identifiers come near all that is imported: a method by the
name of the module of byte helpers, one by that of the codec of tables, and a
class with a structure of every kind. -/
def nearlyMeeting : Spec where
  name := none
  majorVersion := none
  minorVersion := none
  revision := none
  tcpPort := none
  domains := []
  classes :=
    [⟨10, "method", [⟨10, "wire", none, []⟩, ⟨11, "decode_table", none,
        [⟨"table", some "table", none⟩, ⟨"type", some "octet", none⟩]⟩]⟩,
      ⟨20, "frame", []⟩]

def nearlyMeetingProtocol : Protocol where
  info := ⟨none, none, none⟩
  domains := []
  classes :=
    [⟨10, Name.ofText "method",
        [⟨10, 10, Name.ofText "wire", "method.wire", false, []⟩,
          ⟨11, 10, Name.ofText "decode_table", "method.decode_table", false,
            [⟨Name.ofText "table", .table, none⟩,
              ⟨Name.ofText "type", .octet, none⟩]⟩]⟩,
      ⟨20, Name.ofText "frame", []⟩]

theorem keptApart_generated_nearlyMeeting :
    nearlyMeeting.resolve.outcome = .ok nearlyMeetingProtocol ∧
      (nearlyMeetingProtocol.generate {}).outcome =
        .ok (sectionsText nearlyMeetingProtocol {}) ∧
      KeptApart (sections nearlyMeetingProtocol {}).flatten ∧
      ∀ cls ∈ nearlyMeetingProtocol.classes,
        KeptApart (inside (moduleLines {} cls)) := by
  have accepted :
      nearlyMeeting.resolve.outcome = .ok nearlyMeetingProtocol := by
    decide
  have generated :
      (nearlyMeetingProtocol.generate {}).outcome =
        .ok (sectionsText nearlyMeetingProtocol {}) := by
    have free : nearlyMeetingProtocol.importCollision? "Table" = none := by
      decide
    rw [Protocol.generate_eq, free]
  obtain ⟨_, top, inside⟩ := keptApart_generated_iff accepted generated
  exact ⟨accepted, generated, top.mpr (by decide), inside⟩

/-- A document with a class by the name of the trait. -/
def namedAsTrait : Spec where
  name := none
  majorVersion := none
  minorVersion := none
  revision := none
  tcpPort := none
  domains := []
  classes := [⟨10, "Method", []⟩]

theorem namedAsTrait_meets :
    ∃ protocol text,
      namedAsTrait.resolve.outcome = .ok protocol ∧
        (protocol.generate {}).outcome = .ok text ∧
        text = joinSections ((sections protocol {}).map joinLines) ∧
        typeNames (items (sections protocol {}).flatten) =
          ["Method", "MethodFrame", "wire", "Method"] := by
  let protocol : Protocol := ⟨⟨none, none, none⟩, [], [⟨10, Name.ofText "Method", []⟩]⟩
  have accepted : namedAsTrait.resolve.outcome = .ok protocol := by
    decide
  have free : protocol.importCollision? "Table" = none := by
    decide
  have generated :
      (protocol.generate {}).outcome = .ok (sectionsText protocol {}) := by
    rw [Protocol.generate_eq, free]
  refine ⟨protocol, _, accepted, generated, rfl, ?_⟩
  rw [typeNames_sections]
  decide

end MethodCodec
