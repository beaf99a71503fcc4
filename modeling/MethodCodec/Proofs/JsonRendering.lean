import Mathlib
import MethodCodec.Proofs.JsonGrammar
import MethodCodec.Spec.Basic

/-!
# JSON texts of documents

All the ways to write a document as JSON.  The members of an object come in any
order, with any others between them; a field may be left out where that says
the same as to write it.
-/

namespace MethodCodec

namespace Json.Grammar

/-! ## Optional values and lists -/

section

variable {α : Type} (written : α → List Char → Prop)

/-- What is missing is written as null. -/
def OptionalText : Option α → List Char → Prop
  | some value, text => written value text
  | none, text => text = nullText

def ListText (items : List α) (text : List Char) : Prop :=
  ∃ texts, List.Forall₂ written items texts ∧ ArrayText texts text

end

def PairText (pair : String × String) (text : List Char) : Prop :=
  ∃ first second, StringText pair.1 first ∧ StringText pair.2 second ∧
    ArrayText [first, second] text

/-! ## Records -/

/-- How a field may be written. -/
structure FieldRule where
  key : String
  written : List Char → Prop
  /-- Whether the field may be left out. -/
  omissible : Prop

/-- Members that write the fields of a record and may go on to say more. -/
structure Follows (rules : List FieldRule) (members : List (String × List Char)) :
    Prop where
  fields : ∀ rule ∈ rules, ∀ text, (rule.key, text) ∈ members → rule.written text
  others : ∀ member ∈ members,
    member.1 ∉ rules.map FieldRule.key → AnyValue member.2
  once : ∀ rule ∈ rules, (members.map Prod.fst).count rule.key ≤ 1
  present : ∀ rule ∈ rules, rule.key ∈ members.map Prod.fst ∨ rule.omissible

namespace Follows

variable {rule : FieldRule} {rules : List FieldRule}
  {members : List (String × List Char)}

theorem nil : Follows [] [] where
  fields := List.forall_mem_nil _
  others := List.forall_mem_nil _
  once := List.forall_mem_nil _
  present := List.forall_mem_nil _

/-- A field may be written before the others. -/
theorem cons (follows : Follows rules members)
    (distinct : rule.key ∉ rules.map FieldRule.key) {text : List Char}
    (written : rule.written text) (fresh : rule.key ∉ members.map Prod.fst) :
    Follows (rule :: rules) ((rule.key, text) :: members) := by
  have different : ∀ other ∈ rules, rule.key ≠ other.key :=
    fun other isRule same =>
      distinct (same ▸ List.mem_map_of_mem isRule)
  refine ⟨?_, ?_, ?_, ?_⟩
  · intro other isRule otherText isMember
    rcases List.mem_cons.mp isRule with rfl | isRule <;>
      rcases List.mem_cons.mp isMember with here | isMember
    · cases here
      exact written
    · exact absurd (List.mem_map_of_mem isMember) fresh
    · exact absurd (congrArg Prod.fst here).symm (different other isRule)
    · exact follows.fields other isRule otherText isMember
  · intro member isMember unknown
    rw [List.map_cons, List.mem_cons, not_or] at unknown
    rcases List.mem_cons.mp isMember with rfl | isMember
    · exact absurd rfl unknown.1
    · exact follows.others member isMember unknown.2
  · rw [List.forall_mem_cons]
    constructor
    · rw [List.map_cons, List.count_cons_self, List.count_eq_zero.mpr fresh]
    · intro other isRule
      rw [List.map_cons, List.count_cons_of_ne (different other isRule)]
      exact follows.once other isRule
  · rw [List.forall_mem_cons]
    exact ⟨.inl List.mem_cons_self, fun other isRule =>
      (follows.present other isRule).imp_left (List.mem_cons_of_mem _)⟩

/-- A field may be left out if its rule says so. -/
theorem skip (follows : Follows rules members) (omissible : rule.omissible)
    (fresh : rule.key ∉ members.map Prod.fst) :
    Follows (rule :: rules) members := by
  refine ⟨?_, ?_, ?_, ?_⟩
  · rw [List.forall_mem_cons]
    exact ⟨fun text isMember => absurd (List.mem_map_of_mem isMember) fresh,
      follows.fields⟩
  · intro member isMember unknown
    rw [List.map_cons, List.mem_cons, not_or] at unknown
    exact follows.others member isMember unknown.2
  · rw [List.forall_mem_cons]
    exact ⟨(List.count_eq_zero.mpr fresh).le.trans (Nat.zero_le 1),
      follows.once⟩
  · rw [List.forall_mem_cons]
    exact ⟨.inr omissible, follows.present⟩

/-- More may be said than what the rules ask for. -/
theorem unknown (follows : Follows rules members) {key : String} {text : List Char}
    (other : key ∉ rules.map FieldRule.key) (value : AnyValue text) :
    Follows rules ((key, text) :: members) := by
  have different : ∀ rule ∈ rules, key ≠ rule.key :=
    fun rule isRule same => other (same ▸ List.mem_map_of_mem isRule)
  refine ⟨?_, ?_, ?_, ?_⟩
  · intro rule isRule ruleText isMember
    rcases List.mem_cons.mp isMember with here | isMember
    · exact absurd (congrArg Prod.fst here).symm (different rule isRule)
    · exact follows.fields rule isRule ruleText isMember
  · rw [List.forall_mem_cons]
    exact ⟨fun _ => value, follows.others⟩
  · intro rule isRule
    rw [List.map_cons, List.count_cons_of_ne (different rule isRule)]
    exact follows.once rule isRule
  · exact fun rule isRule =>
      (follows.present rule isRule).imp_left (List.mem_cons_of_mem _)

/-- The order of the members does not matter. -/
theorem perm (follows : Follows rules members)
    {reordered : List (String × List Char)} (order : members.Perm reordered) :
    Follows rules reordered where
  fields rule isRule text isMember :=
    follows.fields rule isRule text (order.mem_iff.mpr isMember)
  others member isMember := follows.others member (order.mem_iff.mpr isMember)
  once rule isRule := by
    rw [← (order.map Prod.fst).count_eq]
    exact follows.once rule isRule
  present rule isRule := by
    rw [← (order.map Prod.fst).mem_iff]
    exact follows.present rule isRule

end Follows

/-- The texts of a record.  Every key spells its characters. -/
def RecordText (rules : List FieldRule) (text : List Char) : Prop :=
  ∃ members texts,
    Follows rules members ∧
      List.Forall₂
        (fun (member : String × List Char) (text : List Char × List Char) =>
          StringText member.1 text.1 ∧ text.2 = member.2)
        members texts ∧
      ObjectText texts text

end Json.Grammar

open Json.Grammar

/-! ## The records of a document -/

def ArgumentSpec.rules (argument : ArgumentSpec) : List FieldRule :=
  [⟨"name", StringText argument.name, False⟩,
    ⟨"type", OptionalText StringText argument.type, argument.type = none⟩,
    ⟨"domain", OptionalText StringText argument.domain, argument.domain = none⟩]

def ArgumentSpec.Text (argument : ArgumentSpec) : List Char → Prop :=
  RecordText argument.rules

def MethodSpec.rules (method : MethodSpec) : List FieldRule :=
  [⟨"id", NaturalText method.id.toNat, False⟩,
    ⟨"name", StringText method.name, False⟩,
    ⟨"synchronous",
      OptionalText (fun value text => text = flagText value) method.synchronous,
      method.synchronous = none⟩,
    ⟨"arguments", ListText ArgumentSpec.Text method.arguments,
      method.arguments = []⟩]

def MethodSpec.Text (method : MethodSpec) : List Char → Prop :=
  RecordText method.rules

def ClassSpec.rules (cls : ClassSpec) : List FieldRule :=
  [⟨"id", NaturalText cls.id.toNat, False⟩,
    ⟨"name", StringText cls.name, False⟩,
    ⟨"methods", ListText MethodSpec.Text cls.methods, cls.methods = []⟩]

def ClassSpec.Text (cls : ClassSpec) : List Char → Prop :=
  RecordText cls.rules

namespace Spec

def byteRule (key : String) (value : Option UInt8) : FieldRule :=
  ⟨key, OptionalText NaturalText (value.map UInt8.toNat), value = none⟩

def rules (spec : Spec) : List FieldRule :=
  [⟨"name", OptionalText StringText spec.name, spec.name = none⟩,
    byteRule "major-version" spec.majorVersion,
    byteRule "minor-version" spec.minorVersion,
    byteRule "revision" spec.revision,
    ⟨"port", OptionalText NaturalText (spec.tcpPort.map UInt16.toNat),
      spec.tcpPort = none⟩,
    ⟨"domains", ListText PairText spec.domains, False⟩,
    ⟨"classes", ListText ClassSpec.Text spec.classes, False⟩]

/-- The JSON texts of a document. -/
def JsonText (spec : Spec) (text : List Char) : Prop :=
  ∃ inner, RecordText spec.rules inner ∧ Padded inner text

end Spec

end MethodCodec
