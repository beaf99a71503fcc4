import Mathlib
import MethodCodec.Proofs.JsonRecord
import MethodCodec.Spec.Document

/-!
# Reading JSON texts of documents

A document without a violation is read back from every JSON text of it.
-/

namespace MethodCodec

open Json Json.Grammar

/-! ## Arguments -/

def ArgumentSpec.draft (argument : ArgumentSpec) (met : List String) :
    ArgumentDraft where
  name := met? met "name" argument.name
  type := met? met "type" argument.type
  domain := met? met "domain" argument.domain

theorem reads_optional_string {string : Option String} {text : List Char}
    (written : OptionalText StringText string text) :
    Reads (readOptional readText) string text :=
  reads_optional (fun _ refused => by cases refused)
    (fun _ _ _ => reads_string) written

theorem ArgumentSpec.recorded (argument : ArgumentSpec) :
    Recorded Json.format.argumentSlots {} ArgumentDraft.finish argument.rules
      argument argument.draft := by
  refine ⟨?_, rfl, ?_, ?_⟩
  · refine .cons ?_ (.cons ?_ (.cons ?_ .nil))
    · refine fits_ofField (fun _ => rfl) ?_ fun _ => reads_string
      simp [draft, met?]
    · refine fits_ofField (fun _ => rfl) ?_ fun _ => reads_optional_string
      simp [draft, met?]
    · refine fits_ofField (fun _ => rfl) ?_ fun _ => reads_optional_string
      simp [draft, met?]
  · intro key met unknown
    simp only [rules, List.map_cons, List.map_nil, List.mem_cons,
      List.not_mem_nil, or_false, not_or] at unknown
    obtain ⟨name, type, domain⟩ := unknown
    simp only [draft, met?_cons_of_ne name, met?_cons_of_ne type,
      met?_cons_of_ne domain]
  · intro met known
    simp only [rules, List.forall_mem_cons, List.not_mem_nil, or_false,
      false_implies, implies_true, and_true] at known
    obtain ⟨name, type, domain⟩ := known
    simp only [ArgumentDraft.finish, draft, met?_of_mem name, getD_met? type,
      getD_met? domain]
    rfl

theorem reads_argument {argument : ArgumentSpec} {text : List Char}
    (written : argument.Text text) :
    Reads Json.format.argument argument text :=
  reads_record "ArgumentDef" argument.recorded written

/-! ## Methods -/

def MethodSpec.draft (method : MethodSpec) (met : List String) : MethodDraft where
  id := met? met "id" method.id.toNat
  name := met? met "name" method.name
  synchronous := met? met "synchronous" method.synchronous
  arguments := met? met "arguments" method.arguments

theorem reads_word {value : UInt16} {text : List Char}
    (written : NaturalText value.toNat text) :
    Reads Json.format.word value.toNat text :=
  reads_natural (Nat.le_of_lt_succ value.toNat_lt) (by decide) written

theorem MethodSpec.recorded (method : MethodSpec) :
    Recorded Json.format.methodSlots {} MethodDraft.finish method.rules method
      method.draft := by
  refine ⟨?_, rfl, ?_, ?_⟩
  · refine .cons ?_ (.cons ?_ (.cons ?_ (.cons ?_ .nil)))
    · refine fits_ofField (fun _ => rfl) ?_ fun _ => reads_word
      simp [draft, met?]
    · refine fits_ofField (fun _ => rfl) ?_ fun _ => reads_string
      simp [draft, met?]
    · refine fits_ofField (fun _ => rfl) (fun met => ?_) fun _ written => by
        refine reads_optional (fun _ refused => by cases refused) ?_ written
        rintro flag _ _ rfl
        exact reads_flag flag
      simp [draft, met?]
    · refine fits_ofField (fun _ => rfl) (fun met => ?_) fun _ =>
        reads_list fun _ _ => reads_argument
      simp [draft, met?]
  · intro key met unknown
    simp only [rules, List.map_cons, List.map_nil, List.mem_cons,
      List.not_mem_nil, or_false, not_or] at unknown
    obtain ⟨id, name, synchronous, arguments⟩ := unknown
    simp only [draft, met?_cons_of_ne id, met?_cons_of_ne name,
      met?_cons_of_ne synchronous, met?_cons_of_ne arguments]
  · intro met known
    simp only [rules, List.forall_mem_cons, List.not_mem_nil, or_false,
      false_implies, implies_true, and_true] at known
    obtain ⟨id, name, synchronous, arguments⟩ := known
    simp only [MethodDraft.finish, draft, met?_of_mem id, met?_of_mem name,
      getD_met? synchronous, getD_met? arguments]
    simp [requireField, bind, Except.bind, pure, Except.pure]

theorem reads_method {method : MethodSpec} {text : List Char}
    (written : method.Text text) : Reads Json.format.method method text :=
  reads_record "MethodDef" method.recorded written

/-! ## Classes -/

def ClassSpec.draft (cls : ClassSpec) (met : List String) : ClassDraft where
  id := met? met "id" cls.id.toNat
  name := met? met "name" cls.name
  methods := met? met "methods" cls.methods

theorem ClassSpec.recorded (cls : ClassSpec) :
    Recorded Json.format.classSlots {} ClassDraft.finish cls.rules cls
      cls.draft := by
  refine ⟨?_, rfl, ?_, ?_⟩
  · refine .cons ?_ (.cons ?_ (.cons ?_ .nil))
    · refine fits_ofField (fun _ => rfl) ?_ fun _ => reads_word
      simp [draft, met?]
    · refine fits_ofField (fun _ => rfl) ?_ fun _ => reads_string
      simp [draft, met?]
    · refine fits_ofField (fun _ => rfl) (fun met => ?_) fun _ =>
        reads_list fun _ _ => reads_method
      simp [draft, met?]
  · intro key met unknown
    simp only [rules, List.map_cons, List.map_nil, List.mem_cons,
      List.not_mem_nil, or_false, not_or] at unknown
    obtain ⟨id, name, methods⟩ := unknown
    simp only [draft, met?_cons_of_ne id, met?_cons_of_ne name,
      met?_cons_of_ne methods]
  · intro met known
    simp only [rules, List.forall_mem_cons, List.not_mem_nil, or_false,
      false_implies, implies_true, and_true] at known
    obtain ⟨id, name, methods⟩ := known
    simp only [ClassDraft.finish, draft, met?_of_mem id, met?_of_mem name,
      getD_met? methods]
    simp [requireField, bind, Except.bind, pure, Except.pure]

theorem reads_class {cls : ClassSpec} {text : List Char}
    (written : cls.Text text) : Reads Json.format.classRecord cls text :=
  reads_record "ClassDef" cls.recorded written

/-! ## Documents -/

namespace Spec

def draft (spec : Spec) (met : List String) : SpecDraft where
  name := met? met "name" spec.name
  majorVersion := met? met "major-version" (spec.majorVersion.map UInt8.toNat)
  minorVersion := met? met "minor-version" (spec.minorVersion.map UInt8.toNat)
  revision := met? met "revision" (spec.revision.map UInt8.toNat)
  tcpPort := met? met "port" (spec.tcpPort.map UInt16.toNat)
  domains := met? met "domains" spec.domains
  classes := met? met "classes" spec.classes

theorem reads_optional_byte {value : Option UInt8} {text : List Char}
    (written : OptionalText NaturalText (value.map UInt8.toNat) text) :
    Reads (readOptional Json.format.byte) (value.map UInt8.toNat) text := by
  refine reads_optional (fun _ refused => by cases refused) ?_ written
  intro number isNumber _
  obtain ⟨byte, _, rfl⟩ := Option.mem_map.mp isNumber
  exact reads_natural (Nat.le_of_lt_succ byte.toNat_lt) (by decide)

theorem reads_optional_word {value : Option UInt16} {text : List Char}
    (written : OptionalText NaturalText (value.map UInt16.toNat) text) :
    Reads (readOptional Json.format.word) (value.map UInt16.toNat) text := by
  refine reads_optional (fun _ refused => by cases refused) ?_ written
  intro number isNumber _
  obtain ⟨word, _, rfl⟩ := Option.mem_map.mp isNumber
  exact reads_word

theorem recorded (spec : Spec) :
    Recorded Json.format.specSlots {} SpecDraft.finish spec.rules spec
      spec.draft := by
  refine ⟨?_, rfl, ?_, ?_⟩
  · refine .cons ?_ (.cons ?_ (.cons ?_ (.cons ?_ (.cons ?_ (.cons ?_
      (.cons ?_ .nil))))))
    · refine fits_ofField (fun _ => rfl) ?_ fun _ => reads_optional_string
      simp [draft, met?]
    · refine fits_ofField (fun _ => rfl) ?_ fun _ => reads_optional_byte
      simp [draft, met?]
    · refine fits_ofField (fun _ => rfl) ?_ fun _ => reads_optional_byte
      simp [draft, met?]
    · refine fits_ofField (fun _ => rfl) ?_ fun _ => reads_optional_byte
      simp [draft, met?]
    · refine fits_ofField (fun _ => rfl) ?_ fun _ => reads_optional_word
      simp [draft, met?]
    · refine fits_ofField (fun _ => rfl) (fun met => ?_) fun _ =>
        reads_list fun _ _ => reads_pair
      simp [draft, met?]
    · refine fits_ofField (fun _ => rfl) (fun met => ?_) fun _ =>
        reads_list fun _ _ => reads_class
      simp [draft, met?]
  · intro key met unknown
    simp only [rules, byteRule, List.map_cons, List.map_nil, List.mem_cons,
      List.not_mem_nil, or_false, not_or] at unknown
    obtain ⟨name, major, minor, revision, port, domains, classes⟩ := unknown
    simp only [draft, met?_cons_of_ne name, met?_cons_of_ne major,
      met?_cons_of_ne minor, met?_cons_of_ne revision, met?_cons_of_ne port,
      met?_cons_of_ne domains, met?_cons_of_ne classes]
  · intro met known
    simp only [rules, byteRule, List.forall_mem_cons, List.not_mem_nil, or_false,
      false_implies, implies_true, and_true] at known
    obtain ⟨name, major, minor, revision, port, domains, classes⟩ := known
    simp only [SpecDraft.finish, draft, met?_of_mem domains, met?_of_mem classes,
      getD_met? name, getD_met? (major.imp_right Option.map_eq_none_iff.mpr),
      getD_met? (minor.imp_right Option.map_eq_none_iff.mpr),
      getD_met? (revision.imp_right Option.map_eq_none_iff.mpr),
      getD_met? (port.imp_right Option.map_eq_none_iff.mpr)]
    simp [requireField, bind, Except.bind, pure, Except.pure, Function.comp_def]

/-- A document without a violation is read from every text of it. -/
theorem read_of_jsonText {spec : Spec} (accepted : spec.violation? = none)
    {text : String} (written : spec.JsonText text.toList) :
    read .json text = .ok spec := by
  obtain ⟨inner, record, padded⟩ := written
  obtain ⟨value, builds, found⟩ : Reads Json.format.spec spec inner :=
    reads_record "ProtocolSpec" spec.recorded record
  have content : ofText .json text = .ok spec := by
    rw [ofText, Json.specOfText, Document.ofText_padded builds padded,
      Document.read, found]
    rfl
  rw [read, content]
  change checked spec = _
  rw [checked, accepted]

end Spec

end MethodCodec
