import Mathlib
import MethodCodec.Proofs.Codec
import MethodCodec.Proofs.Collision
import MethodCodec.Proofs.ReadRoutine
import MethodCodec.Proofs.Resolution
import MethodCodec.Proofs.WriteRoutine

/-!
# Routines and codec

The lines of a method's routines do what the codec does, for every method of a
protocol whose argument names are plain.
-/

namespace MethodCodec.Source

open OnePass

/-! ## The lines of a method -/

/-- The identifiers of fields come from the names in the document. -/
theorem snake_of_resolve
    {spec : Spec} {protocol : Protocol}
    (accepted : spec.resolve.outcome = .ok protocol)
    {method : Method} (member : method ∈ protocol.methods)
    {field : Field} (fieldMember : field ∈ method.fields) :
    field.name.snake = Name.snakeCase field.name.written := by
  obtain ⟨_, resolves, _⟩ := Spec.resolves_of_resolve accepted
  obtain ⟨cls, clsMember, methodMember⟩ := List.mem_flatMap.mp member
  obtain ⟨_, _, resolvedClass⟩ :=
    exists_left_of_forall₂ resolves.classes clsMember
  obtain ⟨_, _, resolvedMethod⟩ :=
    exists_left_of_forall₂ resolvedClass.methods methodMember
  obtain ⟨_, _, resolvedField⟩ :=
    exists_left_of_forall₂ resolvedMethod.fields fieldMember
  rw [resolvedField.name]
  rfl

theorem nodup_of_resolve
    {spec : Spec} {protocol : Protocol}
    (accepted : spec.resolve.outcome = .ok protocol)
    {method : Method} (member : method ∈ protocol.methods) :
    method.fieldIdentifiers.Nodup := by
  obtain ⟨_, _, apart⟩ := Spec.resolves_of_resolve accepted
  exact Protocol.nodup_fieldIdentifiers apart member

/-- Carried out on a payload, the lines that read the arguments of a method give
the values that the codec reads, or stop for missing bytes where it fails.
Carried out on the structure of values that the codec writes, the lines that
write append the bytes that it writes. -/
theorem lines_agree
    {spec : Spec} {protocol : Protocol}
    (accepted : spec.resolve.outcome = .ok protocol)
    {method : Method} (member : method ∈ protocol.methods)
    (plain : ∀ field ∈ method.fields, isPlainName field.name.written = true) :
    (∃ lines,
      readLines method (ReadLocals.ofFields method.fields) = .ok lines ∧
        ∀ payload,
          runReading lines (ReadLocals.ofFields method.fields).reader
              method.fields payload =
            match method.decode payload with
            | .ok values => .ok values
            | .error _ => .error .missing) ∧
      ∃ lines,
        writeLines method = .ok lines ∧
          ∀ values bytes, method.encode values = .ok bytes →
            ∀ buffer,
              runWriting lines (recordOf method.fields values) buffer =
                some (buffer ++ bytes) := by
  have nodup := nodup_of_resolve accepted member
  have identifiers :
      ∀ field ∈ method.fields, isIdentifier field.name.snake = true := by
    intro field fieldMember
    rw [snake_of_resolve accepted member fieldMember]
    exact isIdentifier_snakeCase (plain field fieldMember)
  constructor
  · refine ⟨_, by rw [readLines, readStatements_eq]; rfl, fun payload => ?_⟩
    rw [runReading_statements (distinct_ofFields nodup identifiers),
      Method.decode_eq]
    cases readFields method.fields none payload <;> rfl
  · refine ⟨_, by rw [writeLines, writeStatements_eq]; rfl, ?_⟩
    intro values bytes encoded buffer
    obtain ⟨typed, fits, rfl⟩ := Method.encode_eq_ok_iff.mp encoded
    have aligned : method.fields.length = values.length := by
      simpa using (congrArg List.length typed).symm
    have types :
        List.Forall₂ (· = ·) (values.map Value.type)
          (method.fields.map Field.type) := by
      rw [List.forall₂_eq_eq_eq]
      exact typed
    rw [List.forall₂_map_left_iff, List.forall₂_map_right_iff] at types
    have written :
        List.Forall₂ (Written (recordOf method.fields values)) method.fields
          values := by
      refine List.forall₂_iff_zip.mpr ⟨aligned, ?_⟩
      intro field value pair
      have inside := List.of_mem_zip pair
      exact ⟨isWord_of_isIdentifier (identifiers field inside.1),
        (List.forall₂_iff_zip.mp types.flip).2 pair,
        recordOf_eq nodup aligned pair, fits value inside.2⟩
    exact runWriting_statements written (by simp) rfl buffer

/-- A method whose arguments have the names of the variables of its reading
routine, and that of a word of the target language. -/
def shadowingMethod : Method where
  id := 10
  classId := 50
  name := Name.ofText "declare"
  qualifiedName := "queue.declare"
  synchronous := true
  fields :=
    [⟨Name.ofText "reader", .short, none⟩, ⟨Name.ofText "bits", .bit, none⟩,
      ⟨Name.ofText "type", .bit, some "flag"⟩,
      ⟨Name.ofText "reader_", .shortString, none⟩,
      ⟨Name.ofText "arguments", .table, none⟩]

/-- The document that declares it. -/
def shadowing : Spec where
  name := none
  majorVersion := none
  minorVersion := none
  revision := none
  tcpPort := none
  domains := [("flag", "bit")]
  classes :=
    [⟨50, "queue",
      [⟨10, "declare", some true,
        [⟨"reader", some "short", none⟩, ⟨"bits", some "bit", none⟩,
          ⟨"type", none, some "flag"⟩, ⟨"reader_", some "shortstr", none⟩,
          ⟨"arguments", some "table", none⟩]⟩]⟩]

def shadowingProtocol : Protocol where
  info := ⟨none, none, none⟩
  domains := [("flag", .bit)]
  classes := [⟨50, Name.ofText "queue", [shadowingMethod]⟩]

theorem lines_agree_shadowing :
    shadowing.resolve.outcome = .ok shadowingProtocol ∧
      shadowingMethod ∈ shadowingProtocol.methods ∧
      (∀ field ∈ shadowingMethod.fields,
        isPlainName field.name.written = true) ∧
      (∃ lines,
        readLines shadowingMethod (ReadLocals.ofFields shadowingMethod.fields) =
            .ok lines ∧
          runReading lines "reader__" shadowingMethod.fields
              [1, 2, 2, 1, 104, 0, 0, 0, 1, 7] =
            .ok [.short 258, .bit false, .bit true, .shortString "h",
              .table [7]]) ∧
      ∃ lines,
        writeLines shadowingMethod = .ok lines ∧
          runWriting lines
              (recordOf shadowingMethod.fields
                [.short 258, .bit false, .bit true, .shortString "h",
                  .table [7]]) [9] =
            some [9, 1, 2, 2, 1, 104, 0, 0, 0, 1, 7] := by
  have accepted : shadowing.resolve.outcome = .ok shadowingProtocol := by
    decide +kernel
  have member : shadowingMethod ∈ shadowingProtocol.methods := by
    decide +kernel
  have plain :
      ∀ field ∈ shadowingMethod.fields,
        isPlainName field.name.written = true := by
    decide +kernel
  have reader :
      (ReadLocals.ofFields shadowingMethod.fields).reader = "reader__" := by
    decide +kernel
  have decoded :
      shadowingMethod.decode [1, 2, 2, 1, 104, 0, 0, 0, 1, 7] =
        .ok [.short 258, .bit false, .bit true, .shortString "h",
          .table [7]] := by
    decide +kernel
  have encoded :
      shadowingMethod.encode
          [.short 258, .bit false, .bit true, .shortString "h", .table [7]] =
        .ok [1, 2, 2, 1, 104, 0, 0, 0, 1, 7] := by
    decide +kernel
  obtain ⟨⟨lines, read, ran⟩, writing, written, appended⟩ :=
    lines_agree accepted member plain
  have values := ran [1, 2, 2, 1, 104, 0, 0, 0, 1, 7]
  rw [decoded, reader] at values
  exact ⟨accepted, member, plain, ⟨lines, read, values⟩, writing, written,
    appended _ _ encoded [9]⟩

end MethodCodec.Source
