import Mathlib
import MethodCodec.Proofs.ReadRoutine
import MethodCodec.Proofs.WriteRoutine
import MethodCodec.Source.File

/-!
# The generated file

No plan of a method lacks a statement, so a file is generated unless a
structure goes by the name of the table type.  Its lines are those of the
shared part, of the function that names methods, and of each class module.
-/

namespace MethodCodec

namespace Source

/-- The lines of a method in its class module, blank line first. -/
def memberLines (classId : UInt16) (settings : SourceSettings)
    (method : Method) : List String :=
  let locals := ReadLocals.ofFields method.fields
  methodLines classId settings method locals.reader
    ((statementsFrom locals 0 method.fields).map ReadStatement.text)
    ((writeStatementsFrom [] method.fields).map WriteStatement.text)

theorem methodSection_eq
    (classId : UInt16) (settings : SourceSettings) (method : Method) :
    methodSection classId settings method =
      .ok (memberLines classId settings method) := by
  rw [methodSection, readLines, readStatements_eq, writeLines,
    writeStatements_eq]
  rfl

/-- The lines of a class module. -/
def moduleLines (settings : SourceSettings) (cls : ProtocolClass) :
    List String :=
  classLines cls settings (cls.methods.flatMap (memberLines cls.id settings))

theorem classText_eq (cls : ProtocolClass) (settings : SourceSettings) :
    classText cls settings = .ok (joinLines (moduleLines settings cls)) := by
  have members :
      cls.methods.mapM (methodSection cls.id settings) =
        .ok (cls.methods.map (memberLines cls.id settings)) := by
    refine mapM_eq_ok_iff.mpr (List.forall₂_map_right_iff.mpr ?_)
    exact List.forall₂_same.mpr fun method _ =>
      methodSection_eq cls.id settings method
  rw [classText, members, moduleLines, List.flatMap_def]

/-- The lines of a file, section by section. -/
def sections (protocol : Protocol) (settings : SourceSettings) :
    List (List String) :=
  (headerLines protocol.info settings ++ sharedLines) ::
    methodTableLines protocol ::
    protocol.classes.map (moduleLines settings)

/-- The text of a file. -/
def sectionsText (protocol : Protocol) (settings : SourceSettings) : String :=
  joinSections ((sections protocol settings).map joinLines)

/-- What is told of a class before its module is made. -/
def emission (cls : ProtocolClass) : Event :=
  .classEmitted cls.name.written cls.methods.length

theorem classTexts_eq (settings : SourceSettings) (classes : List ProtocolClass) :
    classTexts settings classes =
      ⟨classes.map emission,
        .ok (classes.map fun cls => joinLines (moduleLines settings cls))⟩ := by
  induction classes with
  | nil => rfl
  | cons cls classes inductionHypothesis =>
      rw [classTexts, inductionHypothesis, classText_eq]
      simp only [Traced.andThen, Traced.note, Traced.ofExcept,
        Traced.mapError, Except.mapError, Traced.done, List.append_nil]
      rfl

end Source

open Source

/-- Generation fails only where a structure goes by the name of the table
type. -/
theorem Protocol.generate_eq (protocol : Protocol) (settings : SourceSettings) :
    protocol.generate settings =
      match protocol.importCollision? settings.tableType with
      | some collision => .fail (.unresolved (.collides collision))
      | none =>
          ⟨protocol.classes.map emission ++
            [.sourceGenerated protocol.classes.length protocol.methods.length
              (sectionsText protocol settings).utf8ByteSize],
            .ok (sectionsText protocol settings)⟩ := by
  rw [generate]
  cases protocol.importCollision? settings.tableType with
  | some collision => rfl
  | none =>
      dsimp only
      rw [fileText, classTexts_eq]
      simp only [Traced.andThen, Traced.done, Traced.note, sectionsText,
        sections, preambleText, methodTableText, List.map_cons, List.map_map,
        List.append_nil]
      rfl

end MethodCodec
