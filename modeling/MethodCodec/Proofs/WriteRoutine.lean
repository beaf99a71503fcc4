import Mathlib
import MethodCodec.Proofs.Lists
import MethodCodec.Proofs.OnePass
import MethodCodec.Proofs.Routine

/-!
# Writing routines carried out

The statements of a writing routine are laid out along the fields, with the
names of the flags in the run that is open, and then carried out one field at a
time next to the codec in one pass.
-/

namespace MethodCodec.Source

open OnePass

/-! ## Writing statements along the fields -/

/-- Puts the statement that writes a run of flags in front, if the run holds
one. -/
def closeNames (names : List String) (rest : List WriteStatement) :
    List WriteStatement :=
  if names = [] then rest else .flags names :: rest

/-- The statements that write the fields that are left, while `names` are the
flags of the run that is open. -/
def writeStatementsFrom (names : List String) : List Field → List WriteStatement
  | [] => closeNames names []
  | field :: fields =>
      match WriteStatement.ofType? field.name.snake field.type with
      | some statement =>
          closeNames names (statement :: writeStatementsFrom [] fields)
      | none => writeStatementsFrom (names ++ [field.name.snake]) fields

theorem isFlag_eq_isNone (name : String) (kind : WireType) :
    kind.isFlag = (WriteStatement.ofType? name kind).isNone := by
  cases kind <;> rfl

section

variable {fields : List Field} {run : List Nat} {names : List String}

theorem mapM_closeRun
    (named : run.reverse.mapM (fieldName fields) = .ok names)
    (rest : List Segment) :
    (Layout.writePlan (Layout.closeRun run rest)).mapM
        (WriteStatement.ofStep fields) =
      ((Layout.writePlan rest).mapM (WriteStatement.ofStep fields)).map
        (closeNames names) := by
  cases run with
  | nil =>
      have noNames : names = [] := (Except.ok.inj named).symm
      have unchanged : closeNames [] = id := rfl
      rw [Layout.closeRun, noNames, unchanged]
      cases (Layout.writePlan rest).mapM (WriteStatement.ofStep fields) <;> rfl
  | cons last before =>
      have nonempty : names ≠ [] := by
        rintro rfl
        have lengths := (mapM_eq_ok_iff.mp named).length_eq
        simp at lengths
      have written :
          WriteStatement.ofStep fields (.flags (last :: before).reverse) =
            .ok (.flags names) := by
        rw [WriteStatement.ofStep, named]
      rw [Layout.closeRun, Layout.writePlan, List.map_cons, Layout.writeSegment,
        mapM_cons_of_ok written]
      refine congrArg (fun add => Except.map add _) (funext fun rest => ?_)
      rw [closeNames, if_neg nonempty]

theorem mapM_fieldName_concat
    (named : run.reverse.mapM (fieldName fields) = .ok names)
    {index : Nat} {field : Field} (declared : fields[index]? = some field) :
    (index :: run).reverse.mapM (fieldName fields) =
      .ok (names ++ [field.name.snake]) := by
  have here : fieldName fields index = .ok field.name.snake := by
    rw [fieldName, declared]
  rw [List.reverse_cons, List.mapM_append, named, List.mapM_cons, here]
  rfl

end

theorem mapM_segmentsFrom {todo : List Field} :
    ∀ (done : List Field) {run : List Nat} {names : List String},
      run.reverse.mapM (fieldName (done ++ todo)) = .ok names →
      (Layout.writePlan
          (Layout.segmentsFrom done.length run (todo.map Field.type))).mapM
          (WriteStatement.ofStep (done ++ todo)) =
        .ok (writeStatementsFrom names todo) := by
  induction todo with
  | nil =>
      intro done run names named
      rw [List.map_nil, Layout.segmentsFrom, mapM_closeRun named]
      rfl
  | cons field todo inductionHypothesis =>
      intro done run names named
      have declared : (done ++ field :: todo)[done.length]? = some field := by
        simp
      have later {run : List Nat} {names : List String}
          (named : run.reverse.mapM (fieldName (done ++ field :: todo)) = .ok names) :=
        inductionHypothesis (done ++ [field]) (by simpa using named)
      simp only [List.length_append, List.length_singleton, List.append_assoc,
        List.singleton_append] at later
      have kind := isFlag_eq_isNone field.name.snake field.type
      rw [List.map_cons, Layout.segmentsFrom, writeStatementsFrom, kind]
      cases chosen : WriteStatement.ofType? field.name.snake field.type with
      | none => exact later (mapM_fieldName_concat named declared)
      | some statement =>
          have written :
              WriteStatement.ofStep (done ++ field :: todo) (.field done.length) =
                .ok statement := by
            simp only [WriteStatement.ofStep, declared, chosen]
          have noRun :
              [].reverse.mapM (fieldName (done ++ field :: todo)) = .ok [] := rfl
          rw [if_neg (by simp), mapM_closeRun named, Layout.writePlan,
            List.map_cons, Layout.writeSegment, mapM_cons_of_ok written,
            ← Layout.writePlan, later noRun]
          rfl

/-- No step of a writing plan lacks its statement. -/
theorem writeStatements_eq (method : Method) :
    writeStatements method = .ok (writeStatementsFrom [] method.fields) :=
  mapM_segmentsFrom [] rfl

/-! ## Carrying out the writing statements -/

/-- The structure that holds values by the identifiers of their fields. -/
def recordOf (fields : List Field) (values : List Value) : Scope := fun name =>
  ((fields.zip values).find? fun pair => pair.1.name.snake == name).map fun pair =>
    .ofValue pair.2

theorem recordOf_eq
    {fields : List Field}
    (distinct : (fields.map fun field => field.name.snake).Nodup)
    (aligned : fields.length = values.length) {value : Value}
    (pair : (field, value) ∈ fields.zip values) :
    recordOf fields values field.name.snake = some (.ofValue value) := by
  have keys :
      (fields.zip values).map (fun pair => pair.1.name.snake) =
        fields.map fun field => field.name.snake := by
    have heads := List.map_fst_zip aligned.le
    have snakes := congrArg (List.map fun field : Field => field.name.snake) heads
    rwa [List.map_map] at snakes
  have found :=
    (find?_key_eq_some_iff (keys ▸ distinct)).mpr ⟨pair, rfl⟩
  rw [recordOf, found]
  rfl

/-- A field whose value is in a record, fits its length, and can be named. -/
structure Written (record : Scope) (field : Field) (value : Value) : Prop where
  isName : isWord field.name.snake = true
  type : value.type = field.type
  held : record field.name.snake = some (.ofValue value)
  fits : Encoding.overlong? value = none

section

variable {record : Scope} {names : List String} {pending : List Bool}

theorem runWriting_closeNames
    (words : ∀ name ∈ names, isWord name = true)
    (held : names.mapM (fun name => (record name).bind Datum.flag?) = some pending)
    (rest : List WriteStatement) (buffer : List UInt8) :
    runWriting ((closeNames names rest).map WriteStatement.text) record buffer =
      runWriting (rest.map WriteStatement.text) record (buffer ++ flush pending) := by
  rw [closeNames]
  split_ifs with empty
  · subst empty
    have noFlags : pending = [] := (Option.some.inj held).symm
    rw [noFlags, flush_nil, List.append_nil]
  · rw [List.map_cons, runWriting, List.foldlM_cons,
      appendLine_flags words empty held, flush_eq_pack]
    rfl

/-- The statements of the fields that are left write their values as the codec
in one pass does. -/
theorem runWriting_statements {todo : List Field} {values : List Value}
    (written : List.Forall₂ (Written record) todo values) :
    ∀ {names : List String} {pending : List Bool},
      (∀ name ∈ names, isWord name = true) →
      names.mapM (fun name => (record name).bind Datum.flag?) = some pending →
      ∀ buffer,
        runWriting ((writeStatementsFrom names todo).map WriteStatement.text)
            record buffer =
          some (buffer ++ writeValues pending values) := by
  induction written with
  | nil =>
      intro names pending words held buffer
      rw [writeStatementsFrom, runWriting_closeNames words held]
      rfl
  | @cons field value todo values here _ inductionHypothesis =>
      intro names pending words held buffer
      have kind := isFlag_eq_isNone field.name.snake field.type
      rw [writeStatementsFrom]
      cases chosen : WriteStatement.ofType? field.name.snake field.type with
      | none =>
          rw [chosen, ← here.type] at kind
          cases value with
          | bit flag =>
              -- Nothing is written yet: the flag waits with those before it.
              have flags :
                  (names ++ [field.name.snake]).mapM
                      (fun name => (record name).bind Datum.flag?) =
                    some (pending ++ [flag]) := by
                rw [List.mapM_append, held, List.mapM_cons, here.held]
                rfl
              have words :
                  ∀ name ∈ names ++ [field.name.snake], isWord name = true := by
                intro name member
                rcases List.mem_append.mp member with earlier | last
                · exact words name earlier
                · rw [List.mem_singleton.mp last]
                  exact here.isName
              exact inductionHypothesis words flags buffer
          | _ => cases kind
      | some statement =>
          have plain : value.type.isFlag = false := by
            rw [here.type, kind, chosen]
            rfl
          have line :=
            appendLine_of_type here.isName here.held here.fits
              (here.type ▸ chosen) (buffer ++ flush pending)
          have later :
              runWriting ((writeStatementsFrom [] todo).map WriteStatement.text)
                  record (buffer ++ flush pending ++ Encoding.bytes value) =
                some (buffer ++ flush pending ++ Encoding.bytes value ++
                  writeValues [] values) :=
            inductionHypothesis (by simp) rfl _
          dsimp only
          rw [runWriting_closeNames words held, List.map_cons, runWriting,
            List.foldlM_cons, line, writeValues_plain plain]
          refine later.trans ?_
          simp only [List.append_assoc]

end

end MethodCodec.Source
