import Mathlib
import MethodCodec.Proofs.Lists
import MethodCodec.Proofs.Routine
import MethodCodec.Proofs.Truncation

/-!
# Reading routines carried out

The statements of a reading routine are laid out along the fields, as the steps
of the plan are, and then carried out one field at a time next to the codec in
one pass.  What carries the run is that the variables hold what the codec knows:
the bytes that are left, the open byte, and the values read.
-/

namespace MethodCodec.Source

open OnePass

/-! ## Reading statements along the fields -/

/-- The statements that read one field, while `position` is the place of the
next flag. -/
def fieldStatements (locals : ReadLocals) (position : Nat) (field : Field) :
    List ReadStatement :=
  match ReadHelper.ofType? field.type with
  | some helper => [.bind field.name.snake helper locals.reader]
  | none =>
      if position = 0 then
        [.openFlags locals.flags locals.reader,
          .takeFlag field.name.snake locals.flags 0]
      else
        [.takeFlag field.name.snake locals.flags position]

/-- The statements that read the fields that are left. -/
def statementsFrom (locals : ReadLocals) (position : Nat) :
    List Field → List ReadStatement
  | [] => []
  | field :: fields =>
      fieldStatements locals position field ++
        statementsFrom locals (Layout.positionAfter position field.type) fields

theorem isFlag_eq_false_of_ofType?
    {kind : WireType} {helper : ReadHelper}
    (chosen : ReadHelper.ofType? kind = some helper) :
    kind.isFlag = false := by
  cases kind <;> first | rfl | cases chosen

theorem eq_bit_of_ofType?
    {kind : WireType} (none : ReadHelper.ofType? kind = none) :
    kind = .bit := by
  cases kind <;> first | rfl | cases none

theorem mapM_fieldSteps
    {fields : List Field} {index : Nat} {field : Field}
    (declared : fields[index]? = some field) (locals : ReadLocals)
    (position : Nat) :
    (Layout.fieldSteps index position field.type).mapM
        (ReadStatement.ofStep fields locals) =
      .ok (fieldStatements locals position field) := by
  rw [fieldStatements]
  cases chosen : ReadHelper.ofType? field.type with
  | some helper =>
      have plain := isFlag_eq_false_of_ofType? chosen
      rw [Layout.fieldSteps, if_neg (by simp [plain]), List.mapM_cons,
        ReadStatement.ofStep, declared]
      simp only [chosen]
      rfl
  | none =>
      have flag : field.type.isFlag = true := by
        rw [eq_bit_of_ofType? chosen]
        rfl
      have taken (place : Nat) :
          ReadStatement.ofStep fields locals (.flag index place) =
            .ok (.takeFlag field.name.snake locals.flags place) := by
        rw [ReadStatement.ofStep, declared]
      rw [Layout.fieldSteps, if_pos flag]
      by_cases first : position = 0
      · simp only [if_pos first]
        rw [List.mapM_cons, List.mapM_cons, taken]
        rfl
      · simp only [if_neg first]
        rw [List.mapM_cons, taken]
        rfl

theorem mapM_steps
    (locals : ReadLocals) {todo : List Field} :
    ∀ (done : List Field) (position : Nat),
      (Layout.steps done.length position (todo.map Field.type)).mapM
          (ReadStatement.ofStep (done ++ todo) locals) =
        .ok (statementsFrom locals position todo) := by
  induction todo with
  | nil =>
      intro done position
      rfl
  | cons field todo inductionHypothesis =>
      intro done position
      have declared : (done ++ field :: todo)[done.length]? = some field := by
        simp
      have later := inductionHypothesis (done ++ [field])
        (Layout.positionAfter position field.type)
      simp only [List.length_append, List.length_singleton, List.append_assoc,
        List.singleton_append] at later
      rw [List.map_cons, Layout.steps, List.mapM_append,
        mapM_fieldSteps declared, later]
      rfl

/-- No step of a reading plan lacks its statement. -/
theorem readStatements_eq (method : Method) (locals : ReadLocals) :
    readStatements method locals = .ok (statementsFrom locals 0 method.fields) := by
  rw [readStatements, Method.readPlan, Method.layout, Layout.readPlan_segments]
  exact mapM_steps locals [] 0

/-! ## Names that stay apart -/

/-- Identifiers of fields and variables none of which is another. -/
structure Distinct (locals : ReadLocals) (fields : List Field) : Prop where
  nodup : (fields.map fun field => field.name.snake).Nodup
  reader : ∀ field ∈ fields, field.name.snake ≠ locals.reader
  flags : ∀ field ∈ fields, field.name.snake ≠ locals.flags
  apart : locals.reader ≠ locals.flags
  isField : ∀ field ∈ fields, isIdentifier field.name.snake = true
  isReader : isIdentifier locals.reader = true
  isFlags : isIdentifier locals.flags = true

theorem distinct_ofFields
    {fields : List Field}
    (apart : (fields.map fun field => field.name.snake).Nodup)
    (identifiers : ∀ field ∈ fields, isIdentifier field.name.snake = true) :
    Distinct (ReadLocals.ofFields fields) fields where
  nodup := apart
  reader := snake_ne_freshName "reader" fields
  flags := snake_ne_freshName "bits" fields
  apart := reader_ne_flags fields
  isField := identifiers
  isReader := isIdentifier_reader fields
  isFlags := isIdentifier_flags fields

/-! ## Carrying out the reading statements -/

/-- A variable holds the flags of the open byte, if there is one. -/
def Scope.ShowsFlags (scope : Scope) (name : String) : Option OpenByte → Prop
  | none => True
  | some ⟨byte, next⟩ =>
      scope name = some (.flags (Bits.unpack byte)) ∧ 0 < next ∧ next ≤ 8

theorem Scope.ShowsFlags.shows
    {scope : Scope} {name : String} {opened : Option OpenByte}
    (held : scope.ShowsFlags name opened) :
    ∃ flags, Codec.Shows flags opened := by
  match opened, held with
  | none, _ => exact ⟨[], trivial⟩
  | some ⟨byte, _⟩, ⟨_, positive, atMost⟩ =>
      exact ⟨Bits.unpack byte, rfl, positive, atMost⟩

theorem Scope.ShowsFlags.congr
    {scope after : Scope} {name : String} {opened : Option OpenByte}
    (held : scope.ShowsFlags name opened) (same : after name = scope name) :
    after.ShowsFlags name opened := by
  match opened, held with
  | none, _ => trivial
  | some _, ⟨flags, bounds⟩ => exact ⟨same.trans flags, bounds⟩

/-- What is in scope when the fields `done` have been read: the bytes that are
left, the flags of the open byte, and the values, each by its field. -/
structure Holds (locals : ReadLocals) (done : List Field) (values : List Value)
    (opened : Option OpenByte) (bytes : List UInt8) (scope : Scope) : Prop where
  reader : scope locals.reader = some (.reader bytes)
  flags : scope.ShowsFlags locals.flags opened
  filled : done.length = values.length
  bound :
    ∀ field value, (field, value) ∈ done.zip values →
      scope field.name.snake = some (.ofValue value)

variable {locals : ReadLocals} {done todo : List Field} {field : Field}
  {values : List Value} {opened : Option OpenByte} {bytes : List UInt8}
  {scope : Scope}

/-- Binding the next field keeps what is in scope, if nothing else has changed
than the variables that are not fields. -/
theorem Holds.bind_field
    (distinct : Distinct locals (done ++ field :: todo))
    (holds : Holds locals done values opened bytes scope)
    {next : Option OpenByte} {rest : List UInt8} {after : Scope}
    (reader : after locals.reader = some (.reader rest))
    (flags : after.ShowsFlags locals.flags next)
    (others :
      ∀ name, name ≠ locals.reader → name ≠ locals.flags →
        after name = scope name)
    (value : Value) :
    Holds locals (done ++ [field]) (values ++ [value]) next rest
      (after.bind field.name.snake (.ofValue value)) := by
  have member : field ∈ done ++ field :: todo := by simp
  have notReader := (distinct.reader field member).symm
  have notFlags := (distinct.flags field member).symm
  refine ⟨?_, ?_, by simp [holds.filled], ?_⟩
  · rw [Scope.bind_of_ne notReader, reader]
  · exact flags.congr (Scope.bind_of_ne notFlags ..)
  · intro other otherValue pair
    rw [List.zip_append holds.filled, List.mem_append] at pair
    rcases pair with earlier | here
    · -- An earlier field has an identifier of its own, so its variable stays.
      have otherMember : other ∈ done := (List.of_mem_zip earlier).1
      have otherInside : other ∈ done ++ field :: todo :=
        List.mem_append_left _ otherMember
      have notField : other.name.snake ≠ field.name.snake := by
        have nodup := distinct.nodup
        rw [List.map_append, List.map_cons] at nodup
        intro same
        exact List.disjoint_of_nodup_append nodup
          (List.mem_map.mpr ⟨other, otherMember, same⟩) List.mem_cons_self
      rw [Scope.bind_of_ne notField,
        others _ (distinct.reader other otherInside)
          (distinct.flags other otherInside)]
      exact holds.bound other otherValue earlier
    · simp only [List.zip_cons_cons, List.zip_nil_left, List.mem_singleton,
        Prod.mk.injEq] at here
      obtain ⟨rfl, rfl⟩ := here
      exact Scope.bind_self ..

def runStatements (scope : Scope) (statements : List ReadStatement) :
    Except Halt Scope :=
  (statements.map ReadStatement.text).foldlM readLine scope

theorem runStatements_append
    (scope : Scope) (statements others : List ReadStatement) :
    runStatements scope (statements ++ others) =
      (runStatements scope statements).bind fun after =>
        runStatements after others := by
  rw [runStatements, List.map_append, List.foldlM_append]
  rfl

theorem runStatements_cons
    (scope : Scope) (statement : ReadStatement) (others : List ReadStatement) :
    runStatements scope (statement :: others) =
      (readLine scope statement.text).bind fun after =>
        runStatements after others := by
  rw [runStatements, List.map_cons, List.foldlM_cons]
  rfl

/-- The statement of a field that is no flag reads it. -/
theorem Holds.run_plain
    (distinct : Distinct locals (done ++ field :: todo))
    (holds : Holds locals done values opened bytes scope)
    {helper : ReadHelper}
    (chosen : ReadHelper.ofType? field.type = some helper) (position : Nat) :
    match Encoding.read? field.type bytes with
    | none =>
        runStatements scope (fieldStatements locals position field) =
          .error .missing
    | some (value, rest) =>
        ∃ after,
          runStatements scope (fieldStatements locals position field) =
              .ok after ∧
            Holds locals (done ++ [field]) (values ++ [value]) none rest
              after := by
  have member : field ∈ done ++ field :: todo := by simp
  have line :=
    readLine_bind (distinct.isField field member) distinct.isReader holds.reader
      chosen
  rw [fieldStatements, chosen]
  dsimp only
  rw [runStatements_cons, line]
  cases Encoding.read? field.type bytes with
  | none => rfl
  | some result =>
      obtain ⟨value, rest⟩ := result
      have noFlags :
          (scope.bind locals.reader (.reader rest)).ShowsFlags locals.flags
            none := trivial
      refine ⟨_, rfl,
        holds.bind_field distinct (Scope.bind_self ..) noFlags ?_ value⟩
      intro name notReader _
      exact Scope.bind_of_ne notReader ..

theorem Holds.run_openByte
    (distinct : Distinct locals (done ++ field :: todo))
    (holds : Holds locals done values opened bytes scope) :
    match openByte? bytes with
    | none =>
        runStatements scope
            [.openFlags locals.flags locals.reader,
              .takeFlag field.name.snake locals.flags 0] =
          .error .missing
    | some (flag, byte, rest) =>
        ∃ after,
          runStatements scope
              [.openFlags locals.flags locals.reader,
                .takeFlag field.name.snake locals.flags 0] =
              .ok after ∧
            Holds locals (done ++ [field]) (values ++ [.bit flag]) (some byte)
              rest after := by
  have member : field ∈ done ++ field :: todo := by simp
  have opening :=
    readLine_openFlags distinct.isReader distinct.isFlags holds.reader
  rw [runStatements_cons, opening]
  cases bytes with
  | nil => rfl
  | cons byte rest =>
      have taking :=
        readLine_takeFlag (distinct.isField field member) distinct.isFlags
          (Scope.bind_self (scope.bind locals.reader (.reader rest)) locals.flags
            (.flags (Bits.unpack byte)))
          (show 0 < 8 by decide)
      have shown :
          ((scope.bind locals.reader (.reader rest)).bind locals.flags
              (.flags (Bits.unpack byte))).ShowsFlags locals.flags
            (some ⟨byte, 1⟩) :=
        ⟨Scope.bind_self .., by decide, by decide⟩
      refine ⟨_, ?_, holds.bind_field distinct ?_ shown ?_
        (.bit (byte.toNat.testBit 0))⟩
      · change runStatements _ [_] = _
        rw [runStatements_cons, taking]
        rfl
      · rw [Scope.bind_of_ne distinct.apart]
        exact Scope.bind_self ..
      · intro name notReader notFlags
        rw [Scope.bind_of_ne notFlags, Scope.bind_of_ne notReader]

theorem Holds.run_flag
    (distinct : Distinct locals (done ++ field :: todo))
    (holds : Holds locals done values opened bytes scope)
    (flag : ReadHelper.ofType? field.type = none) :
    match takeFlag? opened bytes with
    | none =>
        runStatements scope
            (fieldStatements locals (Codec.position opened) field) =
          .error .missing
    | some (set, byte, rest) =>
        ∃ after,
          runStatements scope
              (fieldStatements locals (Codec.position opened) field) =
              .ok after ∧
            Holds locals (done ++ [field]) (values ++ [.bit set]) (some byte)
              rest after := by
  have member : field ∈ done ++ field :: todo := by simp
  rw [fieldStatements, flag]
  dsimp only
  match opened with
  | none => exact holds.run_openByte distinct
  | some ⟨byte, next⟩ =>
      obtain ⟨held, positive, atMost⟩ := holds.flags
      by_cases inside : next < 8
      · have here : next % 8 = next := Nat.mod_eq_of_lt inside
        have taking :=
          readLine_takeFlag (distinct.isField field member) distinct.isFlags
            held inside
        rw [Codec.position, here, if_neg (by omega), takeFlag?, if_pos inside]
        have shown : scope.ShowsFlags locals.flags (some ⟨byte, next + 1⟩) :=
          ⟨held, Nat.succ_pos next, inside⟩
        refine ⟨_, ?_, holds.bind_field distinct holds.reader shown
          (fun _ _ _ => rfl) (.bit (byte.toNat.testBit next))⟩
        rw [runStatements_cons, taking]
        rfl
      · -- All flags of the open byte are taken: the next one opens another.
        have full : next % 8 = 0 := by omega
        rw [Codec.position, full, if_pos rfl, takeFlag?, if_neg inside]
        exact holds.run_openByte distinct

theorem Holds.run_field
    (distinct : Distinct locals (done ++ field :: todo))
    (holds : Holds locals done values opened bytes scope) :
    match readField? field.type opened bytes with
    | none =>
        runStatements scope
            (fieldStatements locals (Codec.position opened) field) =
          .error .missing
    | some (value, next, rest) =>
        ∃ after,
          runStatements scope
              (fieldStatements locals (Codec.position opened) field) =
              .ok after ∧
            Holds locals (done ++ [field]) (values ++ [value]) next rest
              after := by
  rw [readField?]
  cases chosen : ReadHelper.ofType? field.type with
  | some helper =>
      have plain := isFlag_eq_false_of_ofType? chosen
      have ran := holds.run_plain distinct chosen (Codec.position opened)
      rw [if_neg (by simp [plain])]
      cases read : Encoding.read? field.type bytes with
      | none => simpa [read] using ran
      | some result => simpa [read] using ran
  | none =>
      have bit : field.type.isFlag = true := by
        rw [eq_bit_of_ofType? chosen]
        rfl
      have ran := holds.run_flag distinct chosen
      rw [if_pos bit]
      cases took : takeFlag? opened bytes with
      | none => simpa [took] using ran
      | some result => simpa [took] using ran

/-- The statements of the fields that are left read them as the codec in one
pass does. -/
theorem Holds.run_fields {todo : List Field} :
    ∀ {done : List Field} {values : List Value} {opened : Option OpenByte}
      {bytes : List UInt8} {scope : Scope},
      Distinct locals (done ++ todo) →
      Holds locals done values opened bytes scope →
      match readFields todo opened bytes with
      | .error _ =>
          runStatements scope
              (statementsFrom locals (Codec.position opened) todo) =
            .error .missing
      | .ok (others, rest) =>
          ∃ after next,
            runStatements scope
                (statementsFrom locals (Codec.position opened) todo) =
                .ok after ∧
              Holds locals (done ++ todo) (values ++ others) next rest
                after := by
  induction todo with
  | nil =>
      intro done values opened bytes scope _ holds
      refine ⟨scope, opened, rfl, ?_⟩
      rwa [List.append_nil, List.append_nil]
  | cons field todo inductionHypothesis =>
      intro done values opened bytes scope distinct holds
      have ran := holds.run_field distinct
      rw [readFields, statementsFrom, runStatements_append]
      cases readHead : readField? field.type opened bytes with
      | none =>
          simp only [readHead] at ran
          rw [ran]
          rfl
      | some result =>
          obtain ⟨value, next, rest⟩ := result
          simp only [readHead] at ran
          obtain ⟨after, ran, holdsNext⟩ := ran
          -- The statements count the flags by the types of the fields, the codec
          -- by the open byte: `moved` says that they stay in step.
          obtain ⟨_, shows⟩ := holds.flags.shows
          obtain ⟨_, _, moved⟩ := shows_of_readField? shows readHead
          have later := inductionHypothesis (by simpa using distinct) holdsNext
          rw [ran, ← moved]
          dsimp only [Except.bind]
          cases readTail : readFields todo next rest with
          | error fault =>
              simpa [readTail, Except.map] using later
          | ok result =>
              simpa [readTail, Except.map] using later

theorem Holds.collect_eq
    {fields : List Field}
    (holds : Holds locals fields values opened bytes scope)
    (typed : values.map Value.type = fields.map Field.type) :
    collect fields scope = .ok values := by
  have types :
      List.Forall₂ (· = ·) (fields.map Field.type) (values.map Value.type) := by
    rw [List.forall₂_eq_eq_eq]
    exact typed.symm
  rw [List.forall₂_map_left_iff, List.forall₂_map_right_iff] at types
  refine mapM_eq_ok_iff.mpr (List.forall₂_iff_zip.mpr ⟨holds.filled, ?_⟩)
  intro field value pair
  have type : field.type = value.type := (List.forall₂_iff_zip.mp types).2 pair
  rw [holds.bound field value pair, Option.bind_some, type,
    Datum.toValue?_ofValue]

/-- The lines of the reading routine read what the codec reads. -/
theorem runReading_statements
    {fields : List Field} (distinct : Distinct locals fields)
    (payload : List UInt8) :
    runReading ((statementsFrom locals 0 fields).map ReadStatement.text)
        locals.reader fields payload =
      match readFields fields none payload with
      | .error _ => .error .missing
      | .ok (values, _) => .ok values := by
  have start :
      Holds locals [] [] none payload
        (Scope.bind (fun _ => none) locals.reader (.reader payload)) :=
    ⟨Scope.bind_self .., trivial, rfl, by simp⟩
  have ran := Holds.run_fields distinct start
  rw [runReading]
  change (runStatements _ _).bind _ = _
  cases read : readFields fields none payload with
  | error fault =>
      simp only [read] at ran
      exact congrArg (fun outcome => Except.bind outcome (collect fields)) ran
  | ok result =>
      obtain ⟨values, rest⟩ := result
      simp only [read] at ran
      obtain ⟨after, next, ran, holds⟩ := ran
      have collected := holds.collect_eq (types_of_readFields read)
      exact (congrArg (fun outcome => Except.bind outcome (collect fields)) ran).trans
        collected

end MethodCodec.Source
