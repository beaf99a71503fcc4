import Mathlib
import MethodCodec.Proofs.Call
import MethodCodec.Proofs.Statement
import MethodCodec.Source.ClassModule

/-!
# Imports follow use

A class module imports the byte helpers if some line of its routines calls one,
and the table type with its two functions if some line calls one of these.  What
to import is chosen by the types of the arguments, what is used is looked up in
the text of the lines; both come down to the statements that the fields give.
-/

namespace MethodCodec.Source

/-! ## The statements of the fields -/

section

variable {fields : List Field} {field : Field}

/-- Every reading statement is that of a field. -/
theorem exists_field_of_mem_statementsFrom
    {statement : ReadStatement} {locals : ReadLocals} {position : Nat}
    (member : statement ∈ statementsFrom locals position fields) :
    ∃ field ∈ fields, ∃ place,
      statement ∈ fieldStatements locals place field := by
  induction fields generalizing position with
  | nil => cases member
  | cons field fields inductionHypothesis =>
      rw [statementsFrom, List.mem_append] at member
      rcases member with here | later
      · exact ⟨field, List.mem_cons_self, position, here⟩
      · obtain ⟨other, otherMember, found⟩ := inductionHypothesis later
        exact ⟨other, List.mem_cons_of_mem field otherMember, found⟩

theorem bind_mem_statementsFrom
    (member : field ∈ fields) {helper : ReadHelper}
    (chosen : ReadHelper.ofType? field.type = some helper)
    (locals : ReadLocals) (position : Nat) :
    .bind field.name.snake helper locals.reader ∈
      statementsFrom locals position fields := by
  induction fields generalizing position with
  | nil => cases member
  | cons first fields inductionHypothesis =>
      rw [statementsFrom, List.mem_append]
      rcases List.mem_cons.mp member with rfl | later
      · left
        rw [fieldStatements, chosen]
        exact List.mem_singleton_self _
      · exact .inr (inductionHypothesis later _)

/-- Where a flag is read, the byte of its run has been opened. -/
theorem openFlags_mem_statementsFrom
    (member : field ∈ fields) (bit : field.type = .bit)
    (locals : ReadLocals) :
    .openFlags locals.flags locals.reader ∈ statementsFrom locals 0 fields := by
  induction fields with
  | nil => cases member
  | cons first fields inductionHypothesis =>
      rw [statementsFrom, List.mem_append, fieldStatements]
      -- The first flag opens the byte: in front of it the position stays zero.
      cases chosen : ReadHelper.ofType? first.type with
      | none => exact .inl List.mem_cons_self
      | some helper =>
          have plain := isFlag_eq_false_of_ofType? chosen
          have later : field ∈ fields := by
            refine (List.mem_cons.mp member).resolve_left ?_
            rintro rfl
            rw [bit] at plain
            cases plain
          right
          rw [Layout.positionAfter, plain]
          exact inductionHypothesis later

theorem mem_closeNames_iff
    {statement : WriteStatement} {names : List String}
    {rest : List WriteStatement} :
    statement ∈ closeNames names rest ↔
      (names ≠ [] ∧ statement = .flags names) ∨ statement ∈ rest := by
  rw [closeNames]
  split_ifs with empty
  · simp [empty]
  · simp [empty]

/-- Where a writing statement comes from: from a field, or from flags, each of
the run that was open or of a field. -/
inductive ComesFrom (names : List String) (fields : List Field) :
    WriteStatement → Prop
  | field {field : Field} {statement : WriteStatement} (member : field ∈ fields)
      (chosen :
        WriteStatement.ofType? field.name.snake field.type = some statement) :
      ComesFrom names fields statement
  | flags {run : List String} (nonempty : run ≠ [])
      (named :
        ∀ name ∈ run, name ∈ names ∨
          ∃ field ∈ fields, field.type = .bit ∧ name = field.name.snake) :
      ComesFrom names fields (.flags run)

theorem ComesFrom.cons
    {statement : WriteStatement} {names before : List String}
    (split :
      ∀ name ∈ names, name ∈ before ∨
        field.type = .bit ∧ name = field.name.snake)
    (later : ComesFrom names fields statement) :
    ComesFrom before (field :: fields) statement := by
  cases later with
  | field member chosen =>
      exact .field (List.mem_cons_of_mem field member) chosen
  | flags nonempty named =>
      refine .flags nonempty fun name inside => ?_
      rcases named name inside with waiting | ⟨other, member, bit, same⟩
      · rcases split name waiting with first | ⟨bit, same⟩
        · exact .inl first
        · exact .inr ⟨field, List.mem_cons_self, bit, same⟩
      · exact .inr ⟨other, List.mem_cons_of_mem field member, bit, same⟩

theorem comesFrom_of_mem_closeNames
    {statement : WriteStatement} {names : List String}
    {rest : List WriteStatement}
    (member : statement ∈ closeNames names rest)
    (others : statement ∈ rest → ComesFrom names fields statement) :
    ComesFrom names fields statement := by
  rcases mem_closeNames_iff.mp member with ⟨nonempty, rfl⟩ | later
  · exact .flags nonempty fun name inside => .inl inside
  · exact others later

theorem comesFrom_of_mem_writeStatementsFrom
    {statement : WriteStatement} {names : List String}
    (member : statement ∈ writeStatementsFrom names fields) :
    ComesFrom names fields statement := by
  induction fields generalizing names with
  | nil => exact comesFrom_of_mem_closeNames member (fun none => by cases none)
  | cons field fields inductionHypothesis =>
      rw [writeStatementsFrom] at member
      cases chosen : WriteStatement.ofType? field.name.snake field.type with
      | none =>
          rw [chosen] at member
          have kind := isFlag_eq_isNone field.name.snake field.type
          rw [chosen] at kind
          have bit := Encoding.eq_bit_of_isFlag kind
          refine (inductionHypothesis member).cons fun name inside => ?_
          rw [List.mem_append, List.mem_singleton] at inside
          exact inside.imp_right fun same => ⟨bit, same⟩
      | some here =>
          simp only [chosen] at member
          refine comesFrom_of_mem_closeNames member fun member => ?_
          rcases List.mem_cons.mp member with rfl | later
          · exact .field List.mem_cons_self chosen
          · exact (inductionHypothesis later).cons (by simp)

theorem mem_writeStatementsFrom
    (member : field ∈ fields) {statement : WriteStatement}
    (chosen :
      WriteStatement.ofType? field.name.snake field.type = some statement)
    (names : List String) :
    statement ∈ writeStatementsFrom names fields := by
  induction fields generalizing names with
  | nil => cases member
  | cons first fields inductionHypothesis =>
      rw [writeStatementsFrom]
      rcases List.mem_cons.mp member with rfl | later
      · simp only [chosen]
        exact mem_closeNames_iff.mpr (.inr List.mem_cons_self)
      · cases WriteStatement.ofType? first.name.snake first.type with
        | none => exact inductionHypothesis later _
        | some here =>
            refine mem_closeNames_iff.mpr (.inr ?_)
            exact List.mem_cons_of_mem here (inductionHypothesis later [])

end

/-! ## What the lines of a method call -/

theorem ofType?_eq_table_iff {kind : WireType} :
    ReadHelper.ofType? kind = some .table ↔ kind = .table := by
  cases kind <;> decide

section

variable {fields : List Field}
  (identifiers : ∀ field ∈ fields, isIdentifierText field.name.snake = true)

include identifiers in
theorem isIdentifierText_of_mem_statementsFrom
    {statement : ReadStatement}
    (member :
      statement ∈ statementsFrom (ReadLocals.ofFields fields) 0 fields) :
    ∀ name ∈ statement.names, isIdentifierText name = true := by
  obtain ⟨field, fieldMember, place, found⟩ :=
    exists_field_of_mem_statementsFrom member
  have isField := identifiers field fieldMember
  have isReader := isIdentifierText_of_isIdentifier (isIdentifier_reader fields)
  have isFlags := isIdentifierText_of_isIdentifier (isIdentifier_flags fields)
  rw [fieldStatements] at found
  split at found
  · obtain rfl := List.mem_singleton.mp found
    simp [ReadStatement.names, isField, isReader]
  · split_ifs at found
    · rcases List.mem_pair.mp found with rfl | rfl
      · simp [ReadStatement.names, isFlags, isReader]
      · simp [ReadStatement.names, isField, isFlags]
    · obtain rfl := List.mem_singleton.mp found
      simp [ReadStatement.names, isField, isFlags]

include identifiers in
theorem isIdentifierText_of_mem_writeStatementsFrom
    {statement : WriteStatement}
    (member : statement ∈ writeStatementsFrom [] fields) :
    ∀ name ∈ statement.names, isIdentifierText name = true := by
  intro name inside
  cases comesFrom_of_mem_writeStatementsFrom member with
  | @field field _ fieldMember chosen =>
      have same : name = field.name.snake := by
        cases kind : field.type <;> rw [kind] at chosen <;> cases chosen <;>
          exact List.mem_singleton.mp inside
      rw [same]
      exact identifiers field fieldMember
  | flags _ named =>
      rcases named name inside with none | ⟨field, fieldMember, _, same⟩
      · cases none
      · rw [same]
        exact identifiers field fieldMember

include identifiers in
/-- Some line that reads calls the function for tables where some field is a
table. -/
theorem exists_decodeTable_iff :
    (∃ statement ∈ statementsFrom (ReadLocals.ofFields fields) 0 fields,
        Occurs "decode_table(" statement.text) ↔
      ∃ field ∈ fields, field.type = .table := by
  have called {statement : ReadStatement}
      (member :
        statement ∈ statementsFrom (ReadLocals.ofFields fields) 0 fields) :=
    occurs_decodeTable_iff
      (isIdentifierText_of_mem_statementsFrom identifiers member)
  constructor
  · rintro ⟨statement, member, occurs⟩
    obtain ⟨name, reader, rfl⟩ := (called member).mp occurs
    obtain ⟨field, fieldMember, place, found⟩ :=
      exists_field_of_mem_statementsFrom member
    refine ⟨field, fieldMember, ofType?_eq_table_iff.mp ?_⟩
    rw [fieldStatements] at found
    split at found
    next helper chosen =>
      cases List.mem_singleton.mp found
      exact chosen
    next none =>
      split_ifs at found <;> simp at found
  · rintro ⟨field, fieldMember, table⟩
    have member :=
      bind_mem_statementsFrom fieldMember (ofType?_eq_table_iff.mpr table)
        (ReadLocals.ofFields fields) 0
    exact ⟨_, member, (called member).mpr ⟨_, _, rfl⟩⟩

include identifiers in
/-- Some line that reads calls a byte helper where some field is no table. -/
theorem exists_wire_iff :
    (∃ statement ∈ statementsFrom (ReadLocals.ofFields fields) 0 fields,
        Occurs "wire::" statement.text) ↔
      ∃ field ∈ fields, field.type ≠ .table := by
  have isReader := isIdentifierText_of_isIdentifier (isIdentifier_reader fields)
  constructor
  · rintro ⟨statement, member, occurs⟩
    obtain ⟨field, fieldMember, place, found⟩ :=
      exists_field_of_mem_statementsFrom member
    refine ⟨field, fieldMember, fun table => ?_⟩
    rw [fieldStatements, ofType?_eq_table_iff.mpr table] at found
    obtain rfl := List.mem_singleton.mp found
    exact (occurs_wire_bind_iff (identifiers field fieldMember) isReader _).mp
      occurs rfl
  · rintro ⟨field, fieldMember, other⟩
    cases chosen : ReadHelper.ofType? field.type with
    | none =>
        have member :=
          openFlags_mem_statementsFrom fieldMember (eq_bit_of_ofType? chosen)
            (ReadLocals.ofFields fields)
        exact ⟨_, member, occurs_wire_openFlags _ _⟩
    | some helper =>
        have member :=
          bind_mem_statementsFrom fieldMember chosen
            (ReadLocals.ofFields fields) 0
        refine ⟨_, member, ?_⟩
        rw [occurs_wire_bind_iff (identifiers field fieldMember) isReader]
        rintro rfl
        exact other (ofType?_eq_table_iff.mp chosen)

include identifiers in
/-- Some line that writes calls the function for tables where some field is a
table. -/
theorem exists_encodeTable_iff :
    (∃ statement ∈ writeStatementsFrom [] fields,
        Occurs "encode_table(" statement.text) ↔
      ∃ field ∈ fields, field.type = .table := by
  have called {statement : WriteStatement}
      (member : statement ∈ writeStatementsFrom [] fields) :=
    occurs_encodeTable_iff
      (isIdentifierText_of_mem_writeStatementsFrom identifiers member)
  constructor
  · rintro ⟨statement, member, occurs⟩
    obtain ⟨name, rfl⟩ := (called member).mp occurs
    cases comesFrom_of_mem_writeStatementsFrom member with
    | @field field _ fieldMember chosen =>
        refine ⟨field, fieldMember, ?_⟩
        cases kind : field.type <;> rw [kind] at chosen <;> cases chosen
  · rintro ⟨field, fieldMember, table⟩
    have chosen :
        WriteStatement.ofType? field.name.snake field.type =
          some (.table field.name.snake) := by
      rw [table]
      rfl
    have member := mem_writeStatementsFrom fieldMember chosen []
    exact ⟨_, member, (called member).mpr ⟨_, rfl⟩⟩

include identifiers in
/-- A line that writes calls a byte helper only where some field is no table. -/
theorem exists_field_of_occurs_wire
    {statement : WriteStatement}
    (member : statement ∈ writeStatementsFrom [] fields)
    (occurs : Occurs "wire::" statement.text) :
    ∃ field ∈ fields, field.type ≠ .table := by
  cases comesFrom_of_mem_writeStatementsFrom member with
  | @field field _ fieldMember chosen =>
      refine ⟨field, fieldMember, fun table => ?_⟩
      rw [table] at chosen
      cases chosen
      exact not_occurs_wire_table (identifiers field fieldMember) occurs
  | flags nonempty named =>
      obtain ⟨name, inside⟩ := List.exists_mem_of_ne_nil _ nonempty
      rcases named name inside with none | ⟨field, fieldMember, bit, _⟩
      · cases none
      · refine ⟨field, fieldMember, ?_⟩
        rw [bit]
        decide

end

/-! ## Imports of a class -/

/-- The lines that read the arguments of the methods of a class. -/
def readingLines (cls : ProtocolClass) : Except PlanFault (List String) :=
  (cls.methods.mapM fun method =>
    readLines method (ReadLocals.ofFields method.fields)).map List.flatten

/-- The lines that write the arguments of the methods of a class. -/
def writingLines (cls : ProtocolClass) : Except PlanFault (List String) :=
  (cls.methods.mapM writeLines).map List.flatten

theorem readingLines_eq (cls : ProtocolClass) :
    readingLines cls =
      .ok (cls.methods.flatMap fun method =>
        (statementsFrom (ReadLocals.ofFields method.fields) 0 method.fields).map
          ReadStatement.text) := by
  have lines (method : Method) :
      readLines method (ReadLocals.ofFields method.fields) =
        pure ((statementsFrom (ReadLocals.ofFields method.fields) 0
          method.fields).map ReadStatement.text) := by
    rw [readLines, readStatements_eq]
    rfl
  rw [readingLines, funext lines, List.mapM_pure, List.flatMap_def]
  rfl

theorem writingLines_eq (cls : ProtocolClass) :
    writingLines cls =
      .ok (cls.methods.flatMap fun method =>
        (writeStatementsFrom [] method.fields).map WriteStatement.text) := by
  have lines (method : Method) :
      writeLines method =
        pure ((writeStatementsFrom [] method.fields).map WriteStatement.text) := by
    rw [writeLines, writeStatements_eq]
    rfl
  rw [writingLines, funext lines, List.mapM_pure, List.flatMap_def]
  rfl

/-- The import of the table type is told from the others by its end, whatever
the module and the type are called. -/
theorem ne_tableImport
    {line : String}
    (differs : ¬ ", decode_table, encode_table\x7d;".toList <:+ line.toList)
    (settings : SourceSettings) :
    line ≠ tableImport settings := by
  rintro rfl
  rw [tableImport, String.toList_append] at differs
  exact differs (List.suffix_append _ _)

theorem wireImport_ne_tableImport (settings : SourceSettings) :
    wireImport ≠ tableImport settings :=
  ne_tableImport (by decide) settings

theorem sharedImport_ne_tableImport (settings : SourceSettings) :
    sharedImport ≠ tableImport settings :=
  ne_tableImport (by decide) settings

theorem wireImport_ne_sharedImport : wireImport ≠ sharedImport := by
  decide

theorem wireImport_mem_iff (cls : ProtocolClass) (settings : SourceSettings) :
    wireImport ∈ importLines cls settings ↔
      ∃ method ∈ cls.methods, ∃ field ∈ method.fields, field.type ≠ .table := by
  simp [importLines, wireImport_ne_tableImport, wireImport_ne_sharedImport]

theorem tableImport_mem_iff (cls : ProtocolClass) (settings : SourceSettings) :
    tableImport settings ∈ importLines cls settings ↔
      ∃ method ∈ cls.methods, ∃ field ∈ method.fields, field.type = .table := by
  simp [importLines, (wireImport_ne_tableImport settings).symm,
    (sharedImport_ne_tableImport settings).symm, ProtocolClass.uses, Method.uses]

theorem count_sharedImport (cls : ProtocolClass) (settings : SourceSettings) :
    (importLines cls settings).count sharedImport = 1 := by
  have wire (needed : Bool) :
      (if needed then [wireImport] else []).count sharedImport = 0 := by
    cases needed <;> decide
  have table (needed : Bool) :
      (if needed then [tableImport settings] else []).count sharedImport = 0 := by
    cases needed
    · rfl
    · exact List.count_eq_zero.mpr
        (by simpa using sharedImport_ne_tableImport settings)
  rw [importLines, List.count_append, List.count_append, wire, table,
    List.count_singleton_self]

/-- The lines of a class are those of the statements of its methods. -/
theorem exists_line_iff
    {α : Type} {methods : List Method} {statements : Method → List α}
    {text : α → String} {property : String → Prop} :
    (∃ line ∈ methods.flatMap fun method => (statements method).map text,
        property line) ↔
      ∃ method ∈ methods, ∃ statement ∈ statements method,
        property (text statement) := by
  simp only [List.mem_flatMap, List.mem_map]
  constructor
  · rintro ⟨_, ⟨method, member, statement, found, rfl⟩, holds⟩
    exact ⟨method, member, statement, found, holds⟩
  · rintro ⟨method, member, statement, found, holds⟩
    exact ⟨_, ⟨method, member, statement, found, rfl⟩, holds⟩

/-- In a class whose argument names are plain, the byte helpers are imported if
some line calls one, the table type and its functions if some line that reads
calls the one, as well as if some line that writes calls the other, as well as if
some argument is a table, and what all methods share is imported once. -/
theorem importLines_follow_use
    {spec : Spec} {protocol : Protocol}
    (accepted : spec.resolve.outcome = .ok protocol)
    {cls : ProtocolClass} (member : cls ∈ protocol.classes)
    (plain :
      ∀ method ∈ cls.methods, ∀ field ∈ method.fields,
        isPlainText field.name.written = true)
    (settings : SourceSettings) :
    ∃ reading writing,
      readingLines cls = .ok reading ∧ writingLines cls = .ok writing ∧
        (wireImport ∈ importLines cls settings ↔
          ∃ line ∈ reading ++ writing, Occurs "wire::" line) ∧
        (tableImport settings ∈ importLines cls settings ↔
          ∃ line ∈ reading, Occurs "decode_table(" line) ∧
        (tableImport settings ∈ importLines cls settings ↔
          ∃ line ∈ writing, Occurs "encode_table(" line) ∧
        (tableImport settings ∈ importLines cls settings ↔
          ∃ method ∈ cls.methods, ∃ field ∈ method.fields,
            field.type = .table) ∧
        (importLines cls settings).count sharedImport = 1 := by
  have identifiers :
      ∀ method ∈ cls.methods, ∀ field ∈ method.fields,
        isIdentifierText field.name.snake = true := by
    intro method methodMember field fieldMember
    have inside : method ∈ protocol.methods :=
      List.mem_flatMap.mpr ⟨cls, member, methodMember⟩
    rw [snake_of_resolve accepted inside fieldMember]
    exact isIdentifierText_snakeCase (plain method methodMember field fieldMember)
  refine ⟨_, _, readingLines_eq cls, writingLines_eq cls, ?_, ?_, ?_,
    tableImport_mem_iff cls settings, count_sharedImport cls settings⟩
  · simp only [wireImport_mem_iff, List.mem_append, or_and_right, exists_or]
    rw [exists_line_iff, exists_line_iff]
    constructor
    · rintro ⟨method, methodMember, other⟩
      exact .inl ⟨method, methodMember,
        (exists_wire_iff (identifiers method methodMember)).mpr other⟩
    · rintro (⟨method, methodMember, read⟩ | ⟨method, methodMember, written⟩)
      · exact ⟨method, methodMember,
          (exists_wire_iff (identifiers method methodMember)).mp read⟩
      · obtain ⟨statement, found, occurs⟩ := written
        exact ⟨method, methodMember,
          exists_field_of_occurs_wire (identifiers method methodMember) found
            occurs⟩
  · rw [tableImport_mem_iff, exists_line_iff]
    refine exists_congr fun method => and_congr_right fun methodMember => ?_
    exact (exists_decodeTable_iff (identifiers method methodMember)).symm
  · rw [tableImport_mem_iff, exists_line_iff]
    refine exists_congr fun method => and_congr_right fun methodMember => ?_
    exact (exists_encodeTable_iff (identifiers method methodMember)).symm

/-- A class with no arguments but tables, one of them through a domain and
without a letter in its name. -/
def tablesOnlyClass : ProtocolClass where
  id := 95
  name := Name.ofText "props"
  methods :=
    [⟨10, 95, Name.ofText "set", "props.set", true,
        [⟨Name.ofText "1-2", .table, some "properties"⟩,
          ⟨Name.ofText "decode_table", .table, none⟩]⟩,
      ⟨11, 95, Name.ofText "set-ok", "props.set-ok", false, []⟩]

/-- The document that declares it. -/
def tablesOnly : Spec where
  name := none
  majorVersion := none
  minorVersion := none
  revision := none
  tcpPort := none
  domains := [("properties", "table")]
  classes :=
    [⟨95, "props",
      [⟨10, "set", some true,
          [⟨"1-2", none, some "properties"⟩,
            ⟨"decode_table", some "table", none⟩]⟩,
        ⟨11, "set-ok", none, []⟩]⟩]

def tablesOnlyProtocol : Protocol where
  info := ⟨none, none, none⟩
  domains := [("properties", .table)]
  classes := [tablesOnlyClass]

theorem importLines_follow_use_tablesOnly :
    tablesOnly.resolve.outcome = .ok tablesOnlyProtocol ∧
      tablesOnlyClass ∈ tablesOnlyProtocol.classes ∧
      (∀ method ∈ tablesOnlyClass.methods, ∀ field ∈ method.fields,
        isPlainText field.name.written = true) ∧
      ∃ reading writing,
        readingLines tablesOnlyClass = .ok reading ∧
          writingLines tablesOnlyClass = .ok writing ∧
          (¬ ∃ line ∈ reading ++ writing, Occurs "wire::" line) ∧
          (∃ line ∈ reading, Occurs "decode_table(" line) ∧
          (∃ line ∈ writing, Occurs "encode_table(" line) ∧
          (importLines tablesOnlyClass {}).count sharedImport = 1 := by
  have accepted : tablesOnly.resolve.outcome = .ok tablesOnlyProtocol := by
    decide
  have member : tablesOnlyClass ∈ tablesOnlyProtocol.classes :=
    List.mem_singleton_self tablesOnlyClass
  have plain :
      ∀ method ∈ tablesOnlyClass.methods, ∀ field ∈ method.fields,
        isPlainText field.name.written = true := by
    decide
  have imports :
      importLines tablesOnlyClass {} = [sharedImport, tableImport {}] := by
    decide
  have noWire : wireImport ∉ importLines tablesOnlyClass {} := by
    rw [imports]
    decide
  have hasTable : tableImport {} ∈ importLines tablesOnlyClass {} := by
    simp [imports]
  obtain ⟨reading, writing, read, written, wire, decodes, encodes, _, once⟩ :=
    importLines_follow_use accepted member plain {}
  exact ⟨accepted, member, plain, reading, writing, read, written,
    mt wire.mpr noWire, decodes.mp hasTable, encodes.mp hasTable, once⟩

end MethodCodec.Source
