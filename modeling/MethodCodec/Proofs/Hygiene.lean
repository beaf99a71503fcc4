import Mathlib
import MethodCodec.Proofs.FileScope
import MethodCodec.Proofs.Statement

/-!
# Names in a reading routine

A reading routine binds a variable for every argument, and binds it under the
argument's own name.  The variables for the bytes and for the flags give way to
these names; the function that reads tables and the constants of the class
module do not.  The statements are gone through along the fields; what carries
the run is what every name means behind those passed.
-/

namespace MethodCodec.Source

/-! ## What names mean -/

/-- What a name of a value means inside a reading routine. -/
inductive Meaning
  /-- What it means outside of the routine. -/
  | outer
  /-- The bytes not yet read. -/
  | reader
  /-- The flags of the byte opened last. -/
  | flags
  /-- The argument of that name. -/
  | argument
  deriving DecidableEq

/-- What the names in sight mean. -/
abbrev Meanings := String → Meaning

namespace ReadStatement

/-- The name that a statement binds, with its meaning from there on. -/
def bound : ReadStatement → String × Meaning
  | bind name _ _ => (name, .argument)
  | openFlags flags _ => (flags, .flags)
  | takeFlag name _ _ => (name, .argument)

/-- The names that a statement uses, each with the meaning it has to have.
Paths into the module of byte helpers name no variable; the function that reads
tables is called by its bare name. -/
def used : ReadStatement → List (String × Meaning)
  | bind _ helper reader =>
      (reader, .reader) :: if helper = .table then [(helper.path, .outer)] else []
  | openFlags _ reader => [(reader, .reader)]
  | takeFlag _ flags _ => [(flags, .flags)]

end ReadStatement

/-- No name that is used has lost its meaning, no binding is by a name of
`patterns`, and in the end every field is the argument of its name.  A name of
`patterns` stands for a value where a variable is to be bound, so it is compared
with and binds nothing. -/
def Hygienic (patterns fields : List String) :
    Meanings → List ReadStatement → Prop
  | meanings, [] => ∀ name ∈ fields, meanings name = .argument
  | meanings, statement :: rest =>
      (∀ use ∈ statement.used, meanings use.1 = use.2) ∧
        statement.bound.1 ∉ patterns ∧
        Hygienic patterns fields
          (Function.update meanings statement.bound.1 statement.bound.2) rest

/-- What names mean once the bytes of the frame are bound to the reader. -/
def openingMeanings (reader : String) : Meanings :=
  Function.update (fun _ => .outer) reader .reader

/-- The statements of a method behind the binding of its reader, in a module
where the names of `patterns` stand for constants. -/
def HygienicRoutine (patterns : List String) (method : Method)
    (statements : List ReadStatement) : Prop :=
  (ReadLocals.ofFields method.fields).reader ∉ patterns ∧
    Hygienic patterns method.fieldIdentifiers
      (openingMeanings (ReadLocals.ofFields method.fields).reader) statements

/-! ## Names that cannot be bound -/

/-- The names by which an item is a constant where a variable is to be bound. -/
def Item.patternNames : Item → List String
  | constant name | unitStruct name => [name]
  | trait _ | function _ | struct _ | submodule _ | imports _ => []

/-- Such names among the items of a module. -/
def patternNames (items : List Item) : List String :=
  items.flatMap Item.patternNames

/-- The constants of a class module and its structures without fields. -/
theorem patternNames_inside_moduleLines (cls : ProtocolClass) :
    patternNames (items (inside (moduleLines {} cls))) =
      Protocol.classConstants cls ++ unitNames cls := by
  have imported : patternNames (importItems cls {}) = [] :=
    List.sublist_nil.mp ((importItems_sublist cls).flatMap Item.patternNames)
  have constants (names : List String) :
      patternNames (names.map Item.constant) = names := by
    rw [patternNames, List.flatMap_map]
    exact List.flatMap_singleton' names
  have structs :
      patternNames (cls.methods.map structItem) = unitNames cls := by
    rw [unitNames, ← valueNames_structItems, patternNames, valueNames,
      List.flatMap_map, List.flatMap_map]
    refine List.flatMap_congr fun method _ => ?_
    rw [structItem]
    split_ifs <;> rfl
  rw [items_inside_moduleLines, patternNames, List.flatMap_append,
    List.flatMap_append]
  change patternNames _ ++ patternNames _ ++ patternNames _ = _
  rw [imported, constants, structs, List.nil_append]

/-- No constant and no structure begins with a small letter. -/
theorem not_mem_patterns_of_isLower
    {cls : ProtocolClass}
    (derived : ∀ method ∈ cls.methods, ∃ written,
      method.name = Name.ofText written)
    {name : String} {c : Char} {rest : List Char}
    (letters : name.toList = c :: rest) (lower : c.isLower = true) :
    name ∉ Protocol.classConstants cls ++ unitNames cls := by
  have small : c ∈ name.toList := by simp [letters]
  intro member
  rcases List.mem_append.mp member with constant | unit
  · rcases List.mem_cons.mp constant with rfl | ofMethod
    · have capitals : classIdConstant.toList.all fun c => !c.isLower := by decide
      have capital := List.all_eq_true.mp capitals c small
      rw [lower] at capital
      cases capital
    · obtain ⟨method, methodMember, rfl⟩ := List.mem_map.mp ofMethod
      obtain ⟨written, spelled⟩ := derived method methodMember
      exact Name.screamingCase_ne_of_isLower small lower written
        (congrArg Name.screaming spelled).symm
  · obtain ⟨method, methodMember, _, rfl⟩ := mem_unitNames.mp unit
    obtain ⟨written, spelled⟩ := derived method methodMember
    exact Name.pascalCase_ne_of_isLower letters lower written
      (congrArg Name.pascal spelled).symm

/-! ## Meanings along the fields -/

/-- What names mean behind the fields `done`: the reader and the fields
themselves, and all else but the flags what it means outside. -/
structure Meant (locals : ReadLocals) (done : List Field)
    (meanings : Meanings) : Prop where
  reader : meanings locals.reader = .reader
  arguments : ∀ field ∈ done, meanings field.name.snake = .argument
  outer :
    ∀ name, name ≠ locals.reader → name ≠ locals.flags →
      (∀ field ∈ done, field.name.snake ≠ name) → meanings name = .outer

section

variable {locals : ReadLocals} {done : List Field} {meanings : Meanings}

theorem meant_opening (locals : ReadLocals) :
    Meant locals [] (openingMeanings locals.reader) where
  reader := Function.update_self ..
  arguments := fun _ member => absurd member List.not_mem_nil
  outer := fun _ notReader _ _ => Function.update_of_ne notReader ..

/-- Fresh flags change no other meaning. -/
theorem Meant.openFlags
    (meant : Meant locals done meanings)
    (different : locals.reader ≠ locals.flags)
    (apart : ∀ field ∈ done, field.name.snake ≠ locals.flags) :
    Meant locals done (Function.update meanings locals.flags .flags) where
  reader := (Function.update_of_ne different ..).trans meant.reader
  arguments := fun field member =>
    (Function.update_of_ne (apart field member) ..).trans
      (meant.arguments field member)
  outer := fun name notReader notFlags new =>
    (Function.update_of_ne notFlags ..).trans
      (meant.outer name notReader notFlags new)

/-- A field that is bound joins those passed. -/
theorem Meant.bind
    (meant : Meant locals done meanings) {field : Field}
    (apart : field.name.snake ≠ locals.reader) :
    Meant locals (done ++ [field])
      (Function.update meanings field.name.snake .argument) where
  reader := (Function.update_of_ne apart.symm ..).trans meant.reader
  arguments := fun other member => by
    by_cases same : other.name.snake = field.name.snake
    · rw [same, Function.update_self]
    · rw [Function.update_of_ne same]
      rcases List.mem_append.mp member with earlier | last
      · exact meant.arguments other earlier
      · exact absurd (congrArg (·.name.snake) (List.mem_singleton.mp last)) same
  outer := fun name notReader notFlags new => by
    have notField : name ≠ field.name.snake :=
      (new field List.mem_concat_self).symm
    rw [Function.update_of_ne notField]
    exact meant.outer name notReader notFlags fun other member =>
      new other (List.mem_append_left _ member)

/-- The function that reads tables is itself while no field has its name. -/
theorem Meant.outer_iff
    (meant : Meant locals done meanings) {name : String}
    (notReader : name ≠ locals.reader) (notFlags : name ≠ locals.flags) :
    meanings name = .outer ↔ ∀ field ∈ done, field.name.snake ≠ name := by
  constructor
  · rintro outer field member rfl
    rw [meant.arguments field member] at outer
    cases outer
  · exact meant.outer name notReader notFlags

end

/-! ## One field -/

/-- The variables of a routine that are not arguments: their names meet neither
each other, nor a field, nor the function that reads tables, nor a constant. -/
structure LocalsApart (patterns : List String) (fields : List Field)
    (locals : ReadLocals) : Prop where
  different : locals.reader ≠ locals.flags
  reader : ∀ field ∈ fields, field.name.snake ≠ locals.reader
  flags : ∀ field ∈ fields, field.name.snake ≠ locals.flags
  table : "decode_table" ≠ locals.reader ∧ "decode_table" ≠ locals.flags
  unbound : locals.reader ∉ patterns ∧ locals.flags ∉ patterns

/-- What the statements of one field ask for behind others: that its name can be
bound and, if it is a table, that none of the others is called as the function
that reads tables. -/
def FieldKept (patterns : List String) (done : List Field) (field : Field) : Prop :=
  field.name.snake ∉ patterns ∧
    (field.type = .table → ∀ earlier ∈ done, earlier.name.snake ≠ "decode_table")

section

variable {patterns names : List String} {fields done : List Field}
  {locals : ReadLocals} {meanings : Meanings}

theorem forall_used_bind_iff
    (apart : LocalsApart patterns fields locals)
    (meant : Meant locals done meanings) {name : String} {helper : ReadHelper} :
    (∀ use ∈ (ReadStatement.bind name helper locals.reader).used,
        meanings use.1 = use.2) ↔
      (helper = .table → ∀ field ∈ done, field.name.snake ≠ "decode_table") := by
  have called := meant.outer_iff apart.table.1 apart.table.2
  rw [ReadStatement.used, List.forall_mem_cons, and_iff_right meant.reader]
  by_cases table : helper = .table
  · subst table
    simpa [ReadHelper.path] using called
  · simp [table]

/-- The statements of a field keep all meanings exactly if the field is kept,
and leave those of one field more. -/
theorem hygienic_fieldStatements
    (apart : LocalsApart patterns fields locals) {field : Field}
    (inside : ∀ other ∈ done ++ [field], other ∈ fields)
    (meant : Meant locals done meanings) {position : Nat}
    (opened : position ≠ 0 → meanings locals.flags = .flags) :
    ∃ next,
      Meant locals (done ++ [field]) next ∧
        (Layout.positionAfter position field.type ≠ 0 →
          next locals.flags = .flags) ∧
        ∀ rest,
          Hygienic patterns names meanings
              (fieldStatements locals position field ++ rest) ↔
            FieldKept patterns done field ∧
              Hygienic patterns names next rest := by
  have member : field ∈ fields := inside field List.mem_concat_self
  have notReader := apart.reader field member
  have notFlags := apart.flags field member
  have flagsKept (current : Meanings) :
      Function.update current field.name.snake .argument locals.flags =
        current locals.flags :=
    Function.update_of_ne notFlags.symm ..
  rw [fieldStatements, FieldKept]
  cases chosen : ReadHelper.ofType? field.type with
  | some helper =>
      have plain := isFlag_eq_false_of_ofType? chosen
      have table : helper = .table ↔ field.type = .table := by
        revert chosen
        cases field.type <;> rintro ⟨⟩ <;> simp
      refine ⟨_, meant.bind notReader, fun more => ?_, fun rest => ?_⟩
      · exact absurd (by simp [Layout.positionAfter, plain]) more
      · simp only [List.singleton_append, Hygienic]
        rw [forall_used_bind_iff apart meant, table, ReadStatement.bound]
        tauto
  | none =>
      have notTable : field.type ≠ .table := by
        rw [eq_bit_of_ofType? chosen]
        decide
      by_cases start : position = 0
      · -- The flags are bound anew before the first of them is taken.
        have fresh := meant.openFlags apart.different fun other earlier =>
          apart.flags other (inside other (List.mem_append_left _ earlier))
        have bound :
            Function.update meanings locals.flags .flags locals.flags = .flags :=
          Function.update_self ..
        refine ⟨_, fresh.bind notReader, fun _ => (flagsKept _).trans bound,
          fun rest => ?_⟩
        simp only [if_pos start, List.cons_append, List.nil_append, Hygienic,
          ReadStatement.used, ReadStatement.bound, List.forall_mem_singleton,
          meant.reader, bound, apart.unbound.2, notTable, not_false_eq_true,
          true_and, false_implies, and_true]
      · refine ⟨_, meant.bind notReader,
          fun _ => (flagsKept _).trans (opened start), fun rest => ?_⟩
        simp only [if_neg start, List.cons_append, List.nil_append, Hygienic,
          ReadStatement.used, ReadStatement.bound, List.forall_mem_singleton,
          opened start, notTable, true_and, false_implies, and_true]

/-! ## All fields -/

/-- No field takes the name of the function that reads tables from a later
table. -/
def TableReaderKept (fields : List Field) : Prop :=
  fields.Pairwise fun earlier later =>
    earlier.name.snake = "decode_table" → later.type ≠ .table

instance (fields : List Field) : Decidable (TableReaderKept fields) :=
  inferInstanceAs (Decidable (List.Pairwise _ fields))

theorem fieldKept_concat_iff {field next : Field} :
    FieldKept patterns (done ++ [field]) next ↔
      FieldKept patterns done next ∧
        (field.name.snake = "decode_table" → next.type ≠ .table) := by
  simp only [FieldKept, List.forall_mem_append, List.forall_mem_singleton]
  tauto

/-- The statements of the fields that are left keep all meanings exactly if
each of the fields is kept behind those passed, and behind the others. -/
theorem hygienic_statementsFrom
    (apart : LocalsApart patterns fields locals) {todo : List Field}
    (split : fields = done ++ todo)
    (meant : Meant locals done meanings) {position : Nat}
    (opened : position ≠ 0 → meanings locals.flags = .flags) :
    Hygienic patterns (fields.map fun field => field.name.snake) meanings
        (statementsFrom locals position todo) ↔
      (∀ field ∈ todo, FieldKept patterns done field) ∧ TableReaderKept todo := by
  induction todo generalizing done meanings position with
  | nil =>
      rw [List.append_nil] at split
      subst split
      rw [statementsFrom, Hygienic, List.forall_mem_map]
      exact iff_of_true meant.arguments ⟨by simp, .nil⟩
  | cons field todo inductionHypothesis =>
      have joined : fields = done ++ [field] ++ todo := by
        rw [split, List.append_assoc, List.singleton_append]
      have inside : ∀ other ∈ done ++ [field], other ∈ fields := fun other member =>
        joined ▸ List.mem_append_left _ member
      obtain ⟨next, meantNext, openedNext, step⟩ :=
        hygienic_fieldStatements apart inside meant opened
      rw [statementsFrom, step, inductionHypothesis joined meantNext openedNext,
        List.forall_mem_cons, TableReaderKept, TableReaderKept,
        List.pairwise_cons]
      simp only [fieldKept_concat_iff, forall_and]
      tauto

end

/-! ## Routines of accepted documents -/

/-- Fresh names begin with the letters they were made from. -/
theorem ne_freshName
    {base name : String} (start : base.toList.head? ≠ name.toList.head?)
    (filled : base.toList ≠ []) (taken : List String) :
    name ≠ freshName base taken := by
  obtain ⟨count, _, found, _⟩ := freshName_spec base taken
  rintro rfl
  apply start
  rw [found, padded, String.toList_append, List.head?_append_of_ne_nil _ filled]

theorem freshName_not_mem_patterns
    {cls : ProtocolClass}
    (derived : ∀ method ∈ cls.methods, ∃ written,
      method.name = Name.ofText written)
    {base : String} {c : Char} {rest : List Char}
    (letters : base.toList = c :: rest) (lower : c.isLower = true)
    (taken : List String) :
    freshName base taken ∉ Protocol.classConstants cls ++ unitNames cls := by
  obtain ⟨count, _, found, _⟩ := freshName_spec base taken
  have spelled :
      (freshName base taken).toList = c :: (rest ++ List.replicate count '_') := by
    rw [found, padded, String.toList_append, String.toList_ofList, letters,
      List.cons_append]
  exact not_mem_patterns_of_isLower derived spelled lower

theorem localsApart_ofFields
    {cls : ProtocolClass}
    (derived : ∀ method ∈ cls.methods, ∃ written,
      method.name = Name.ofText written)
    (fields : List Field) :
    LocalsApart (Protocol.classConstants cls ++ unitNames cls) fields
      (ReadLocals.ofFields fields) where
  different := reader_ne_flags fields
  reader := snake_ne_freshName "reader" fields
  flags := snake_ne_freshName "bits" fields
  table :=
    ⟨ne_freshName (by decide) (by decide) _, ne_freshName (by decide) (by decide) _⟩
  unbound :=
    ⟨freshName_not_mem_patterns derived rfl (by decide) _,
      freshName_not_mem_patterns derived rfl (by decide) _⟩

theorem hygienicRoutine_statementsFrom
    {cls : ProtocolClass}
    (derived : ∀ method ∈ cls.methods, ∃ written,
      method.name = Name.ofText written)
    (method : Method) :
    HygienicRoutine (patternNames (items (inside (moduleLines {} cls)))) method
        (statementsFrom (ReadLocals.ofFields method.fields) 0 method.fields) ↔
      (∀ field ∈ method.fields,
        field.name.snake ∉ Protocol.classConstants cls ++ unitNames cls) ∧
        TableReaderKept method.fields := by
  have apart := localsApart_ofFields derived method.fields
  have nothingOpen (meanings : Meanings) (flags : String) :
      0 ≠ 0 → meanings flags = .flags :=
    fun more => absurd rfl more
  have run :=
    hygienic_statementsFrom apart (List.nil_append _).symm
      (meant_opening (ReadLocals.ofFields method.fields)) (nothingOpen _ _)
  have kept (field : Field) :
      FieldKept (Protocol.classConstants cls ++ unitNames cls) [] field ↔
        field.name.snake ∉ Protocol.classConstants cls ++ unitNames cls := by
    simp [FieldKept]
  rw [HygienicRoutine, patternNames_inside_moduleLines,
    and_iff_right apart.unbound.1, Method.fieldIdentifiers, run]
  simp only [kept]

/-- No argument goes by the name of the reader or of the flags.  The names that the
statements of a reading routine use, which are the reader, the flags and the function
that reads tables, and those that they bind keep their meaning exactly if no argument
goes by the name of a constant or of a structure without fields in the class module,
and none that stands before a table by that of the function.  Names around the
statements are not looked at: `Self`, and `Some` and `None` of the prelude, which an
argument may go by as well. -/
theorem hygienicRoutine_iff
    {spec : Spec} {protocol : Protocol}
    (accepted : spec.resolve.outcome = .ok protocol)
    {cls : ProtocolClass} (clsMember : cls ∈ protocol.classes)
    (method : Method) :
    ∃ statements,
      readStatements method (ReadLocals.ofFields method.fields) = .ok statements ∧
        readLines method (ReadLocals.ofFields method.fields) =
          .ok (statements.map ReadStatement.text) ∧
        (∀ field ∈ method.fields,
          field.name.snake ≠ (ReadLocals.ofFields method.fields).reader ∧
            field.name.snake ≠ (ReadLocals.ofFields method.fields).flags) ∧
        (HygienicRoutine (patternNames (items (inside (moduleLines {} cls))))
            method statements ↔
          (∀ field ∈ method.fields,
            field.name.snake ∉ Protocol.classConstants cls ∧
              ∀ other ∈ cls.methods, other.fields = [] →
                other.name.pascal ≠ field.name.snake) ∧
            method.fields.Pairwise fun earlier later =>
              earlier.name.snake = "decode_table" → later.type ≠ .table) := by
  obtain ⟨_, resolves, _⟩ := Spec.resolves_of_resolve accepted
  have derived := resolves.derived clsMember
  refine ⟨_, readStatements_eq method _, by rw [readLines, readStatements_eq]; rfl,
    fun field fieldMember => ⟨snake_ne_freshName "reader" _ field fieldMember,
      snake_ne_freshName "bits" _ field fieldMember⟩, ?_⟩
  have unnamed (name : String) :
      name ∉ unitNames cls ↔
        ∀ other ∈ cls.methods, other.fields = [] → other.name.pascal ≠ name := by
    simp [mem_unitNames]
  rw [hygienicRoutine_statementsFrom derived, TableReaderKept]
  simp only [List.mem_append, not_or, unnamed]

/-- A document whose arguments come near all names that have to be kept: the
function that reads tables behind the last table, a constant and a structure in
other cases, and the variables of the routine. -/
def nearlyShadowing : Spec where
  name := none
  majorVersion := none
  minorVersion := none
  revision := none
  tcpPort := none
  domains := []
  classes :=
    [⟨50, "queue",
      [⟨10, "open", none, []⟩,
        ⟨11, "declare", none,
          [⟨"reader", some "short", none⟩, ⟨"arguments", some "table", none⟩,
            ⟨"decode-table", some "octet", none⟩, ⟨"class-id", some "bit", none⟩,
            ⟨"open", some "bit", none⟩, ⟨"bits", some "longstr", none⟩]⟩]⟩]

def nearlyShadowingMethod : Method where
  id := 11
  classId := 50
  name := Name.ofText "declare"
  qualifiedName := "queue.declare"
  synchronous := false
  fields :=
    [⟨Name.ofText "reader", .short, none⟩, ⟨Name.ofText "arguments", .table, none⟩,
      ⟨Name.ofText "decode-table", .octet, none⟩,
      ⟨Name.ofText "class-id", .bit, none⟩, ⟨Name.ofText "open", .bit, none⟩,
      ⟨Name.ofText "bits", .longString, none⟩]

def nearlyShadowingClass : ProtocolClass where
  id := 50
  name := Name.ofText "queue"
  methods :=
    [⟨10, 50, Name.ofText "open", "queue.open", false, []⟩, nearlyShadowingMethod]

theorem hygienicRoutine_nearlyShadowing :
    nearlyShadowing.resolve.outcome =
        .ok ⟨⟨none, none, none⟩, [], [nearlyShadowingClass]⟩ ∧
      nearlyShadowingMethod ∈ nearlyShadowingClass.methods ∧
      ∃ statements,
        readStatements nearlyShadowingMethod ⟨"reader_", "bits_"⟩ = .ok statements ∧
          HygienicRoutine
            (patternNames (items (inside (moduleLines {} nearlyShadowingClass))))
            nearlyShadowingMethod statements := by
  have accepted :
      nearlyShadowing.resolve.outcome =
        .ok ⟨⟨none, none, none⟩, [], [nearlyShadowingClass]⟩ := by
    decide
  have member : nearlyShadowingMethod ∈ nearlyShadowingClass.methods := by
    decide
  have locals :
      ReadLocals.ofFields nearlyShadowingMethod.fields = ⟨"reader_", "bits_"⟩ := by
    decide
  obtain ⟨statements, read, _, _, hygienic⟩ :=
    hygienicRoutine_iff accepted List.mem_cons_self nearlyShadowingMethod
  rw [locals] at read
  refine ⟨accepted, member, statements, read, hygienic.mpr ⟨?_, ?_⟩⟩
  · decide
  · decide

/-- A document with an argument by the name of the function that reads tables,
before a table, one by the name of a constant, and one by that of a structure
without fields. -/
def shadowingOthers : Spec where
  name := none
  majorVersion := none
  minorVersion := none
  revision := none
  tcpPort := none
  domains := []
  classes :=
    [⟨50, "queue",
      [⟨10, "open", none, []⟩,
        ⟨11, "declare", none,
          [⟨"decode-table", some "octet", none⟩,
            ⟨"arguments", some "table", none⟩]⟩,
        ⟨12, "delete", none, [⟨"CLASS_ID", some "short", none⟩]⟩,
        ⟨13, "purge", none, [⟨"Open", some "long", none⟩]⟩]⟩]

theorem not_hygienicRoutine_shadowingOthers :
    ∃ protocol cls opening declare delete purge,
      shadowingOthers.resolve.outcome = .ok protocol ∧
        (protocol.generate {}).outcome = .ok (sectionsText protocol {}) ∧
        protocol.classes = [cls] ∧
        cls.methods = [opening, declare, delete, purge] ∧
        readLines declare (ReadLocals.ofFields declare.fields) =
          .ok
            ["let decode_table = wire::read_u8(&mut reader)?;",
              "let arguments = decode_table(&mut reader)?;"] ∧
        "CLASS_ID" ∈ Protocol.classConstants cls ∧
        readLines delete (ReadLocals.ofFields delete.fields) =
          .ok ["let CLASS_ID = wire::read_u16(&mut reader)?;"] ∧
        "Open" ∈ unitNames cls ∧
        readLines purge (ReadLocals.ofFields purge.fields) =
          .ok ["let Open = wire::read_u32(&mut reader)?;"] ∧
        ∀ method ∈ [declare, delete, purge],
          ∃ statements,
            readStatements method (ReadLocals.ofFields method.fields) =
                .ok statements ∧
              ¬ HygienicRoutine (patternNames (items (inside (moduleLines {} cls))))
                method statements := by
  let opening : Method :=
    ⟨10, 50, Name.ofText "open", "queue.open", false, []⟩
  let declare : Method :=
    ⟨11, 50, Name.ofText "declare", "queue.declare", false,
      [⟨Name.ofText "decode-table", .octet, none⟩,
        ⟨Name.ofText "arguments", .table, none⟩]⟩
  let delete : Method :=
    ⟨12, 50, Name.ofText "delete", "queue.delete", false,
      [⟨Name.ofText "CLASS_ID", .short, none⟩]⟩
  let purge : Method :=
    ⟨13, 50, Name.ofText "purge", "queue.purge", false,
      [⟨Name.ofText "Open", .long, none⟩]⟩
  let cls : ProtocolClass :=
    ⟨50, Name.ofText "queue", [opening, declare, delete, purge]⟩
  let protocol : Protocol := ⟨⟨none, none, none⟩, [], [cls]⟩
  have accepted : shadowingOthers.resolve.outcome = .ok protocol := by
    decide
  have free : protocol.importCollision? "Table" = none := by
    decide
  have clsMember : cls ∈ protocol.classes := List.mem_cons_self
  have derived := (Spec.resolves_of_resolve accepted).2.1.derived clsMember
  refine ⟨protocol, cls, opening, declare, delete, purge, accepted,
    by rw [Protocol.generate_eq, free], rfl, rfl, by decide,
    by decide, by decide, by decide, by decide, ?_⟩
  have lost :
      ∀ method ∈ [declare, delete, purge],
        ¬ ((∀ field ∈ method.fields,
            field.name.snake ∉ Protocol.classConstants cls ++ unitNames cls) ∧
          TableReaderKept method.fields) := by
    decide
  intro method member
  refine ⟨_, readStatements_eq method _, ?_⟩
  rw [hygienicRoutine_statementsFrom derived]
  exact lost method member

end MethodCodec.Source
