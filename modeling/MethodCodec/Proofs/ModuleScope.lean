import Mathlib
import MethodCodec.Proofs.Collision
import MethodCodec.Proofs.Identifier
import MethodCodec.Proofs.Item
import MethodCodec.Proofs.SourceFile

/-!
# Names in a class module

No two names that a class module imports or declares meet, nor do two fields of
a structure in it.
-/

namespace MethodCodec.Source

/-! ## Class modules -/

theorem ofLine?_sharedImport :
    Item.ofLine? sharedImport = some (.imports ["Method", "MethodFrame"]) := by
  decide

theorem ofLine?_wireImport :
    Item.ofLine? wireImport = some (.imports ["wire"]) := by
  decide

theorem ofLine?_tableImport :
    Item.ofLine? (tableImport {}) =
      some (.imports ["Table", "decode_table", "encode_table"]) := by
  decide

/-- The item of a method's structure. -/
def structItem (method : Method) : Item :=
  if method.fields = [] then .unitStruct method.name.pascal
  else .struct method.name.pascal

theorem items_structLines (method : Method) (settings : SourceSettings) :
    items (structLines method settings) = [structItem method] := by
  rw [structLines, structItem]
  by_cases unit : method.fields = []
  · rw [if_pos (List.isEmpty_iff.mpr unit), if_pos unit, items,
      List.filterMap_cons, ofLine?_unitStruct]
    rfl
  · rw [if_neg (by simpa using unit), if_neg unit, items_block,
      ofLine?_struct]
    rfl

theorem items_deriveLines (settings : SourceSettings) :
    items (deriveLines settings) = [] := by
  rw [deriveLines]
  split_ifs
  · rfl
  · have derived :
        Item.ofLine? ("#[derive(" ++ joinItems settings.derives ++ ")]") =
          none := by
      apply ofLine?_of_head <;> simp
    rw [items_cons_of_none derived]
    rfl

theorem items_opening (method : Method) :
    items ["", "/// " ++ methodComment method] = [] := by
  have comment : Item.ofLine? ("/// " ++ methodComment method) = none := by
    apply ofLine?_of_head <;> simp
  rw [items_cons_of_none ofLine?_empty, items_cons_of_none comment]
  rfl

theorem items_implementation (method : Method) (body : List String) :
    items ("" :: block ("impl Method for " ++ method.name.pascal) body) = [] := by
  have head :
      Item.ofLine? ("impl Method for " ++ method.name.pascal ++ " \x7b") =
        none := by
    apply ofLine?_of_head <;> simp
  rw [items_cons_of_none ofLine?_empty, items_block, head]
  rfl

/-- Around the structure of a method no line begins an item. -/
theorem memberLines_eq
    (classId : UInt16) (settings : SourceSettings) (method : Method) :
    ∃ front back,
      memberLines classId settings method =
          front ++ structLines method settings ++ back ∧
        items front = [] ∧ items back = [] := by
  refine ⟨_, _, List.append_assoc .., ?_, items_implementation method _⟩
  rw [items_append, items_opening, items_deriveLines, List.append_nil]

theorem items_memberLines
    (classId : UInt16) (settings : SourceSettings) (method : Method) :
    items (memberLines classId settings method) = [structItem method] := by
  obtain ⟨front, back, lines, before, behind⟩ :=
    memberLines_eq classId settings method
  rw [lines, items_append, items_append, before, behind, items_structLines]
  rfl

/-- The items that a class module imports. -/
def importItems (cls : ProtocolClass) (settings : SourceSettings) : List Item :=
  items (importLines cls settings)

theorem inside_moduleLines (settings : SourceSettings) (cls : ProtocolClass) :
    inside (moduleLines settings cls) =
      importLines cls settings ++ ["", idConstant classIdConstant cls.id] ++
        (cls.methods.map fun method => idConstant method.name.screaming method.id) ++
        cls.methods.flatMap (memberLines cls.id settings) := by
  have visible :
      ∃ c, ("pub mod " ++ cls.name.snake).toList.head? = some c ∧ c ≠ ' ' :=
    ⟨'p', by simp, by decide⟩
  rw [moduleLines, classLines, inside_block visible,
    List.append_assoc (importLines cls settings)]
  rfl

/-- The imports and the constants of a class module. -/
theorem items_moduleHead (settings : SourceSettings) (cls : ProtocolClass) :
    items (importLines cls settings ++ ["", idConstant classIdConstant cls.id] ++
        cls.methods.map fun method => idConstant method.name.screaming method.id) =
      importItems cls settings ++
        (Protocol.classConstants cls).map Item.constant := by
  have constants :
      items (cls.methods.map fun method =>
          idConstant method.name.screaming method.id) =
        cls.methods.map fun method => .constant method.name.screaming := by
    rw [items, List.filterMap_map]
    have each :
        Item.ofLine? ∘ (fun method : Method =>
            idConstant method.name.screaming method.id) =
          some ∘ fun method => .constant method.name.screaming :=
      funext fun method => ofLine?_idConstant _ _
    rw [each, ← List.filterMap_map, List.filterMap_some]
  have head :
      items ["", idConstant classIdConstant cls.id] =
        [.constant classIdConstant] := by
    rw [items_cons_of_none ofLine?_empty, items, List.filterMap_cons,
      ofLine?_idConstant]
    rfl
  simp only [items_append, constants, head, importItems,
    Protocol.classConstants, List.map_cons, List.map_map, List.append_assoc]
  rfl

/-- The items of a class module: its imports, its constants, and the structures
of its methods. -/
theorem items_inside_moduleLines (settings : SourceSettings) (cls : ProtocolClass) :
    items (inside (moduleLines settings cls)) =
      importItems cls settings ++
        (Protocol.classConstants cls).map Item.constant ++
        cls.methods.map structItem := by
  rw [inside_moduleLines, items_append, items_moduleHead,
    items_flatMap_of_single (items_memberLines cls.id settings)]

/-! ## Fields -/

/-- A line that begins no structure with fields. -/
def Plain (line : String) : Prop :=
  ∀ name, Item.ofLine? line ≠ some (.struct name)

theorem plain_of_items
    {lines : List String} (absent : ∀ name, Item.struct name ∉ items lines) :
    ∀ line ∈ lines, Plain line := by
  intro line member name found
  exact absent name (List.mem_filterMap.mpr ⟨line, member, found⟩)

theorem structures_append_of_plain
    {front : List String} (plain : ∀ line ∈ front, Plain line)
    (back : List String) :
    structures (front ++ back) = structures back := by
  induction front with
  | nil => rfl
  | cons line front inductionHypothesis =>
      obtain ⟨here, plain⟩ := List.forall_mem_cons.mp plain
      rw [List.cons_append, structures]
      split
      next name found => exact absurd found (here name)
      next => exact inductionHypothesis plain

theorem structures_append_of_items
    {front : List String} (absent : ∀ name, Item.struct name ∉ items front)
    (back : List String) :
    structures (front ++ back) = structures back :=
  structures_append_of_plain (plain_of_items absent) back

/-- A block behind the name of a structure is read up to its brace. -/
theorem structures_block (name : String) (body rest : List String) :
    structures (block ("pub struct " ++ name) body ++ rest) =
      (name, (body.map indent).filterMap readFieldName?) :: structures rest := by
  have inner : ∀ line ∈ body.map indent, decide (line ≠ "\x7d") = true := by
    intro line member
    obtain ⟨inner, _, rfl⟩ := List.mem_map.mp member
    rw [decide_eq_true_iff]
    intro same
    have stripped := unindent?_indent inner
    rw [same] at stripped
    cases stripped
  have stop : (["\x7d"] ++ rest).takeWhile (· ≠ "\x7d") = [] := by simp
  have closed :
      structures (body.map indent ++ (["\x7d"] ++ rest)) = structures rest := by
    have closing : items ["\x7d"] = [] := by decide
    rw [← List.append_assoc]
    refine structures_append_of_items (fun name => ?_) rest
    rw [items_append, items_map_indent, closing]
    exact List.not_mem_nil
  rw [block, blockUntil, List.cons_append, List.cons_append, structures,
    ofLine?_struct]
  dsimp only
  rw [List.append_assoc, List.takeWhile_append_of_pos inner, stop,
    List.append_nil, closed]

/-- The line of a field in a structure. -/
def fieldLine (settings : SourceSettings) (field : Field) : String :=
  "pub " ++ field.name.snake ++ ": " ++ field.type.targetType settings ++ ","

theorem solid_targetType (type : WireType) :
    ((type.targetType {}).toList ++ ",".toList).reverse.all (· ≠ ' ') = true := by
  cases type <;> decide

/-- Behind `pub` a field's line has its name, then its type up to the comma. -/
theorem cutAt_fieldLine (field : Field) :
    cutAt ' ' (fieldLine {} field).toList =
      some ("pub".toList,
        (field.name.snake.toList ++ ": ".toList) ++
          ((field.type.targetType {}).toList ++ ",".toList)) := by
  have solid : ' ' ∉ "pub".toList := by decide
  have cut := cutAt_append solid
    ((field.name.snake.toList ++ ": ".toList) ++
      ((field.type.targetType {}).toList ++ ",".toList))
  simpa [fieldLine] using cut

theorem readFieldName?_fieldLine (field : Field) :
    readFieldName? (indent (fieldLine {} field)) = some field.name.snake := by
  let front := field.name.snake.toList ++ ": ".toList
  have stop : front.reverse.dropWhile (· ≠ ' ') = front.reverse := by
    rw [List.reverse_append]
    rfl
  rw [readFieldName?, unindent?_indent]
  simp only [Option.bind_eq_bind, Option.bind_some, cutAt_fieldLine]
  rw [if_pos trivial, List.reverse_append,
    List.dropWhile_append_of_pos (List.all_eq_true.mp (solid_targetType field.type)), stop,
    List.reverse_reverse, dropSuffix?_append, Option.map_some,
    String.ofList_toList]

/-- The structure of a method with the names of its fields, if it has any. -/
def fieldsOf? (method : Method) : Option (String × List String) :=
  if method.fields = [] then none
  else some (method.name.pascal, method.fieldIdentifiers)

theorem structures_structLines (method : Method) (rest : List String) :
    structures (structLines method {} ++ rest) =
      (fieldsOf? method).toList ++ structures rest := by
  rw [structLines, fieldsOf?]
  by_cases unit : method.fields = []
  · rw [if_pos (List.isEmpty_iff.mpr unit), if_pos unit, List.singleton_append,
      structures, ofLine?_unitStruct]
    rfl
  · have names :
        ((method.fields.map (fieldLine {})).map indent).filterMap readFieldName? =
          method.fieldIdentifiers := by
      rw [List.map_map, List.filterMap_map, Method.fieldIdentifiers]
      have each :
          readFieldName? ∘ indent ∘ fieldLine {} =
            some ∘ fun field : Field => field.name.snake :=
        funext readFieldName?_fieldLine
      rw [each, ← List.filterMap_map, List.filterMap_some]
    rw [if_neg (by simpa using unit), if_neg unit, structures_block]
    exact congrArg (fun names => (method.name.pascal, names) :: structures rest)
      names

theorem structures_memberLines
    (classId : UInt16) (method : Method) (rest : List String) :
    structures (memberLines classId {} method ++ rest) =
      (fieldsOf? method).toList ++ structures rest := by
  obtain ⟨front, back, lines, before, behind⟩ := memberLines_eq classId {} method
  rw [lines, List.append_assoc, List.append_assoc,
    structures_append_of_items (by simp [before]), structures_structLines,
    structures_append_of_items (by simp [behind])]

theorem structures_members (classId : UInt16) (methods : List Method) :
    structures (methods.flatMap (memberLines classId {})) =
      methods.filterMap fieldsOf? := by
  induction methods with
  | nil => rfl
  | cons method methods inductionHypothesis =>
      rw [List.flatMap_cons, structures_memberLines, inductionHypothesis,
        List.filterMap_cons]
      cases fieldsOf? method <;> rfl

/-! ## Names of a class module -/

theorem importItems_sublist (cls : ProtocolClass) :
    (importItems cls {}).Sublist
      [.imports ["wire"], .imports ["Method", "MethodFrame"],
        .imports ["Table", "decode_table", "encode_table"]] := by
  have wire : items [wireImport] = [.imports ["wire"]] := by
    rw [items, List.filterMap_cons, ofLine?_wireImport]
    rfl
  have shared : items [sharedImport] = [.imports ["Method", "MethodFrame"]] := by
    rw [items, List.filterMap_cons, ofLine?_sharedImport]
    rfl
  have table :
      items [tableImport {}] =
        [.imports ["Table", "decode_table", "encode_table"]] := by
    rw [items, List.filterMap_cons, ofLine?_tableImport]
    rfl
  rw [importItems, importLines]
  split_ifs <;> simp only [items_append, wire, shared, table] <;> decide

theorem imported_typeNames (cls : ProtocolClass) :
    (typeNames (importItems cls {})).Sublist
      ["wire", "Method", "MethodFrame", "Table"] :=
  (importItems_sublist cls).flatMap Item.typeNames

theorem imported_valueNames (cls : ProtocolClass) :
    (valueNames (importItems cls {})).Sublist ["decode_table", "encode_table"] :=
  (importItems_sublist cls).flatMap Item.valueNames

@[simp]
theorem typeNames_structItem (method : Method) :
    (structItem method).typeNames = [method.name.pascal] := by
  rw [structItem]
  split_ifs <;> rfl

theorem typeNames_inside_moduleLines (cls : ProtocolClass) :
    typeNames (items (inside (moduleLines {} cls))) =
      typeNames (importItems cls {}) ++
        cls.methods.map fun method => method.name.pascal := by
  have constants (names : List String) :
      typeNames (names.map Item.constant) = [] := by
    rw [typeNames, List.flatMap_map]
    exact List.flatMap_eq_nil_iff.mpr fun _ _ => rfl
  have structs :
      typeNames (cls.methods.map structItem) =
        cls.methods.map fun method => method.name.pascal := by
    rw [typeNames, List.flatMap_map,
      List.flatMap_congr fun method _ => typeNames_structItem method]
    exact List.map_eq_flatMap.symm
  rw [items_inside_moduleLines, typeNames, List.flatMap_append,
    List.flatMap_append]
  change typeNames _ ++ typeNames _ ++ typeNames _ = _
  rw [constants, structs, List.append_nil]

/-- The structures that are values too. -/
def unitNames (cls : ProtocolClass) : List String :=
  (cls.methods.filter fun method => method.fields = []).map
    fun method => method.name.pascal

theorem valueNames_structItems (methods : List Method) :
    valueNames (methods.map structItem) =
      (methods.filter fun method => method.fields = []).map
        fun method => method.name.pascal := by
  induction methods with
  | nil => rfl
  | cons method methods inductionHypothesis =>
      rw [List.map_cons, valueNames, List.flatMap_cons]
      change _ ++ valueNames (methods.map structItem) = _
      rw [inductionHypothesis, structItem]
      by_cases unit : method.fields = []
      · simp [unit, Item.valueNames]
      · simp [unit, Item.valueNames]

theorem valueNames_inside_moduleLines (cls : ProtocolClass) :
    valueNames (items (inside (moduleLines {} cls))) =
      valueNames (importItems cls {}) ++ Protocol.classConstants cls ++
        unitNames cls := by
  have constants (names : List String) :
      valueNames (names.map Item.constant) = names := by
    rw [valueNames, List.flatMap_map]
    exact List.flatMap_singleton' names
  rw [items_inside_moduleLines, valueNames, List.flatMap_append,
    List.flatMap_append]
  change valueNames _ ++ valueNames _ ++ valueNames _ = _
  rw [constants, valueNames_structItems, unitNames]

theorem structures_inside_moduleLines (cls : ProtocolClass) :
    structures (inside (moduleLines {} cls)) =
      cls.methods.filterMap fieldsOf? := by
  have absent (name : String) :
      Item.struct name ∉
        importItems cls {} ++
          (Protocol.classConstants cls).map Item.constant := by
    intro member
    rcases List.mem_append.mp member with imported | constant
    · simpa using (importItems_sublist cls).subset imported
    · obtain ⟨_, _, same⟩ := List.mem_map.mp constant
      cases same
  rw [← items_moduleHead] at absent
  rw [inside_moduleLines, structures_append_of_items absent, structures_members]

/-- No two types, no two values and no two fields of a structure meet. -/
structure KeptApart (lines : List String) : Prop where
  types : (typeNames (items lines)).Nodup
  values : (valueNames (items lines)).Nodup
  fields : ∀ entry ∈ structures lines, entry.2.Nodup

theorem mem_unitNames {cls : ProtocolClass} {name : String} :
    name ∈ unitNames cls ↔
      ∃ method ∈ cls.methods, method.fields = [] ∧ method.name.pascal = name := by
  simp [unitNames, and_assoc]

theorem unitNames_sublist (cls : ProtocolClass) :
    (unitNames cls).Sublist (cls.methods.map fun method => method.name.pascal) :=
  List.filter_sublist.map fun method : Method => method.name.pascal

/-- Besides what is checked among the members of a class, the names of its
methods have to be spelled by the rules and to avoid that of the table type. -/
theorem keptApart_inside_moduleLines
    {cls : ProtocolClass} (apart : cls.Apart)
    (derived : ∀ method ∈ cls.methods, ∃ written,
      method.name = Name.ofText written)
    (free : ∀ method ∈ cls.methods, method.name.pascal ≠ "Table") :
    KeptApart (inside (moduleLines {} cls)) := by
  refine ⟨?_, ?_, ?_⟩
  · rw [typeNames_inside_moduleLines, List.nodup_append']
    refine ⟨(imported_typeNames cls).nodup (by decide), apart.types, ?_⟩
    intro name imported struct
    obtain ⟨method, member, rfl⟩ := List.mem_map.mp struct
    have reserved := apart.free method member
    have notTable := free method member
    obtain ⟨written, spelled⟩ := derived method member
    have notWire : method.name.pascal ≠ "wire" := by
      rw [spelled]
      exact Name.pascalCase_ne_of_isLower rfl (by decide) written
    have among := (imported_typeNames cls).subset imported
    simp only [reservedTypes, List.mem_cons, List.not_mem_nil, or_false,
      not_or] at reserved among
    rcases among with same | same | same | same
    · exact notWire same
    · exact reserved.1 same
    · exact reserved.2 same
    · exact notTable same
  · rw [valueNames_inside_moduleLines, List.nodup_append', List.nodup_append']
    refine ⟨⟨(imported_valueNames cls).nodup (by decide), apart.constants, ?_⟩,
      (unitNames_sublist cls).nodup apart.types, ?_⟩
    · intro name imported constant
      have among := (imported_valueNames cls).subset imported
      have letter : 'd' ∈ name.toList := by
        rcases List.mem_pair.mp among with rfl | rfl <;> decide
      rcases List.mem_cons.mp constant with rfl | ofMethod
      · revert letter
        decide
      · obtain ⟨method, member, rfl⟩ := List.mem_map.mp ofMethod
        obtain ⟨written, spelled⟩ := derived method member
        rw [spelled] at letter
        exact Name.screamingCase_ne_of_isLower letter (by decide) written rfl
    · intro name taken unit
      obtain ⟨method, member, noFields, rfl⟩ := mem_unitNames.mp unit
      rcases List.mem_append.mp taken with imported | constant
      · obtain ⟨written, spelled⟩ := derived method member
        have among := (imported_valueNames cls).subset imported
        rw [spelled] at among
        rcases List.mem_pair.mp among with same | same
        · exact Name.pascalCase_ne_of_isLower rfl (by decide) written same
        · exact Name.pascalCase_ne_of_isLower rfl (by decide) written same
      · exact apart.units method member noFields constant
  · intro entry listed
    rw [structures_inside_moduleLines] at listed
    obtain ⟨method, member, found⟩ := List.mem_filterMap.mp listed
    rw [fieldsOf?] at found
    split_ifs at found
    obtain rfl := Option.some.inj found
    exact apart.fields method member

end MethodCodec.Source
