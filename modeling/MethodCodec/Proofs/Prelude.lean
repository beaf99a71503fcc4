import Mathlib
import MethodCodec.Proofs.FileScope
import MethodCodec.Proofs.Line

/-!
# Names that are in scope by themselves

A class module writes some types and two values of the target language by their
bare names, which an item of the module by the same name would hide.  The lines
of the module are read for the names that they use so.  Structures by five names
turn out to hide one: by two of them always, by one only beside a field of text,
and by two only without fields.
-/

namespace MethodCodec

namespace Source

/-! ## Names that are used -/

/-- The types that are in scope by themselves. -/
def preludeTypes : List String := ["Box", "Option", "Result", "String", "Vec"]

/-- The two forms of an optional value. -/
def preludeValues : List String := ["None", "Some"]

def words (tokens : List Token) : List String :=
  tokens.filterMap fun token =>
    match token with
    | .word text => some text
    | .symbol _ => none

/-- The words in which a line inside an item says types: those of a signature,
or those behind the name of a field.  Bodies of routines stand further in, and
say no type by itself that no signature does. -/
def typeWords (line : String) : List String :=
  match cutAt ' ' line.toList with
  | none => []
  | some (word, rest) =>
      if word = "fn".toList then
        words (tokensFrom [] rest)
      else if word = "pub".toList then
        words (tokensFrom [] (rest.reverse.takeWhile (· ≠ ' ')).reverse)
      else
        []

/-- The words in which the items of a module say types. -/
def usedTypes (lines : List String) : List String :=
  (inside lines).flatMap typeWords

/-- The value that a line gives back, or applies to begin with. -/
def usedValue? (line : String) : Option String :=
  match tokens line with
  | .word word :: .word value :: _ => if word = "return" then some value else none
  | .word value :: .symbol c :: _ => if c = '(' then some value else none
  | _ => none

/-- Such values, however far the lines are indented. -/
def usedValues (lines : List String) : List String :=
  lines.filterMap usedValue?

/-- No name that a module brings into scope hides one that it uses. -/
structure KeepsPrelude (lines : List String) : Prop where
  types :
    ∀ name ∈ typeNames (items lines), name ∈ preludeTypes → name ∉ usedTypes lines
  values :
    ∀ name ∈ valueNames (items lines), name ∈ preludeValues →
      name ∉ usedValues lines

/-! ## Types of a class module -/

@[simp]
theorem usedTypes_append (front back : List String) :
    usedTypes (front ++ back) = usedTypes front ++ usedTypes back := by
  rw [usedTypes, inside, List.filterMap_append, List.flatMap_append]
  rfl

theorem usedTypes_flatMap {α : Type} (parts : List α) (lines : α → List String) :
    usedTypes (parts.flatMap lines) = parts.flatMap fun part => usedTypes (lines part) := by
  rw [usedTypes, inside, List.filterMap_flatMap, List.flatMap_assoc]
  rfl

@[simp]
theorem usedTypes_cons_blank (lines : List String) :
    usedTypes ("" :: lines) = usedTypes lines :=
  rfl

theorem usedTypes_of_visible
    {lines : List String}
    (visible : ∀ line ∈ lines, ∃ c, line.toList.head? = some c ∧ c ≠ ' ') :
    usedTypes lines = [] := by
  rw [usedTypes, inside, List.filterMap_eq_nil_iff.mpr fun line member =>
    unindent?_of_visible (visible line member)]
  rfl

theorem usedTypes_block
    {head : String} (visible : ∃ c, head.toList.head? = some c ∧ c ≠ ' ')
    (body : List String) :
    usedTypes (block head body) = body.flatMap typeWords := by
  rw [usedTypes, inside_block visible]

theorem typeWords_indent (line : String) : typeWords (indent line) = [] := by
  rw [indent]
  split_ifs with empty
  · rw [String.isEmpty_iff.mp empty]
    rfl
  · have cut : cutAt ' ' ("    " ++ line).toList = some ([], "   ".toList ++ line.toList) := by
      rw [String.toList_append]
      rfl
    rw [typeWords, cut]
    rfl

/-- Of a routine only the signature says types. -/
theorem flatMap_typeWords_block (head : String) (body : List String) :
    (block head body).flatMap typeWords = typeWords (head ++ " \x7b") := by
  have inner : (body.map indent).flatMap typeWords = [] := by
    rw [List.flatMap_map]
    exact List.flatMap_eq_nil_iff.mpr fun line _ => typeWords_indent line
  have closing : ["\x7d"].flatMap typeWords = [] := by decide
  rw [block, blockUntil, List.cons_append, List.flatMap_cons, List.flatMap_append,
    inner, closing, List.append_nil, List.append_nil]

theorem typeWords_fieldLine (field : Field) :
    typeWords (fieldLine {} field) = [field.type.targetType {}] := by
  have stop :
      (field.name.snake.toList ++ ": ".toList).reverse.takeWhile (· ≠ ' ') = [] := by
    rw [List.reverse_append]
    rfl
  have typed :
      words (tokensFrom [] ((field.type.targetType {}).toList ++ ",".toList)) =
        [field.type.targetType {}] := by
    cases field.type <;> decide
  rw [typeWords, cutAt_fieldLine]
  dsimp only
  rw [if_neg (by decide), if_pos rfl, List.reverse_append,
    List.takeWhile_append_of_pos (List.all_eq_true.mp (solid_targetType field.type)),
    stop, List.append_nil, List.reverse_reverse, typed]

theorem usedTypes_structLines (method : Method) :
    usedTypes (structLines method {}) =
      method.fields.map fun field => field.type.targetType {} := by
  rw [structLines]
  by_cases unit : method.fields = []
  · rw [if_pos (List.isEmpty_iff.mpr unit), unit]
    exact usedTypes_of_visible (by simp)
  · have visible :
        ∃ c, ("pub struct " ++ method.name.pascal).toList.head? = some c ∧ c ≠ ' ' :=
      ⟨'p', by simp, by decide⟩
    rw [if_neg (by simpa using unit), usedTypes_block visible, List.flatMap_map]
    change (method.fields.flatMap fun field => typeWords (fieldLine {} field)) = _
    rw [List.flatMap_congr fun field _ => typeWords_fieldLine field]
    exact List.map_eq_flatMap.symm

/-- The words in which the routines of a method say types. -/
def signatureWords : List String :=
  ["fn decode(method_frame: MethodFrame) -> Option<Self>",
    "fn encode(&self) -> Vec<u8>",
    "fn name(&self) -> &'static str",
    "fn id(&self) -> u16",
    "fn class_id(&self) -> u16"].flatMap fun head => typeWords (head ++ " \x7b")

theorem usedTypes_memberLines (classId : UInt16) (method : Method) :
    usedTypes (memberLines classId {} method) =
      (method.fields.map fun field => field.type.targetType {}) ++ signatureWords := by
  have opening : usedTypes ["", "/// " ++ methodComment method] = [] := by
    rw [usedTypes_cons_blank]
    exact usedTypes_of_visible (by simp)
  have derived : usedTypes (deriveLines {}) = [] := by decide
  have blank : usedTypes [""] = [] := rfl
  have blankInside : [""].flatMap typeWords = [] := by decide
  have visible :
      ∃ c, ("impl Method for " ++ method.name.pascal).toList.head? = some c ∧ c ≠ ' ' :=
    ⟨'i', by simp, by decide⟩
  rw [memberLines, methodLines]
  simp only [usedTypes_append, opening, derived, usedTypes_structLines, blank,
    usedTypes_block visible, List.flatMap_append, decodeRoutine, encodeRoutine,
    flatMap_typeWords_block, blankInside, signatureWords, List.flatMap_cons,
    List.flatMap_nil, List.nil_append, List.append_nil, List.append_assoc]

/-- A class module says the types of the fields, and those of the signatures
method by method. -/
theorem usedTypes_inside_moduleLines (cls : ProtocolClass) :
    usedTypes (inside (moduleLines {} cls)) =
      cls.methods.flatMap fun method =>
        (method.fields.map fun field => field.type.targetType {}) ++ signatureWords := by
  have imports : usedTypes (importLines cls {}) = [] := by
    have wire : usedTypes [wireImport] = [] := by decide
    have shared : usedTypes [sharedImport] = [] := by decide
    have table : usedTypes [tableImport {}] = [] := by decide
    have none : usedTypes [] = [] := rfl
    rw [importLines, usedTypes_append, usedTypes_append, shared]
    split_ifs <;> simp only [wire, table, none, List.append_nil]
  have classId : usedTypes ["", idConstant classIdConstant cls.id] = [] := by
    rw [usedTypes_cons_blank]
    exact usedTypes_of_visible (by simp [idConstant])
  have constants :
      usedTypes (cls.methods.map fun method =>
        idConstant method.name.screaming method.id) = [] :=
    usedTypes_of_visible (by simp [idConstant])
  rw [inside_moduleLines, usedTypes_append, usedTypes_append, usedTypes_append,
    imports, classId, constants, usedTypes_flatMap,
    List.flatMap_congr fun method _ => usedTypes_memberLines cls.id method]
  rfl

theorem mem_signatureWords_iff :
    ∀ name ∈ preludeTypes,
      name ∈ signatureWords ↔ name = "Option" ∨ name = "Vec" := by
  decide

theorem targetType_eq_iff (type : WireType) :
    ∀ name ∈ preludeTypes,
      type.targetType {} = name ↔
        name = "String" ∧ (type = .shortString ∨ type = .longString) := by
  cases type <;> decide

theorem exists_targetType_iff
    {cls : ProtocolClass} {name : String} (prelude : name ∈ preludeTypes) :
    (∃ method ∈ cls.methods, ∃ field ∈ method.fields,
        field.type.targetType {} = name) ↔
      name = "String" ∧
        (cls.uses .shortString = true ∨ cls.uses .longString = true) := by
  simp only [targetType_eq_iff _ name prelude, ProtocolClass.uses, Method.uses,
    List.any_eq_true, beq_iff_eq]
  constructor
  · rintro ⟨method, member, field, inside, isText, short | long⟩
    · exact ⟨isText, .inl ⟨method, member, field, inside, short⟩⟩
    · exact ⟨isText, .inr ⟨method, member, field, inside, long⟩⟩
  · rintro ⟨isText, short | long⟩
    · obtain ⟨method, member, field, inside, short⟩ := short
      exact ⟨method, member, field, inside, isText, .inl short⟩
    · obtain ⟨method, member, field, inside, long⟩ := long
      exact ⟨method, member, field, inside, isText, .inr long⟩

/-- Of the types in scope by themselves every class module with a method says
two, and the type of texts where it has a field of it. -/
theorem mem_usedTypes_iff
    {cls : ProtocolClass} (filled : cls.methods ≠ []) {name : String}
    (prelude : name ∈ preludeTypes) :
    name ∈ usedTypes (inside (moduleLines {} cls)) ↔
      name = "Option" ∨ name = "Vec" ∨
        name = "String" ∧
          (cls.uses .shortString = true ∨ cls.uses .longString = true) := by
  rw [← exists_targetType_iff prelude, ← or_assoc, ← mem_signatureWords_iff name prelude]
  simp only [usedTypes_inside_moduleLines, List.mem_flatMap, List.mem_append,
    List.mem_map]
  constructor
  · rintro ⟨method, member, ofField | ofSignature⟩
    · exact .inr ⟨method, member, ofField⟩
    · exact .inl ofSignature
  · rintro (ofSignature | ⟨method, member, ofField⟩)
    · obtain ⟨method, member⟩ := List.exists_mem_of_ne_nil cls.methods filled
      exact ⟨method, member, .inr ofSignature⟩
    · exact ⟨method, member, .inl ofField⟩

/-! ## Values of a class module -/

theorem mem_block {line head : String} {body : List String} (member : line ∈ body) :
    indent line ∈ block head body := by
  rw [block, blockUntil]
  exact List.mem_append_left _
    (List.mem_cons_of_mem _ (List.mem_map_of_mem member))

def decodeLines (classId : UInt16) (method : Method) : List String :=
  let locals := ReadLocals.ofFields method.fields
  decodeRoutine classId method locals.reader
    ((statementsFrom locals 0 method.fields).map ReadStatement.text)

theorem mem_memberLines
    {classId : UInt16} {method : Method} {line : String}
    (member : line ∈ decodeLines classId method) :
    indent line ∈ memberLines classId {} method := by
  rw [memberLines, methodLines]
  refine List.mem_append_right _ (mem_block ?_)
  simp only [List.append_assoc]
  exact List.mem_append_left _ member

theorem none_mem_decodeLines (classId : UInt16) (method : Method) :
    indent (indent "return None;") ∈ decodeLines classId method := by
  rw [decodeLines, decodeRoutine]
  exact mem_block (List.mem_append_left _ (mem_block List.mem_cons_self))

theorem some_mem_decodeLines (classId : UInt16) (method : Method) :
    indent "Some(Self)" ∈ decodeLines classId method ∨
      indent "Some(Self \x7b" ∈ decodeLines classId method := by
  rw [decodeLines, decodeRoutine]
  by_cases unit : method.fields = []
  · rw [if_pos (List.isEmpty_iff.mpr unit)]
    exact .inl (mem_block (List.mem_append_right _ List.mem_cons_self))
  · rw [if_neg (by simpa using unit)]
    refine .inr (mem_block (List.mem_append_right _ ?_))
    exact List.mem_append_right _ List.mem_cons_self

/-- A reading routine gives back both forms of an optional value. -/
theorem mem_usedValues_of_mem
    {cls : ProtocolClass} {method : Method} (member : method ∈ cls.methods)
    {name : String} (prelude : name ∈ preludeValues) :
    name ∈ usedValues (inside (moduleLines {} cls)) := by
  have given {line : String} (inRoutine : line ∈ decodeLines cls.id method)
      (gives : usedValue? (indent line) = some name) :
      name ∈ usedValues (inside (moduleLines {} cls)) := by
    refine List.mem_filterMap.mpr ⟨indent line, ?_, gives⟩
    rw [inside_moduleLines]
    exact List.mem_append_right _
      (List.mem_flatMap.mpr ⟨method, member, mem_memberLines inRoutine⟩)
  rcases List.mem_pair.mp prelude with rfl | rfl
  · exact given (none_mem_decodeLines cls.id method) (by decide)
  · rcases some_mem_decodeLines cls.id method with closed | opened
    · exact given closed (by decide)
    · exact given opened (by decide)

/-! ## Names of a class module -/

/-- What is imported hides no type, so it comes down to the structures. -/
theorem typesKept_iff {cls : ProtocolClass} :
    (∀ name ∈ typeNames (items (inside (moduleLines {} cls))),
        name ∈ preludeTypes → name ∉ usedTypes (inside (moduleLines {} cls))) ↔
      ∀ method ∈ cls.methods,
        method.name.pascal ≠ "Option" ∧ method.name.pascal ≠ "Vec" ∧
          (cls.uses .shortString = true ∨ cls.uses .longString = true →
            method.name.pascal ≠ "String") := by
  have imported :
      ∀ name ∈ typeNames (importItems cls {}),
        name ∈ preludeTypes → name ∉ usedTypes (inside (moduleLines {} cls)) := by
    have other :
        ∀ name ∈ ["wire", "Method", "MethodFrame", "Table"], name ∉ preludeTypes := by
      decide
    intro name member prelude
    exact absurd prelude (other name ((imported_typeNames cls).subset member))
  rw [typeNames_inside_moduleLines, List.forall_mem_append, and_iff_right imported,
    List.forall_mem_map]
  refine forall₂_congr fun method member => ?_
  have used {name : String} (prelude : name ∈ preludeTypes) :=
    mem_usedTypes_iff (List.ne_nil_of_mem member) prelude
  constructor
  · intro kept
    refine ⟨fun same => ?_, fun same => ?_, fun texts same => ?_⟩
    · rw [same] at kept
      exact kept (by decide) ((used (by decide)).mpr (.inl rfl))
    · rw [same] at kept
      exact kept (by decide) ((used (by decide)).mpr (.inr (.inl rfl)))
    · rw [same] at kept
      exact kept (by decide) ((used (by decide)).mpr (.inr (.inr ⟨rfl, texts⟩)))
  · rintro ⟨notOption, notVec, notString⟩ prelude saying
    rcases (used prelude).mp saying with same | same | ⟨same, texts⟩
    · exact notOption same
    · exact notVec same
    · exact notString texts same

/-- Constants are written in capitals, so it comes down to the structures
without fields. -/
theorem valuesKept_iff
    {cls : ProtocolClass}
    (derived : ∀ method ∈ cls.methods, ∃ written,
      method.name = Name.ofText written) :
    (∀ name ∈ valueNames (items (inside (moduleLines {} cls))),
        name ∈ preludeValues → name ∉ usedValues (inside (moduleLines {} cls))) ↔
      ∀ method ∈ cls.methods, method.fields = [] →
        method.name.pascal ≠ "None" ∧ method.name.pascal ≠ "Some" := by
  rw [valueNames_inside_moduleLines]
  constructor
  · intro kept method member unit
    have free (prelude : method.name.pascal ∈ preludeValues) : False := by
      refine kept _ ?_ prelude (mem_usedValues_of_mem member prelude)
      exact List.mem_append_right _ (mem_unitNames.mpr ⟨method, member, unit, rfl⟩)
    exact ⟨fun same => free (by simp [same, preludeValues]),
      fun same => free (by simp [same, preludeValues])⟩
  · intro free name declared prelude
    -- Both forms have a small letter, and constants have none.
    have letters : 'e' ∈ name.toList := by
      rcases List.mem_pair.mp prelude with rfl | rfl <;> decide
    rcases List.mem_append.mp declared with given | unit
    · rcases List.mem_append.mp given with imported | constant
      · have other : ∀ name ∈ ["decode_table", "encode_table"], name ∉ preludeValues := by
          decide
        exact absurd prelude (other name ((imported_valueNames cls).subset imported))
      · rcases List.mem_cons.mp constant with rfl | ofMethod
        · exact absurd prelude (by decide)
        · obtain ⟨method, member, rfl⟩ := List.mem_map.mp ofMethod
          obtain ⟨written, spelled⟩ := derived method member
          rw [spelled] at letters
          exact absurd rfl
            (Name.screamingCase_ne_of_isLower letters (by decide) written)
    · obtain ⟨method, member, noFields, rfl⟩ := mem_unitNames.mp unit
      obtain ⟨notNone, notSome⟩ := free method member noFields
      rcases List.mem_pair.mp prelude with same | same
      · exact absurd same notNone
      · exact absurd same notSome

theorem keepsPrelude_inside_moduleLines_iff
    {cls : ProtocolClass}
    (derived : ∀ method ∈ cls.methods, ∃ written,
      method.name = Name.ofText written) :
    KeepsPrelude (inside (moduleLines {} cls)) ↔
      ∀ method ∈ cls.methods,
        (method.name.pascal ≠ "Option" ∧ method.name.pascal ≠ "Vec" ∧
          (cls.uses .shortString = true ∨ cls.uses .longString = true →
            method.name.pascal ≠ "String")) ∧
          (method.fields = [] →
            method.name.pascal ≠ "None" ∧ method.name.pascal ≠ "Some") := by
  rw [forall₂_and, ← typesKept_iff, ← valuesKept_iff derived]
  exact ⟨fun kept => ⟨kept.types, kept.values⟩, fun ⟨types, values⟩ => ⟨types, values⟩⟩

end Source

open Source

/-- A class module of a generated file hides a name that it uses exactly if one
of its structures is named for optional values, for buffers, for texts beside a
field of text, or, without fields, for a form of an optional value.  Names are
compared as the texts that stand in the file, so `Option` with a space behind it and
`r#Option` are other names. -/
theorem keepsPrelude_generated_iff
    {spec : Spec} {protocol : Protocol} {text : String}
    (accepted : spec.resolve.outcome = .ok protocol)
    (generated : (protocol.generate {}).outcome = .ok text) :
    text = joinSections ((sections protocol {}).map joinLines) ∧
      ∀ cls ∈ protocol.classes,
        (KeepsPrelude (inside (moduleLines {} cls)) ↔
          ∀ method ∈ cls.methods,
            (method.name.pascal ≠ "Option" ∧ method.name.pascal ≠ "Vec" ∧
              (cls.uses .shortString = true ∨ cls.uses .longString = true →
                method.name.pascal ≠ "String")) ∧
              (method.fields = [] →
                method.name.pascal ≠ "None" ∧ method.name.pascal ≠ "Some")) := by
  obtain ⟨_, resolves, _⟩ := Spec.resolves_of_resolve accepted
  obtain ⟨_, written⟩ := Protocol.free_of_generate generated
  exact ⟨written, fun cls member =>
    keepsPrelude_inside_moduleLines_iff (resolves.derived member)⟩

/-- A document with methods that are named for what their module does not use:
the type of texts beside no field of it, and a form of an optional value with a
field. -/
def nearlyHiding : Spec where
  name := none
  majorVersion := none
  minorVersion := none
  revision := none
  tcpPort := none
  domains := []
  classes :=
    [⟨90, "tx",
      [⟨10, "string", none, []⟩, ⟨11, "some", none, [⟨"flag", some "bit", none⟩]⟩]⟩]

def nearlyHidingProtocol : Protocol where
  info := ⟨none, none, none⟩
  domains := []
  classes :=
    [⟨90, Name.ofText "tx",
      [⟨10, 90, Name.ofText "string", "tx.string", false, []⟩,
        ⟨11, 90, Name.ofText "some", "tx.some", false,
          [⟨Name.ofText "flag", .bit, none⟩]⟩]⟩]

theorem keepsPrelude_generated_nearlyHiding :
    nearlyHiding.resolve.outcome = .ok nearlyHidingProtocol ∧
      (nearlyHidingProtocol.generate {}).outcome =
        .ok (sectionsText nearlyHidingProtocol {}) ∧
      ∀ cls ∈ nearlyHidingProtocol.classes,
        KeepsPrelude (inside (moduleLines {} cls)) := by
  have accepted : nearlyHiding.resolve.outcome = .ok nearlyHidingProtocol := by
    rfl
  have generated :
      (nearlyHidingProtocol.generate {}).outcome =
        .ok (sectionsText nearlyHidingProtocol {}) := by
    have free : nearlyHidingProtocol.importCollision? "Table" = none := by
      decide
    rw [Protocol.generate_eq, free]
  obtain ⟨_, kept⟩ := keepsPrelude_generated_iff accepted generated
  refine ⟨accepted, generated, fun cls member => (kept cls member).mpr ?_⟩
  obtain rfl := List.mem_singleton.mp member
  decide

/-- A document with a method that is named for the type of optional values, and
one that is named for a form of them. -/
def hidingOption : Spec where
  name := none
  majorVersion := none
  minorVersion := none
  revision := none
  tcpPort := none
  domains := []
  classes := [⟨60, "basic", [⟨10, "option", none, []⟩, ⟨11, "none", none, []⟩]⟩]

theorem not_keepsPrelude_hidingOption :
    ∃ protocol text,
      hidingOption.resolve.outcome = .ok protocol ∧
        (protocol.generate {}).outcome = .ok text ∧
        text = joinSections ((sections protocol {}).map joinLines) ∧
        ∃ cls ∈ protocol.classes,
          "Option" ∈ typeNames (items (inside (moduleLines {} cls))) ∧
            "Option" ∈ usedTypes (inside (moduleLines {} cls)) ∧
            "None" ∈ valueNames (items (inside (moduleLines {} cls))) ∧
            "None" ∈ usedValues (inside (moduleLines {} cls)) := by
  let option : Method := ⟨10, 60, Name.ofText "option", "basic.option", false, []⟩
  let none : Method := ⟨11, 60, Name.ofText "none", "basic.none", false, []⟩
  let cls : ProtocolClass := ⟨60, Name.ofText "basic", [option, none]⟩
  let protocol : Protocol := ⟨⟨.none, .none, .none⟩, [], [cls]⟩
  have accepted : hidingOption.resolve.outcome = .ok protocol := by
    rfl
  have free : protocol.importCollision? "Table" = .none := by
    decide
  have generated :
      (protocol.generate {}).outcome = .ok (sectionsText protocol {}) := by
    rw [Protocol.generate_eq, free]
  have types : "Option" ∈ typeNames (items (inside (moduleLines {} cls))) := by
    rw [typeNames_inside_moduleLines]
    exact List.mem_append_right _ (by decide)
  have values : "None" ∈ valueNames (items (inside (moduleLines {} cls))) := by
    rw [valueNames_inside_moduleLines]
    exact List.mem_append_right _ (by decide)
  have member : option ∈ cls.methods := List.mem_cons_self
  exact ⟨protocol, _, accepted, generated, rfl, cls, List.mem_cons_self, types,
    (mem_usedTypes_iff (List.ne_nil_of_mem member) (by decide)).mpr (.inl rfl), values,
    mem_usedValues_of_mem member (by decide)⟩

end MethodCodec
