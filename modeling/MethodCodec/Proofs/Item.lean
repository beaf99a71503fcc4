import Mathlib
import MethodCodec.Proofs.MethodTable
import MethodCodec.Source.ClassModule

/-!
# Items of the generated source

Lines of the generated file, read for the names that they bring into scope.  A
line is read by its first words alone, so nothing in the reading knows what the
line was written for.
-/

namespace MethodCodec.Source

/-! ## Items -/

/-- An item by the line it begins with. -/
inductive Item
  | trait (name : String)
  | function (name : String)
  | struct (name : String)
  /-- A structure without fields, which is a value too. -/
  | unitStruct (name : String)
  | submodule (name : String)
  | constant (name : String)
  | imports (names : List String)
  deriving DecidableEq

/-- The names that are imported as functions. -/
def importedFunctions : List String := ["decode_table", "encode_table"]

namespace Item

def typeNames : Item → List String
  | trait name | struct name | unitStruct name | submodule name => [name]
  | function _ | constant _ => []
  | imports names => names.filter (· ∉ importedFunctions)

def valueNames : Item → List String
  | function name | unitStruct name | constant name => [name]
  | trait _ | struct _ | submodule _ => []
  | imports names => names.filter (· ∈ importedFunctions)

/-- The names at the end of a path: one, or several between braces. -/
def readPath (path : List Char) : List String :=
  let last := (path.reverse.takeWhile (· ≠ ':')).reverse
  let names := last.filter (· ∉ ['\x7b', '\x7d', ' '])
  (names.splitOn ',').map String.ofList

/-- The name of a constant, from the text up to its final semicolon. -/
def readConstant? (text : List Char) : Option (List Char) :=
  (text.reverse.dropWhile Char.isDigit).reverse.dropSuffix? ": u16 = ".toList

/-- A public item by its keyword and what stands behind it. -/
def readPublic? (keyword : String) (rest : List Char) : Option Item :=
  if keyword = "trait" then
    some (trait (String.ofList (rest.takeWhile (· ≠ ':'))))
  else if keyword = "fn" then
    some (function (String.ofList (rest.takeWhile (· ≠ '('))))
  else if keyword = "mod" then
    (rest.dropSuffix? " \x7b".toList).map (submodule ∘ String.ofList)
  else if keyword = "struct" then
    (rest.dropSuffix? " \x7b".toList).map (struct ∘ String.ofList)
      <|> (rest.dropSuffix? ";".toList).map (unitStruct ∘ String.ofList)
  else if keyword = "const" then
    ((rest.dropSuffix? ";".toList).bind readConstant?).map
      (constant ∘ String.ofList)
  else
    none

/-- The item that a line begins, if it begins one. -/
def ofLine? (line : String) : Option Item := do
  let (word, rest) ← cutAt ' ' line.toList
  if word = "use".toList then
    return imports (readPath (rest.takeWhile (· ≠ ';')))
  else if word = "pub".toList then
    let (keyword, rest) ← cutAt ' ' rest
    readPublic? (String.ofList keyword) rest
  else
    none

end Item

/-- The items that begin on lines without indentation. -/
def items (lines : List String) : List Item :=
  lines.filterMap Item.ofLine?

/-- The names of types among items. -/
def typeNames (items : List Item) : List String :=
  items.flatMap Item.typeNames

/-- The names of values among items. -/
def valueNames (items : List Item) : List String :=
  items.flatMap Item.valueNames

/-- A line without its first step of indentation. -/
def unindent? (line : String) : Option String :=
  if line = "" then some ""
  else (line.toList.dropPrefix? "    ".toList).map String.ofList

/-- The lines between the braces of a block. -/
def inside (lines : List String) : List String :=
  lines.filterMap unindent?

/-- The name of a field, from its line in a structure. -/
def readFieldName? (line : String) : Option String := do
  let line ← unindent? line
  let (word, rest) ← cutAt ' ' line.toList
  if word = "pub".toList then
    let text := (rest.reverse.dropWhile (· ≠ ' ')).reverse
    (text.dropSuffix? ": ".toList).map String.ofList
  else
    none

/-- The structures with fields among the items of a module, each with the names
of its fields. -/
def structures : List String → List (String × List String)
  | [] => []
  | line :: rest =>
      match Item.ofLine? line with
      | some (.struct name) =>
          (name, (rest.takeWhile (· ≠ "\x7d")).filterMap readFieldName?) ::
            structures rest
      | _ => structures rest

/-! ## Lines that begin no item -/

theorem head?_of_cutAt
    {text word back : List Char} (cut : cutAt ' ' text = some (word, back))
    (filled : word ≠ []) :
    text.head? = word.head? := by
  cases text with
  | nil => cases cut
  | cons c rest =>
      rw [cutAt] at cut
      by_cases blank : c = ' '
      · rw [if_pos blank, Option.some.injEq, Prod.mk.injEq] at cut
        exact absurd cut.1.symm filled
      · rw [if_neg blank, Option.map_eq_some_iff] at cut
        obtain ⟨_, _, same⟩ := cut
        rw [← (Prod.mk.inj same).1]
        rfl

/-- A line that begins an item begins with `u` or with `p`. -/
theorem ofLine?_of_head
    {line : String} (notUse : line.toList.head? ≠ some 'u')
    (notPublic : line.toList.head? ≠ some 'p') :
    Item.ofLine? line = none := by
  rw [Item.ofLine?]
  cases cut : cutAt ' ' line.toList with
  | none => rfl
  | some pair =>
      obtain ⟨word, back⟩ := pair
      have other : word ≠ "use".toList ∧ word ≠ "pub".toList := by
        constructor
        · rintro rfl
          exact notUse (head?_of_cutAt cut (by decide))
        · rintro rfl
          exact notPublic (head?_of_cutAt cut (by decide))
      simp only [Option.bind_eq_bind, Option.bind_some]
      rw [if_neg other.1, if_neg other.2]

@[simp]
theorem ofLine?_empty : Item.ofLine? "" = none := by
  decide

theorem ofLine?_indent (line : String) :
    Item.ofLine? (indent line) = none := by
  rw [indent]
  split_ifs with empty
  · rw [String.isEmpty_iff.mp empty]
    exact ofLine?_empty
  · exact ofLine?_of_head (by simp) (by simp)

@[simp]
theorem items_map_indent (lines : List String) :
    items (lines.map indent) = [] := by
  refine List.filterMap_eq_nil_iff.mpr fun line member => ?_
  obtain ⟨inner, _, rfl⟩ := List.mem_map.mp member
  exact ofLine?_indent inner

theorem items_cons_of_none
    {line : String} (none : Item.ofLine? line = none) (rest : List String) :
    items (line :: rest) = items rest :=
  List.filterMap_cons_none none

@[simp]
theorem items_append (front back : List String) :
    items (front ++ back) = items front ++ items back :=
  List.filterMap_append

theorem items_flatMap {α : Type} (sources : List α) (lines : α → List String) :
    items (sources.flatMap lines) =
      sources.flatMap fun source => items (lines source) :=
  List.filterMap_flatMap

/-- Where each part of a text begins one item. -/
theorem items_flatMap_of_single
    {α : Type} {lines : α → List String} {item : α → Item}
    (single : ∀ part, items (lines part) = [item part]) (parts : List α) :
    items (parts.flatMap lines) = parts.map item := by
  rw [items_flatMap, List.flatMap_congr fun part _ => single part]
  exact List.map_eq_flatMap.symm

/-- Of a block only the head can begin an item. -/
theorem items_block (head : String) (body : List String) :
    items (block head body) =
      (Item.ofLine? (head ++ " \x7b")).toList := by
  have closing : items ["\x7d"] = [] := by decide
  have rest : items (body.map indent ++ ["\x7d"]) = [] := by
    rw [items_append, items_map_indent, closing]
    rfl
  rw [block, blockUntil, List.cons_append, items, List.filterMap_cons]
  cases Item.ofLine? (head ++ " \x7b") with
  | none => exact rest
  | some item => exact congrArg (item :: ·) rest

/-! ## Lines that begin an item -/

@[simp]
theorem dropSuffix?_append {α : Type} [BEq α] [LawfulBEq α] (text ending : List α) :
    (text ++ ending).dropSuffix? ending = some text := by
  rw [List.dropSuffix?_eq_some_iff]
  exact ⟨ending, rfl, beq_self_eq_true ending⟩

theorem ofLine?_public
    {keyword : String} (word : ' ' ∉ keyword.toList) (rest : String) :
    Item.ofLine? ("pub " ++ keyword ++ " " ++ rest) =
      Item.readPublic? keyword rest.toList := by
  have first :
      cutAt ' ' ("pub " ++ keyword ++ " " ++ rest).toList =
        some ("pub".toList, keyword.toList ++ ' ' :: rest.toList) := by
    have solid : ' ' ∉ "pub".toList := by decide
    have cut := cutAt_append solid (keyword.toList ++ ' ' :: rest.toList)
    simpa using cut
  have notUse : "pub".toList ≠ "use".toList := by decide
  rw [Item.ofLine?, first]
  simp only [Option.bind_eq_bind, Option.bind_some]
  rw [if_neg notUse, if_pos trivial, cutAt_append word, Option.bind_some,
    String.ofList_toList]

theorem ofLine?_submodule (name : String) :
    Item.ofLine? ("pub mod " ++ name ++ " \x7b") = some (.submodule name) := by
  have line :
      "pub mod " ++ name ++ " \x7b" =
        "pub " ++ "mod" ++ " " ++ (name ++ " \x7b") := by
    apply String.toList_inj.mp
    simp
  rw [line, ofLine?_public (by decide), Item.readPublic?, if_neg (by decide),
    if_neg (by decide), if_pos rfl, String.toList_append, dropSuffix?_append]
  simp

theorem ofLine?_struct (name : String) :
    Item.ofLine? ("pub struct " ++ name ++ " \x7b") = some (.struct name) := by
  have line :
      "pub struct " ++ name ++ " \x7b" =
        "pub " ++ "struct" ++ " " ++ (name ++ " \x7b") := by
    apply String.toList_inj.mp
    simp
  rw [line, ofLine?_public (by decide), Item.readPublic?, if_neg (by decide),
    if_neg (by decide), if_neg (by decide), if_pos rfl, String.toList_append,
    dropSuffix?_append]
  simp

theorem ofLine?_unitStruct (name : String) :
    Item.ofLine? ("pub struct " ++ name ++ ";") = some (.unitStruct name) := by
  have line :
      "pub struct " ++ name ++ ";" =
        "pub " ++ "struct" ++ " " ++ (name ++ ";") := by
    apply String.toList_inj.mp
    simp
  have noBrace :
      (name.toList ++ ";".toList).dropSuffix? " \x7b".toList = none := by
    rw [Option.eq_none_iff_forall_ne_some]
    intro text found
    obtain ⟨ending, same, matched⟩ := List.dropSuffix?_eq_some_iff.mp found
    rw [eq_of_beq matched] at same
    have last := congrArg List.getLast? same
    simp at last
  rw [line, ofLine?_public (by decide), Item.readPublic?, if_neg (by decide),
    if_neg (by decide), if_neg (by decide), if_pos rfl, String.toList_append,
    noBrace, dropSuffix?_append]
  simp

theorem readConstant?_decimal (name : List Char) (number : Nat) :
    Item.readConstant?
        (name ++ ": u16 = ".toList ++ Text.numeral 10 number) =
      some name := by
  have digits :
      ∀ c ∈ (Text.numeral 10 number).reverse, c.isDigit = true := by
    intro c member
    obtain ⟨digit, below, rfl⟩ :=
      Text.mem_numeral (by norm_num) (List.mem_reverse.mp member)
    interval_cases digit <;> rfl
  rw [Item.readConstant?, List.reverse_append,
    List.dropWhile_append_of_pos digits]
  have stop :
      (name ++ ": u16 = ".toList).reverse.dropWhile Char.isDigit =
        (name ++ ": u16 = ".toList).reverse := by
    rw [List.reverse_append]
    rfl
  rw [stop, List.reverse_reverse, dropSuffix?_append]

theorem ofLine?_idConstant (name : String) (id : UInt16) :
    Item.ofLine? (idConstant name id) = some (.constant name) := by
  have line :
      idConstant name id =
        "pub " ++ "const" ++ " " ++
          (name ++ ": u16 = " ++ Text.decimal id.toNat ++ ";") := by
    apply String.toList_inj.mp
    simp [idConstant]
  have text :
      (name ++ ": u16 = " ++ Text.decimal id.toNat ++ ";").toList =
        name.toList ++ ": u16 = ".toList ++ Text.numeral 10 id.toNat ++
          ";".toList := by
    simp [Text.decimal]
  rw [line, ofLine?_public (by decide), Item.readPublic?, if_neg (by decide),
    if_neg (by decide), if_neg (by decide), if_neg (by decide), if_pos rfl,
    text, dropSuffix?_append, Option.bind_some, readConstant?_decimal]
  simp

/-! ## Inside a block -/

theorem unindent?_indent (line : String) : unindent? (indent line) = some line := by
  rw [indent]
  by_cases empty : line = ""
  · subst empty
    rfl
  · have nonempty : ¬ line.isEmpty := by simpa using empty
    have letters : "    " ++ line ≠ "" := by simp
    have stripped :
        ("    " ++ line).toList.dropPrefix? "    ".toList = some line.toList := by
      rw [List.dropPrefix?_eq_some_iff]
      exact ⟨"    ".toList, by simp, by simp⟩
    rw [if_neg nonempty, unindent?, if_neg letters, stripped, Option.map_some,
      String.ofList_toList]

@[simp]
theorem inside_map_indent (lines : List String) :
    inside (lines.map indent) = lines := by
  rw [inside, List.filterMap_map]
  have each : unindent? ∘ indent = some := funext unindent?_indent
  rw [each, List.filterMap_some]

theorem unindent?_of_visible
    {line : String} (visible : ∃ c, line.toList.head? = some c ∧ c ≠ ' ') :
    unindent? line = none := by
  obtain ⟨c, first, visible⟩ := visible
  have nonempty : line ≠ "" := by
    rintro rfl
    cases first
  have unmatched : line.toList.dropPrefix? "    ".toList = none := by
    rw [Option.eq_none_iff_forall_ne_some]
    intro text found
    obtain ⟨front, same, matched⟩ := List.dropPrefix?_eq_some_iff.mp found
    have blank : line.toList.head? = some ' ' := by
      rw [same, eq_of_beq matched]
      rfl
    rw [first, Option.some.injEq] at blank
    exact visible blank
  rw [unindent?, if_neg nonempty, unmatched]
  rfl

theorem inside_block
    {head : String}
    (visible : ∃ c, head.toList.head? = some c ∧ c ≠ ' ')
    (body : List String) :
    inside (block head body) = body := by
  have opening : unindent? (head ++ " \x7b") = none := by
    obtain ⟨c, first, visible⟩ := visible
    refine unindent?_of_visible ⟨c, ?_, visible⟩
    rw [String.toList_append, List.head?_append, first, Option.some_or]
  have closing : inside ["\x7d"] = [] := by decide
  rw [block, blockUntil, List.cons_append, inside, List.filterMap_cons, opening]
  change inside (body.map indent ++ ["\x7d"]) = body
  rw [inside, List.filterMap_append]
  change inside (body.map indent) ++ inside ["\x7d"] = body
  rw [inside_map_indent, closing, List.append_nil]

end MethodCodec.Source
