import MethodCodec.Spec.Format
import MethodCodec.Yaml.Node
import MethodCodec.Yaml.PlainWord

/-!
Reading records off YAML documents. The kind of a scalar is up to the reader: any
scalar is a text, but only plain ones are flags or numbers. What is left out
stands for an empty list and for a record without fields.
-/

namespace MethodCodec.Yaml

/-- How often an alias may be followed for each node of a document. -/
def jumpsPerNode : Nat := 100

/-- Readings that count the aliases that may still be followed. -/
abbrev Reading := StateT Nat Option

namespace Document

variable (document : Document)

/-- The node that an alias stands for. -/
def jump (anchor : Nat) : Reading Node := do
  match ← get, document.anchors.lookup anchor with
  | left + 1, some node =>
      set left
      return node
  | _, _ => failure

/-- Reads what a node or the node of its alias holds. -/
def reading {α : Type} (read : Node → Reading α) : Node → Reading α
  | .reference anchor => do
      let node ← document.jump anchor
      read node
  | node => read node

end Document

/-! ## Values -/

/-- Reads a text, which any scalar is. -/
def readText : Node → Reading String
  | .scalar _ _ text => return String.ofList text
  | _ => failure

/-- Whether a scalar can be other than text: if it is plain, or literal with
the tag of the kind. -/
def canBe (kind : String) (tag : Option (List Char)) : ScalarStyle → Bool
  | .plain => true
  | .literal => tag == some ("tag:yaml.org,2002:" ++ kind).toList
  | _ => false

/-- Reads a flag. -/
def readFlag : Node → Reading Bool
  | .scalar tag style text => do
      guard (canBe "bool" tag style)
      liftM (PlainWord.readFlag? text)
  | _ => failure

/-- Reads a whole number up to a limit. -/
def readNatural (limit : Nat) : Node → Reading Nat
  | .scalar tag style text => do
      guard (canBe "int" tag style)
      let number ← liftM (PlainWord.readNatural? text)
      guard (number ≤ limit)
      return number
  | _ => failure

/-- Whether a node says that there is no value; fails if its tag says so and
its text does not. -/
def isNothing : Node → Reading Bool
  | .scalar tag .plain text =>
      match tag with
      | none => return text.isEmpty || PlainWord.isNull text
      | some tag =>
          if tag = "tag:yaml.org,2002:null".toList then do
            guard (PlainWord.isNull text)
            return true
          else return false
  | _ => return false

/-- Reads a value where there may be none. -/
def readOptional {α : Type} (read : Node → Reading α) (node : Node) : Reading (Option α) := do
  if ← isNothing node then return none
  else return some (← read node)

/-- The items of a sequence; what is left out has none. -/
def itemsOf : Node → Reading (List Node)
  | .sequence items => return items
  | .scalar _ .plain [] => return []
  | _ => failure

/-- Reads the items of a sequence. -/
def readList {α : Type} (read : Node → Reading α) (node : Node) : Reading (List α) := do
  (← itemsOf node).mapM read

/-- Reads a sequence of two items. -/
def readPair {α β : Type} (readFirst : Node → Reading α) (readSecond : Node → Reading β)
    (node : Node) : Reading (α × β) := do
  match ← itemsOf node with
  | [first, second] =>
      let first ← readFirst first
      let second ← readSecond second
      return (first, second)
  | _ => failure

/-! ## Records -/

/-- The members of a mapping; what is left out has none. -/
def membersOf : Node → Reading (List (Node × Node))
  | .mapping members => return members
  | .scalar _ .plain [] => return []
  | _ => failure

/-- Takes up a member of a mapping. Members that no slot has the key of are
passed over. -/
def fillMember {δ : Type} (readKey : Node → Reading String) (slots : List (Slot Node Reading δ))
    (draft : δ) (member : Node × Node) : Reading δ := do
  let key ← readKey member.1
  match slots.find? fun slot => slot.key == key with
  | none => return draft
  | some slot =>
      guard !(slot.isFilled draft)
      slot.fill member.2 draft

/-- Reads a mapping whose keys are texts. -/
def readRecord {δ α : Type} (readKey : Node → Reading String) (slots : List (Slot Node Reading δ))
    (start : δ) (finish : δ → Except String α) (node : Node) : Reading α := do
  let draft ← (← membersOf node).foldlM (fillMember readKey slots) start
  match finish draft with
  | .ok record => return record
  | .error _ => failure

/-- A YAML document as a document format. -/
def Document.format (document : Document) : MethodCodec.Format Node Reading where
  text := document.reading readText
  flag := document.reading readFlag
  natural := fun _ limit => document.reading (readNatural limit)
  optional := fun read => document.reading (readOptional read)
  list := fun read => document.reading (readList read)
  pair := fun readFirst readSecond => document.reading (readPair readFirst readSecond)
  record := fun _ slots start finish =>
    document.reading (readRecord (document.reading readText) slots start finish)

/-! ## Documents -/

/-- Reads what the root of a text's only document holds. -/
def readRoot {α : Type} (read : MethodCodec.Format Node Reading → Node → Reading α)
    (input : String) : Option α := do
  let document ← Document.ofText? input
  (read document.format document.root).run' (jumpsPerNode * document.size)

/-- The content of a protocol document. -/
def specOfText : String → Option Spec :=
  readRoot MethodCodec.Format.spec

end MethodCodec.Yaml
