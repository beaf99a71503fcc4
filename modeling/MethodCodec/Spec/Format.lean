import MethodCodec.Spec.Basic

/-!
Reading the content of a document off a tree of values. What kinds of value
there are and how reading fails is up to the format; which records there are
and what fields they have is said here, once for all formats.
-/

namespace MethodCodec

/-- A field of a record, seen from a record that is filled field by field. -/
structure Slot (ν : Type) (m : Type → Type) (δ : Type) where
  key : String
  /-- Whether a record without the field is refused. -/
  required : Bool
  isFilled : δ → Bool
  fill : ν → δ → m δ

/-- What a format reads: `ν` are its values, and `m` says how reading fails. -/
structure Format (ν : Type) (m : Type → Type) where
  text : ν → m String
  flag : ν → m Bool
  /-- A whole number from zero to `limit`, which belongs to the type named. -/
  natural : (typeName : String) → (limit : Nat) → ν → m Nat
  optional : {α : Type} → (ν → m α) → ν → m (Option α)
  list : {α : Type} → (ν → m α) → ν → m (List α)
  pair : {α β : Type} → (ν → m α) → (ν → m β) → ν → m (α × β)
  /-- A record with the given slots, filled from a start; finishing gives the
  record or the key of a required field that is missing. -/
  record : {δ α : Type} → (name : String) → List (Slot ν m δ) → (start : δ) →
    (finish : δ → Except String α) → ν → m α

namespace Slot

variable {ν : Type} {m : Type → Type} [Monad m] {δ α : Type}

/-- A slot by how it is read from a value, read off a record, and set. -/
def ofField (key : String) (required : Bool) (read : ν → m α)
    (get : δ → Option α) (set : α → δ → δ) : Slot ν m δ where
  key := key
  required := required
  isFilled := fun draft => (get draft).isSome
  fill := fun value draft => do return set (← read value) draft

end Slot

/-- The content of a required field, or its key. -/
def requireField {α : Type} (key : String) : Option α → Except String α
  | some value => .ok value
  | none => .error key

/-! ## Records that are being filled -/

/-- The fields of an argument that have been met. -/
structure ArgumentDraft where
  name : Option String := none
  type : Option (Option String) := none
  domain : Option (Option String) := none

/-- An argument has to have a name. -/
def ArgumentDraft.finish (draft : ArgumentDraft) : Except String ArgumentSpec := do
  let name ← requireField "name" draft.name
  return { name, type := draft.type.getD none, domain := draft.domain.getD none }

/-- The fields of a method that have been met. -/
structure MethodDraft where
  id : Option Nat := none
  name : Option String := none
  synchronous : Option (Option Bool) := none
  arguments : Option (List ArgumentSpec) := none

/-- A method has to have an id and a name. -/
def MethodDraft.finish (draft : MethodDraft) : Except String MethodSpec := do
  let id ← requireField "id" draft.id
  let name ← requireField "name" draft.name
  return {
    id := UInt16.ofNat id
    name
    synchronous := draft.synchronous.getD none
    arguments := draft.arguments.getD [] }

/-- The fields of a class that have been met. -/
structure ClassDraft where
  id : Option Nat := none
  name : Option String := none
  methods : Option (List MethodSpec) := none

/-- A class has to have an id and a name. -/
def ClassDraft.finish (draft : ClassDraft) : Except String ClassSpec := do
  let id ← requireField "id" draft.id
  let name ← requireField "name" draft.name
  return { id := UInt16.ofNat id, name, methods := draft.methods.getD [] }

/-- The fields of a document that have been met. -/
structure SpecDraft where
  name : Option (Option String) := none
  majorVersion : Option (Option Nat) := none
  minorVersion : Option (Option Nat) := none
  revision : Option (Option Nat) := none
  tcpPort : Option (Option Nat) := none
  domains : Option (List (String × String)) := none
  classes : Option (List ClassSpec) := none

/-- A document has to have domains and classes. -/
def SpecDraft.finish (draft : SpecDraft) : Except String Spec := do
  let domains ← requireField "domains" draft.domains
  let classes ← requireField "classes" draft.classes
  return {
    name := draft.name.getD none
    majorVersion := (draft.majorVersion.getD none).map UInt8.ofNat
    minorVersion := (draft.minorVersion.getD none).map UInt8.ofNat
    revision := (draft.revision.getD none).map UInt8.ofNat
    tcpPort := (draft.tcpPort.getD none).map UInt16.ofNat
    domains
    classes }

/-! ## The records of a document -/

namespace Format

variable {ν : Type} {m : Type → Type} [Monad m] (format : Format ν m)

/-- A number of eight bits. -/
def byte (value : ν) : m Nat :=
  format.natural "u8" 255 value

/-- A number of sixteen bits. -/
def word (value : ν) : m Nat :=
  format.natural "u16" 65535 value

/-- The fields of an argument. -/
def argumentSlots : List (Slot ν m ArgumentDraft) :=
  [.ofField "name" true format.text (·.name) fun value draft => { draft with name := some value },
    .ofField "type" false (format.optional format.text) (·.type)
      fun value draft => { draft with type := some value },
    .ofField "domain" false (format.optional format.text) (·.domain)
      fun value draft => { draft with domain := some value }]

/-- The argument record. -/
def argument : ν → m ArgumentSpec :=
  format.record "ArgumentDef" format.argumentSlots {} ArgumentDraft.finish

/-- The fields of a method. -/
def methodSlots : List (Slot ν m MethodDraft) :=
  [.ofField "id" true format.word (·.id) fun value draft => { draft with id := some value },
    .ofField "name" true format.text (·.name) fun value draft => { draft with name := some value },
    .ofField "synchronous" false (format.optional format.flag) (·.synchronous)
      fun value draft => { draft with synchronous := some value },
    .ofField "arguments" false (format.list format.argument) (·.arguments)
      fun value draft => { draft with arguments := some value }]

/-- The method record. -/
def method : ν → m MethodSpec :=
  format.record "MethodDef" format.methodSlots {} MethodDraft.finish

/-- The fields of a class. -/
def classSlots : List (Slot ν m ClassDraft) :=
  [.ofField "id" true format.word (·.id) fun value draft => { draft with id := some value },
    .ofField "name" true format.text (·.name) fun value draft => { draft with name := some value },
    .ofField "methods" false (format.list format.method) (·.methods)
      fun value draft => { draft with methods := some value }]

/-- The class record. -/
def classRecord : ν → m ClassSpec :=
  format.record "ClassDef" format.classSlots {} ClassDraft.finish

/-- The fields of a document. -/
def specSlots : List (Slot ν m SpecDraft) :=
  [.ofField "name" false (format.optional format.text) (·.name)
      fun value draft => { draft with name := some value },
    .ofField "major-version" false (format.optional format.byte) (·.majorVersion)
      fun value draft => { draft with majorVersion := some value },
    .ofField "minor-version" false (format.optional format.byte) (·.minorVersion)
      fun value draft => { draft with minorVersion := some value },
    .ofField "revision" false (format.optional format.byte) (·.revision)
      fun value draft => { draft with revision := some value },
    .ofField "port" false (format.optional format.word) (·.tcpPort)
      fun value draft => { draft with tcpPort := some value },
    .ofField "domains" true (format.list (format.pair format.text format.text)) (·.domains)
      fun value draft => { draft with domains := some value },
    .ofField "classes" true (format.list format.classRecord) (·.classes)
      fun value draft => { draft with classes := some value }]

/-- The content of a whole document. -/
def spec : ν → m Spec :=
  format.record "ProtocolSpec" format.specSlots {} SpecDraft.finish

end Format

end MethodCodec
