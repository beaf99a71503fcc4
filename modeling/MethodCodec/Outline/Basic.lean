/-!
Trees of data to be shown in one format or another. A record has one order of
its members, that of their keys, so equal data are equal trees.
-/

namespace MethodCodec

/-- A tree of data. -/
inductive Outline
  | nothing
  | flag (value : Bool)
  | number (value : Nat)
  | text (value : String)
  | list (items : List Outline)
  | record (members : List (String × Outline))

namespace Outline

/-- The record with the given members, put into the order of their keys. -/
def ofMembers (members : List (String × Outline)) : Outline :=
  record (members.mergeSort fun first second => first.1 ≤ second.1)

/-- Data that may be missing. -/
def optional {α : Type} (outline : α → Outline) : Option α → Outline
  | some value => outline value
  | none => nothing

end Outline

end MethodCodec
