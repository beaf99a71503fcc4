import MethodCodec.Outline.Basic
import MethodCodec.Spec.Basic

/-!
Documents as outlines, with their fields in the order of declaration. A field
that says nothing has no member; lists always have one.
-/

namespace MethodCodec

/-- A member for a field that may be missing, before other members. -/
def Outline.optionalMember {α : Type} (key : String) (outline : α → Outline)
    (field : Option α) (rest : List (String × Outline)) :
    List (String × Outline) :=
  match field with
  | some value => (key, outline value) :: rest
  | none => rest

open Outline

def ArgumentSpec.outline (argument : ArgumentSpec) : Outline :=
  .record (("name", .text argument.name) ::
    optionalMember "type" .text argument.type
      (optionalMember "domain" .text argument.domain []))

def MethodSpec.outline (method : MethodSpec) : Outline :=
  .record (("id", .number method.id.toNat) :: ("name", .text method.name) ::
    optionalMember "synchronous" .flag method.synchronous
      [("arguments", .list (method.arguments.map ArgumentSpec.outline))])

def ClassSpec.outline (cls : ClassSpec) : Outline :=
  .record [
    ("id", .number cls.id.toNat),
    ("name", .text cls.name),
    ("methods", .list (cls.methods.map MethodSpec.outline))]

/-- An alias and the word for its type. -/
def domainOutline (domain : String × String) : Outline :=
  .list [.text domain.1, .text domain.2]

def Spec.outline (spec : Spec) : Outline :=
  .record (optionalMember "name" .text spec.name
    (optionalMember "major-version" .number (spec.majorVersion.map UInt8.toNat)
      (optionalMember "minor-version" .number (spec.minorVersion.map UInt8.toNat)
        (optionalMember "revision" .number (spec.revision.map UInt8.toNat)
          (optionalMember "port" .number (spec.tcpPort.map UInt16.toNat)
            [("domains", .list (spec.domains.map domainOutline)),
              ("classes", .list (spec.classes.map ClassSpec.outline))])))))

end MethodCodec
