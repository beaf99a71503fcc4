import MethodCodec.Outline.Basic
import MethodCodec.Protocol.Basic

/-!
What there is to see of a protocol: its classes and methods with their names,
and for each method the layout of its arguments.
-/

namespace MethodCodec

/-- A list of texts. -/
def outlineStrings (texts : List String) : Outline :=
  .list (texts.map .text)

namespace Field

def outline (field : Field) : Outline :=
  .ofMembers [
    ("name", .text field.name.written),
    ("ident", .text field.name.snake),
    ("type", .text field.type.spelling),
    ("domain", .optional .text field.domain),
    ("width", .optional .number field.type.width?)]

end Field

namespace Method

/-- The name of the argument at a position, as the document writes it. -/
def argumentName (method : Method) (index : Nat) : Except PlanFault String :=
  match method.fields[index]? with
  | some field => .ok field.name.written
  | none => .error (.noField index)

/-- A plain field is shown by its name, a run of flags by their names and the
number of its bytes. -/
def outlineSegment (method : Method) : Segment → Except PlanFault Outline
  | .field index => (method.argumentName index).map .text
  | .flags indices =>
      match indices.mapM method.argumentName with
      | .ok names =>
          .ok (.ofMembers [
            ("bits", outlineStrings names),
            ("bytes", .number (Segment.flags indices).flagBytes)])
      | .error fault => .error fault

def outline (method : Method) : Except PlanFault Outline :=
  match method.layout.mapM method.outlineSegment with
  | .ok nodes =>
      .ok (.ofMembers [
        ("id", .number method.id.toNat),
        ("name", .text method.qualifiedName),
        ("struct", .text method.name.pascal),
        ("synchronous", .flag method.synchronous),
        ("fields", .list (method.fields.map Field.outline)),
        ("layout", .list nodes)])
  | .error fault => .error fault

end Method

/-- A class is shown with its identifier and its methods. -/
def ProtocolClass.outline (cls : ProtocolClass) : Except PlanFault Outline :=
  match cls.methods.mapM Method.outline with
  | .ok methods =>
      .ok (.ofMembers [
        ("id", .number cls.id.toNat),
        ("name", .text cls.name.written),
        ("module", .text cls.name.snake),
        ("methods", .list methods)])
  | .error fault => .error fault

/-- What the document leaves open is shown as nothing. -/
def ProtocolInfo.outline (info : ProtocolInfo) : Outline :=
  .ofMembers [
    ("name", .optional .text info.name),
    ("version", .optional (fun version => .text (versionText version)) info.version),
    ("port", .optional (fun number => .number number.toNat) info.tcpPort)]

/-- A protocol as an outline. Its domains are a record, so they are shown in the
order of their aliases. -/
def Protocol.outline (protocol : Protocol) : Except PlanFault Outline :=
  match protocol.classes.mapM ProtocolClass.outline with
  | .ok classes =>
      .ok (.ofMembers [
        ("info", protocol.info.outline),
        ("domains", .ofMembers (protocol.domains.map fun (domain, type) =>
          (domain, .text type.spelling))),
        ("classes", .list classes)])
  | .error fault => .error fault

end MethodCodec
