import MethodCodec.Name
import MethodCodec.Text.Numeral
import MethodCodec.Wire.Layout

/-!
A resolved protocol: classes of methods whose arguments all have a wire type.
Methods are found by the pair of their class id and method id.
-/

namespace MethodCodec

/-- An argument of a method. -/
structure Field where
  name : Name
  type : WireType
  /-- The domain that the document gave the type through, if it did. -/
  domain : Option String
  deriving DecidableEq

/-- A method: its ids, its names, and its arguments in wire order. -/
structure Method where
  id : UInt16
  classId : UInt16
  name : Name
  /-- The class and method names as the document writes them, with a dot
  between them. -/
  qualifiedName : String
  synchronous : Bool
  fields : List Field
  deriving DecidableEq

/-- The name that undeclared pairs of ids go by. -/
def undeclaredName : String := "UNKNOWN"

namespace Method

/-- The arguments partitioned into plain fields and runs of flags. It is made from
the fields wherever it is asked for, and is no data of its own beside them. -/
def layout (method : Method) : List Segment :=
  Layout.segments (method.fields.map Field.type)

/-- The plan that reads the arguments. -/
def readPlan (method : Method) : List ReadStep :=
  Layout.readPlan method.layout

/-- The plan that writes the arguments. -/
def writePlan (method : Method) : List WriteStep :=
  Layout.writePlan method.layout

/-- Whether some argument has the given type. -/
def uses (method : Method) (type : WireType) : Bool :=
  method.fields.any fun field => field.type == type

end Method

/-- A class: an id, a name, and methods that share both. -/
structure ProtocolClass where
  id : UInt16
  name : Name
  methods : List Method
  deriving DecidableEq

namespace ProtocolClass

def uses (cls : ProtocolClass) (type : WireType) : Bool :=
  cls.methods.any fun method => method.uses type

end ProtocolClass

/-- What a document says of its protocol as a whole. -/
structure ProtocolInfo where
  name : Option String
  /-- Major version, minor version and revision, if all three are given. -/
  version : Option (UInt8 × UInt8 × UInt8)
  tcpPort : Option UInt16
  deriving DecidableEq

/-- A version with hyphens between its parts. -/
def versionText : UInt8 × UInt8 × UInt8 → String
  | (major, minor, revision) =>
      Text.decimal major.toNat ++ "-" ++ Text.decimal minor.toNat ++ "-"
        ++ Text.decimal revision.toNat

/-- A protocol in which every argument has a wire type. -/
structure Protocol where
  info : ProtocolInfo
  /-- Every declared domain with its type, in the order of declaration. -/
  domains : List (String × WireType)
  classes : List ProtocolClass
  deriving DecidableEq

namespace Protocol

/-- The method declared for a pair of ids: the first class with the class id
decides, and in it the first method with the method id. -/
def findMethod? (protocol : Protocol) (classId methodId : UInt16) : Option Method :=
  match protocol.classes.find? fun cls => cls.id == classId with
  | some cls => cls.methods.find? fun method => method.id == methodId
  | none => none

/-- The qualified name of the method declared for a pair of ids. -/
def nameOf (protocol : Protocol) (classId methodId : UInt16) : String :=
  match protocol.findMethod? classId methodId with
  | some method => method.qualifiedName
  | none => undeclaredName

/-- Every declared pair of ids with its qualified name, in the order of
declaration. -/
def entries (protocol : Protocol) : List (UInt16 × UInt16 × String) :=
  protocol.classes.flatMap fun cls =>
    cls.methods.map fun method => (cls.id, method.id, method.qualifiedName)

/-- The methods of all classes, in the order of declaration. -/
def methods (protocol : Protocol) : List Method :=
  protocol.classes.flatMap ProtocolClass.methods

end Protocol

end MethodCodec
