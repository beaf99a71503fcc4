import MethodCodec.Protocol.Basic

/-!
Identifiers that would meet in the generated source. Modules share one scope;
inside a module the structures share one and the constants another, in which
structures without fields take part too; fields share the scope of their
structure.
-/

namespace MethodCodec

/-- Two things that would go by one identifier. -/
inductive Collision
  | reservedModule (cls : Name)
  | sharedModule (previous : String) (cls : Name)
  | reservedType (method : Method)
  | sharedType (previous : String) (method : Method)
  | sharedConstant (previous : String) (method : Method) (moduleName : String)
  /-- A structure without fields goes by the name of a constant. -/
  | unitConstant (method : Method)
  | sharedField (previous : String) (field cls method : Name)
  /-- A structure goes by the name of a type that its module imports. -/
  | importedType (method : Method)
  deriving DecidableEq

/-- The wording of a collision. -/
def Collision.message : Collision → String
  | .reservedModule cls =>
      "class `" ++ cls.written ++ "` normalizes to the reserved module name `" ++ cls.snake ++ "`"
  | .sharedModule previous cls =>
      "classes `" ++ previous ++ "` and `" ++ cls.written ++ "` both normalize to module `"
        ++ cls.snake ++ "`"
  | .reservedType method =>
      "method `" ++ method.qualifiedName ++ "` normalizes to `" ++ method.name.pascal
        ++ "`, which is reserved"
  | .sharedType previous method =>
      "methods `" ++ previous ++ "` and `" ++ method.qualifiedName
        ++ "` both normalize to struct `" ++ method.name.pascal ++ "`"
  | .sharedConstant previous method moduleName =>
      "`" ++ method.qualifiedName ++ "` and " ++ previous ++ " both normalize to constant `"
        ++ moduleName ++ "::" ++ method.name.screaming ++ "`"
  | .unitConstant method =>
      "unit struct `" ++ method.name.pascal ++ "` of `" ++ method.qualifiedName
        ++ "` clashes with a constant of the same name"
  | .sharedField previous field cls method =>
      "arguments `" ++ previous ++ "` and `" ++ field.written ++ "` of `" ++ cls.written ++ "."
        ++ method.written ++ "` both normalize to field `" ++ field.snake ++ "`"
  | .importedType method =>
      "method `" ++ method.qualifiedName ++ "` normalizes to `" ++ method.name.pascal
        ++ "`, which is already imported"

/-- The types that every class module imports. -/
def reservedTypes : List String := ["Method", "MethodFrame"]

/-- The modules that stand beside the class modules. -/
def reservedModules : List String := ["wire"]

/-- The constant that every class module has beside those of its methods. -/
def classIdConstant : String := "CLASS_ID"

/-- What a method's constant meets when it meets that of its class. -/
def classIdHolder : String := "the class id"

namespace Protocol

/-! ## Collisions inside a class -/

/-- The first method whose structure or constant meets a reserved one or that
of an earlier method. The lists hold the identifiers taken, each with its
holder. -/
def memberCollision? (moduleName : String) (types constants : List (String × String)) :
    List Method → Option Collision
  | [] => none
  | method :: rest =>
      if reservedTypes.contains method.name.pascal then
        some (.reservedType method)
      else
        match types.lookup method.name.pascal with
        | some previous => some (.sharedType previous method)
        | none =>
            match constants.lookup method.name.screaming with
            | some previous => some (.sharedConstant previous method moduleName)
            | none =>
                memberCollision? moduleName
                  ((method.name.pascal, method.qualifiedName) :: types)
                  ((method.name.screaming, method.qualifiedName) :: constants) rest

/-- The first structure without fields that goes by the name of a constant. -/
def unitCollision? (constants : List String) : List Method → Option Collision
  | [] => none
  | method :: rest =>
      if method.fields.isEmpty && constants.contains method.name.pascal then
        some (.unitConstant method)
      else
        unitCollision? constants rest

/-- The first field that meets an earlier one of its method. -/
def fieldCollision? (cls method : Name) (taken : List (String × String)) :
    List Field → Option Collision
  | [] => none
  | field :: rest =>
      match taken.lookup field.name.snake with
      | some previous => some (.sharedField previous field.name cls method)
      | none =>
          fieldCollision? cls method ((field.name.snake, field.name.written) :: taken) rest

/-- The first method with two fields that meet. -/
def methodFieldCollision? (cls : Name) : List Method → Option Collision
  | [] => none
  | method :: rest =>
      match fieldCollision? cls method.name [] method.fields with
      | some collision => some collision
      | none => methodFieldCollision? cls rest

/-- The constants of a class module. -/
def classConstants (cls : ProtocolClass) : List String :=
  classIdConstant :: cls.methods.map fun method => method.name.screaming

/-- The first collision inside a class: structures and constants, then
structures without fields, then fields. -/
def classCollision? (cls : ProtocolClass) : Option Collision :=
  match memberCollision? cls.name.snake [] [(classIdConstant, classIdHolder)] cls.methods with
  | some collision => some collision
  | none =>
      match unitCollision? (classConstants cls) cls.methods with
      | some collision => some collision
      | none => methodFieldCollision? cls.name cls.methods

/-! ## Collisions of a protocol -/

/-- The first collision among classes: for each its module, then what is
inside. `taken` holds the modules before it, each with its class. -/
def moduleCollision? (taken : List (String × String)) :
    List ProtocolClass → Option Collision
  | [] => none
  | cls :: rest =>
      if reservedModules.contains cls.name.snake then
        some (.reservedModule cls.name)
      else
        match taken.lookup cls.name.snake with
        | some previous => some (.sharedModule previous cls.name)
        | none =>
            match classCollision? cls with
            | some collision => some collision
            | none =>
                moduleCollision? ((cls.name.snake, cls.name.written) :: taken) rest

/-- The first collision among the identifiers of a protocol. -/
def collision? (protocol : Protocol) : Option Collision :=
  moduleCollision? [] protocol.classes

/-- The first method whose structure goes by a type name that class modules
import. -/
def importCollision? (protocol : Protocol) (typeName : String) : Option Collision :=
  protocol.classes.findSome? fun cls =>
    (cls.methods.find? fun method => method.name.pascal == typeName).map .importedType

end Protocol

end MethodCodec
