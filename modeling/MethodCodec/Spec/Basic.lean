import MethodCodec.Text.Numeral

/-!
The content of a protocol document: domains that abbreviate types, and classes
of methods with typed arguments. Nothing here is resolved yet.
-/

namespace MethodCodec

/-- An argument as a document declares it. -/
structure ArgumentSpec where
  name : String
  type : Option String
  domain : Option String
  deriving DecidableEq

/-- The two ways for an argument to say its type. -/
inductive TypeReference
  | direct (word : String)
  | domain (domain : String)
  deriving DecidableEq

/-- How an argument says its type; `none` if it says it twice or not at all. -/
def ArgumentSpec.reference? (argument : ArgumentSpec) : Option TypeReference :=
  match argument.type, argument.domain with
  | some word, none => some (.direct word)
  | none, some domain => some (.domain domain)
  | _, _ => none

/-- A method as the document declares it. -/
structure MethodSpec where
  id : UInt16
  name : String
  synchronous : Option Bool
  arguments : List ArgumentSpec
  deriving DecidableEq

/-- A class as the document declares it. -/
structure ClassSpec where
  id : UInt16
  name : String
  methods : List MethodSpec
  deriving DecidableEq

/-- The content of a protocol document. -/
structure Spec where
  name : Option String
  majorVersion : Option UInt8
  minorVersion : Option UInt8
  revision : Option UInt8
  tcpPort : Option UInt16
  /-- Aliases with the words for their types, in the order of declaration. -/
  domains : List (String × String)
  classes : List ClassSpec
  deriving DecidableEq

namespace Spec

/-- Major version, minor version and revision, if all three are declared. -/
def version? (spec : Spec) : Option (UInt8 × UInt8 × UInt8) :=
  match spec.majorVersion, spec.minorVersion, spec.revision with
  | some major, some minor, some revision => some (major, minor, revision)
  | _, _, _ => none

/-! ## Structural rules -/

/-- What a document can get wrong that its data types do not rule out. -/
inductive Violation
  | repeatedDomain (domain : String)
  | repeatedClassId (id : UInt16) (className : String)
  | repeatedMethodId (id : UInt16) (className : String)
  /-- An argument has both a type and a domain, or neither. -/
  | unclearType (argument className methodName : String)
  deriving DecidableEq

/-- The wording of a violation. -/
def Violation.message : Violation → String
  | .repeatedDomain domain => "domain `" ++ domain ++ "` is declared twice"
  | .repeatedClassId id className =>
      "duplicate class id " ++ Text.decimal id.toNat ++ " (`" ++ className ++ "`)"
  | .repeatedMethodId id className =>
      "duplicate method id " ++ Text.decimal id.toNat ++ " in class `" ++ className ++ "`"
  | .unclearType argument className methodName =>
      "argument `" ++ argument ++ "` of `" ++ className ++ "." ++ methodName
        ++ "` must have exactly one of `type` or `domain`"

/-- The first alias that is declared again, given those seen before. -/
def repeatedAlias? (seen : List String) : List (String × String) → Option Violation
  | [] => none
  | (domain, _) :: rest =>
      if domain ∈ seen then some (.repeatedDomain domain)
      else repeatedAlias? (domain :: seen) rest

/-- The first argument whose type is not said exactly once. -/
def unclearArgument? (className methodName : String) : List ArgumentSpec → Option Violation
  | [] => none
  | argument :: rest =>
      match argument.reference? with
      | none => some (.unclearType argument.name className methodName)
      | some _ => unclearArgument? className methodName rest

/-- The first fault among the methods of a class: for each method its id, then
its arguments. -/
def methodViolation? (className : String) (seen : List UInt16) :
    List MethodSpec → Option Violation
  | [] => none
  | method :: rest =>
      if method.id ∈ seen then
        some (.repeatedMethodId method.id className)
      else
        match unclearArgument? className method.name method.arguments with
        | some violation => some violation
        | none => methodViolation? className (method.id :: seen) rest

/-- The first fault among the classes: for each class its id, then its
methods. Method ids may repeat from class to class. -/
def classViolation? (seen : List UInt16) : List ClassSpec → Option Violation
  | [] => none
  | cls :: rest =>
      if cls.id ∈ seen then
        some (.repeatedClassId cls.id cls.name)
      else
        match methodViolation? cls.name [] cls.methods with
        | some violation => some violation
        | none => classViolation? (cls.id :: seen) rest

/-- The first fault of a document, domains before classes. -/
def violation? (spec : Spec) : Option Violation :=
  match repeatedAlias? [] spec.domains with
  | some violation => some violation
  | none => classViolation? [] spec.classes

end Spec

/-- How every message about a document that breaks a rule begins. -/
def malformedPrefix : String := "malformed protocol spec: "

end MethodCodec
