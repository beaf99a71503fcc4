import MethodCodec.Journal
import MethodCodec.Spec.Basic

/-!
The table of domains: aliases in the order in which each was first declared,
each with the type that was declared for it last.
-/

namespace MethodCodec

/-- Where in a document an argument stands. -/
structure ArgumentSite where
  argument : String
  className : String
  methodName : String
  deriving DecidableEq

/-- Why a type cannot be found out. -/
inductive TypeFault
  /-- No domain has the alias; the site is that of the argument that uses it. -/
  | unknownDomain (domain : String) (site : Option ArgumentSite)
  | unknownType (word : String)
  deriving DecidableEq

namespace TypeFault

/-- The wording of a fault. -/
def message : TypeFault → String
  | unknownDomain domain none => "unknown domain: " ++ domain
  | unknownDomain domain (some site) =>
      "unknown domain: " ++ domain ++ " (argument `" ++ site.argument ++ "` of `"
        ++ site.className ++ "." ++ site.methodName ++ "`)"
  | unknownType word => "unknown type: " ++ word

/-- Says at which argument a domain was not found. -/
def locate (site : ArgumentSite) : TypeFault → TypeFault
  | unknownDomain domain _ => unknownDomain domain (some site)
  | unknownType word => unknownType word

end TypeFault

/-- The type that a word of a document stands for. -/
def WireType.ofWord (word : String) : Except TypeFault WireType :=
  match WireType.ofSpelling? word with
  | some type => .ok type
  | none => .error (.unknownType word)

/-- Aliases with their types. -/
structure Domains where
  entries : List (String × WireType)
  deriving DecidableEq

namespace Domains

/-- No domain is declared. -/
def empty : Domains where
  entries := []

/-- Sets the type of an alias where it stands, or adds it at the end. -/
def insertInto (domain : String) (type : WireType) :
    List (String × WireType) → List (String × WireType)
  | [] => [(domain, type)]
  | (known, old) :: rest =>
      if known = domain then (known, type) :: rest
      else (known, old) :: insertInto domain type rest

/-- Declares an alias, or declares it anew. -/
def insert (domains : Domains) (domain : String) (type : WireType) : Domains where
  entries := insertInto domain type domains.entries

/-- The type of an alias. -/
def typeOf (domains : Domains) (domain : String) : Except TypeFault WireType :=
  match domains.entries.lookup domain with
  | some type => .ok type
  | none => .error (.unknownDomain domain none)

/-- The type that an argument refers to. A type given directly is never looked
up among the domains, even if an alias has its name. -/
def typeOfReference (domains : Domains) : TypeReference → Except TypeFault WireType
  | .direct word => WireType.ofWord word
  | .domain domain => domains.typeOf domain

/-- Adds declarations in order and stops at the first whose type is unknown. -/
def declare (domains : Domains) : List (String × String) → Traced TypeFault Domains
  | [] => .done domains
  | (domain, word) :: rest =>
      (Traced.ofExcept (WireType.ofWord word)).andThen fun type =>
        (Traced.note (.domainResolved domain type)).andThen fun _ =>
          (domains.insert domain type).declare rest

/-- The table of all declarations of a document. -/
def ofDeclarations (declarations : List (String × String)) : Traced TypeFault Domains :=
  empty.declare declarations

end Domains

end MethodCodec
