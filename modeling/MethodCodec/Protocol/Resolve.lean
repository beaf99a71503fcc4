import MethodCodec.Protocol.Collision
import MethodCodec.Protocol.Domains

/-!
From a document to a protocol. The rules on the document come first, then the
domains, then the arguments class by class, then the identifiers.
-/

namespace MethodCodec

/-- Why a document does not give a protocol, or a protocol no source. -/
inductive ResolutionFault
  | violates (violation : Spec.Violation)
  /-- An argument whose type is not said exactly once is met after all. -/
  | untyped (argument className methodName : String)
  | unresolved (fault : TypeFault)
  | collides (collision : Collision)
  deriving DecidableEq

/-- The wording of a fault. -/
def ResolutionFault.message : ResolutionFault → String
  | .violates violation => "parse error: " ++ malformedPrefix ++ violation.message
  | .untyped argument className methodName =>
      malformedPrefix ++ (Spec.Violation.unclearType argument className methodName).message
  | .unresolved fault => "resolve error: " ++ fault.message
  | .collides collision => malformedPrefix ++ collision.message

namespace Spec

/-- An argument with its type found out. -/
def resolveArgument (domains : Domains) (className methodName : String)
    (argument : ArgumentSpec) : Except ResolutionFault Field :=
  match argument.reference? with
  | none => .error (.untyped argument.name className methodName)
  | some reference =>
      match domains.typeOfReference reference with
      | .ok type =>
          .ok { name := Name.ofText argument.name, type, domain := argument.domain }
      | .error error =>
          .error (.unresolved (error.locate
            { argument := argument.name, className, methodName }))

/-- A method with its arguments resolved in order. -/
def resolveMethod (domains : Domains) (cls : ClassSpec) (method : MethodSpec) :
    Traced ResolutionFault Method :=
  (Traced.ofExcept
    (method.arguments.mapM (resolveArgument domains cls.name method.name))).andThen
    fun fields =>
      let resolved : Method :=
        { id := method.id
          classId := cls.id
          name := Name.ofText method.name
          qualifiedName := cls.name ++ "." ++ method.name
          synchronous := method.synchronous.getD false
          fields }
      (Traced.note
        (.methodResolved cls.name method.name method.id fields.length
          resolved.layout.length)).andThen
        fun _ => .done resolved

/-- Methods in order, up to the first that fails. -/
def resolveMethods (domains : Domains) (cls : ClassSpec) :
    List MethodSpec → Traced ResolutionFault (List Method)
  | [] => .done []
  | method :: rest =>
      (resolveMethod domains cls method).andThen fun first =>
        (resolveMethods domains cls rest).andThen fun others => .done (first :: others)

/-- Tells of a class without methods. -/
def noteEmpty (cls : ClassSpec) : Traced ResolutionFault Unit :=
  if cls.methods.isEmpty then Traced.note (.classEmpty cls.name) else .done ()

/-- A class with its methods. -/
def resolveClass (domains : Domains) (cls : ClassSpec) :
    Traced ResolutionFault ProtocolClass :=
  (Traced.note (.classOpened cls.name cls.id)).andThen fun _ =>
    (noteEmpty cls).andThen fun _ =>
      (resolveMethods domains cls cls.methods).andThen fun methods =>
        .done { id := cls.id, name := Name.ofText cls.name, methods }

/-- Classes in order, up to the first that fails. -/
def resolveClasses (domains : Domains) :
    List ClassSpec → Traced ResolutionFault (List ProtocolClass)
  | [] => .done []
  | cls :: rest =>
      (resolveClass domains cls).andThen fun first =>
        (resolveClasses domains rest).andThen fun others => .done (first :: others)

/-- Fails with what was found wrong, if anything was. -/
def refuse (fault : Option ResolutionFault) : Traced ResolutionFault Unit :=
  match fault with
  | some fault => .fail fault
  | none => .done ()

/-- The protocol of a document. -/
def resolve (spec : Spec) : Traced ResolutionFault Protocol :=
  (refuse (spec.violation?.map .violates)).andThen fun _ =>
    ((Domains.ofDeclarations spec.domains).mapError .unresolved).andThen fun domains =>
      (resolveClasses domains spec.classes).andThen fun classes =>
        let protocol : Protocol :=
          { info := { name := spec.name, version := spec.version?, tcpPort := spec.tcpPort }
            domains := domains.entries
            classes }
        (refuse (protocol.collision?.map .collides)).andThen fun _ =>
          (Traced.note
            (.protocolResolved protocol.domains.length protocol.classes.length
              protocol.methods.length)).andThen
            fun _ => .done protocol

end Spec

end MethodCodec
