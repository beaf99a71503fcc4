import MethodCodec.Protocol.Resolve
import MethodCodec.Source.ClassModule
import MethodCodec.Source.Preamble
import MethodCodec.Source.MethodTable

/-!
The generated source file: what all of it shares, the function that names
methods, and one module per class in the order of declaration.
-/

namespace MethodCodec

/-- Why no source can be generated. -/
inductive GenerationFault
  | unresolved (fault : ResolutionFault)
  | misplanned (fault : PlanFault)
  deriving DecidableEq

/-- The wording of a fault. -/
def GenerationFault.message : GenerationFault → String
  | .unresolved fault => fault.message
  | .misplanned fault => "generation failed: " ++ fault.message

namespace Source

/-- The name that the generated file goes by when no other is given. -/
def fileName : String := "protocol.rs"

/-- Sections with a blank line between each two and a final line break. -/
def joinSections : List String → String
  | [] => "\n"
  | [section₁] => section₁ ++ "\n"
  | section₁ :: rest => section₁ ++ "\n\n" ++ joinSections rest

/-- The text of each class module in turn, each told of before it is made. -/
def classTexts (settings : SourceSettings) :
    List ProtocolClass → Traced GenerationFault (List String)
  | [] => .done []
  | cls :: rest =>
      (Traced.note (.classEmitted cls.name.written cls.methods.length)).andThen fun _ =>
        ((Traced.ofExcept (classText cls settings)).mapError .misplanned).andThen fun text =>
          (classTexts settings rest).andThen fun texts => .done (text :: texts)

/-- The whole source file of a protocol. -/
def fileText (protocol : Protocol) (settings : SourceSettings) : Traced GenerationFault String :=
  (classTexts settings protocol.classes).andThen fun classes =>
    .done (joinSections
      (preambleText protocol.info settings :: methodTableText protocol :: classes))

end Source

/-- The source file of a protocol. No structure may go by the name of the
table type, which class modules import. -/
def Protocol.generate (protocol : Protocol) (settings : SourceSettings) :
    Traced GenerationFault String :=
  match protocol.importCollision? settings.tableType with
  | some collision => .fail (.unresolved (.collides collision))
  | none =>
      (Source.fileText protocol settings).andThen fun text =>
        (Traced.note
          (.sourceGenerated protocol.classes.length protocol.methods.length
            text.utf8ByteSize)).andThen
          fun _ => .done text

end MethodCodec
