import MethodCodec.Protocol.Basic
import MethodCodec.Source.Block
import MethodCodec.Text.Quoted

/-!
The function of the generated source that names the method of a pair of ids.
-/

namespace MethodCodec.Source

/-- The arm for a pair of ids. -/
def arm (classId methodId : UInt16) (name : String) : String :=
  "(" ++ Text.decimal classId.toNat ++ ", " ++ Text.decimal methodId.toNat ++ ") => "
    ++ Text.quote name

/-- The arm for all other pairs. -/
def wildcardArm : String :=
  "(_, _) => " ++ Text.quote undeclaredName

/-- One arm per declared method in the order of declaration, and the wildcard. -/
def methodArms (protocol : Protocol) : List String :=
  (protocol.entries.map fun (classId, methodId, name) => arm classId methodId name)
    ++ [wildcardArm]

/-- The function from a pair of ids to a name. -/
def methodTableLines (protocol : Protocol) : List String :=
  "/// Resolve a `(class_id, method_id)` pair to its `\"class.method\"` name."
    :: block "pub fn method_name(class_id: u16, method_id: u16) -> &'static str"
      (block "match (class_id, method_id)"
        ((methodArms protocol).map fun line => line ++ ","))

/-- The text of that function, without a final line break. -/
def methodTableText (protocol : Protocol) : String :=
  joinLines (methodTableLines protocol)

end MethodCodec.Source
