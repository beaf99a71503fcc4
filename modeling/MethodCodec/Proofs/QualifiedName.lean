import Mathlib
import MethodCodec.Proofs.Collision
import MethodCodec.Proofs.MethodTable

/-!
# Qualified names

No rule says that names are distinct.  But classes with one name would share a
module and methods with one name a structure, so in an accepted document the
names that no dot makes ambiguous belong to one method each.
-/

namespace MethodCodec

/-- A qualified name is cut at its first dot, whatever follows. -/
theorem eq_of_dotted_eq
    {className otherClass methodName otherMethod : String}
    (undotted : '.' ∉ className.toList) (otherUndotted : '.' ∉ otherClass.toList)
    (same : className ++ "." ++ methodName = otherClass ++ "." ++ otherMethod) :
    className = otherClass ∧ methodName = otherMethod := by
  have split (front back : String) :
      (front ++ "." ++ back).toList = front.toList ++ '.' :: back.toList := by
    simp
  obtain ⟨classes, methods⟩ :=
    Source.eq_of_cut_eq undotted otherUndotted (by rw [← split, same, split])
  exact ⟨String.toList_inj.mp classes, String.toList_inj.mp methods⟩

namespace Spec

variable {spec : Spec} {protocol : Protocol}

/-- The names of its class and of itself tell a method from all others. -/
theorem Resolves.eq_of_names
    (resolves : spec.Resolves protocol) (apart : protocol.Apart)
    {cls otherClass : ClassSpec} {method other : MethodSpec}
    (clsMember : cls ∈ spec.classes) (member : method ∈ cls.methods)
    (otherClsMember : otherClass ∈ spec.classes)
    (otherMember : other ∈ otherClass.methods)
    (sameClass : otherClass.name = cls.name) (same : other.name = method.name) :
    otherClass = cls ∧ other = method := by
  have modules := apart.modules
  rw [resolves.moduleNames] at modules
  have classes : otherClass = cls :=
    List.inj_on_of_nodup_map modules otherClsMember clsMember
      (congrArg Name.snakeCase sameClass)
  subst classes
  obtain ⟨resolved, resolvedMember, resolvesClass⟩ :=
    exists_left_of_forall₂ resolves.classes.flip clsMember
  have structs := (apart.inside resolved resolvedMember).types
  rw [resolvesClass.structNames] at structs
  exact ⟨rfl, List.inj_on_of_nodup_map structs otherMember member
    (congrArg Name.pascalCase same)⟩

end Spec

/-- The pairs of ids for which a method is declared. -/
def Protocol.declaredIds (protocol : Protocol) : Set (UInt16 × UInt16) :=
  {ids | ∃ method, protocol.findMethod? ids.1 ids.2 = some method}

/-- Where no class has a dot in its name, a qualified name is that of one
method only, whatever dots the methods have in theirs. -/
theorem Spec.nameOf_injOn_declaredIds
    {spec : Spec} {protocol : Protocol}
    (accepted : spec.resolve.outcome = .ok protocol)
    (undotted : ∀ cls ∈ spec.classes, '.' ∉ cls.name.toList) :
    Set.InjOn (fun ids : UInt16 × UInt16 => protocol.nameOf ids.1 ids.2)
      protocol.declaredIds := by
  obtain ⟨wellFormed, resolves, noCollision⟩ := resolves_of_resolve accepted
  have apart := Protocol.collision?_eq_none_iff.mp noCollision
  have keyed := resolves.keyed wellFormed
  rintro ⟨classId, methodId⟩ ⟨method, found⟩ ⟨otherClassId, otherMethodId⟩
    ⟨other, otherFound⟩ same
  obtain ⟨cls, clsMember, declared, member, ⟨rfl, rfl⟩, name⟩ :=
    resolves.exists_of_declares (keyed.findMethod?_eq_some_iff.mp found)
  obtain ⟨otherClass, otherClsMember, otherDeclared, otherMember, ⟨rfl, rfl⟩,
      otherName⟩ :=
    resolves.exists_of_declares (keyed.findMethod?_eq_some_iff.mp otherFound)
  have shown : method.qualifiedName = other.qualifiedName := by
    simpa only [Protocol.nameOf, found, otherFound] using same
  have dotted :
      cls.name ++ "." ++ declared.name =
        otherClass.name ++ "." ++ otherDeclared.name :=
    name.symm.trans (shown.trans otherName)
  obtain ⟨sameClass, sameMethod⟩ :=
    eq_of_dotted_eq (undotted cls clsMember) (undotted otherClass otherClsMember)
      dotted
  obtain ⟨rfl, rfl⟩ :=
    resolves.eq_of_names apart otherClsMember otherMember clsMember member
      sameClass sameMethod
  rfl

/-- A document whose methods have dots in their names, and of whose classes one
has a name that begins with that of the other. -/
def dottedMethods : Spec where
  name := none
  majorVersion := none
  minorVersion := none
  revision := none
  tcpPort := none
  domains := []
  classes :=
    [⟨50, "queue", [⟨20, "bind", none, []⟩, ⟨21, "bind.ok", none, []⟩]⟩,
      ⟨60, "queuebind", [⟨20, ".ok", none, []⟩]⟩]

theorem Spec.nameOf_injOn_dottedMethods :
    ∃ protocol,
      dottedMethods.resolve.outcome = .ok protocol ∧
        (∀ cls ∈ dottedMethods.classes, '.' ∉ cls.name.toList) ∧
        protocol.nameOf 50 21 = "queue.bind.ok" ∧
        protocol.nameOf 60 20 = "queuebind..ok" ∧
        {(50, 20), (50, 21), (60, 20)} ⊆ protocol.declaredIds ∧
        Set.InjOn (fun ids : UInt16 × UInt16 => protocol.nameOf ids.1 ids.2)
          protocol.declaredIds := by
  let bind : Method := ⟨20, 50, Name.ofText "bind", "queue.bind", false, []⟩
  let bindOk : Method := ⟨21, 50, Name.ofText "bind.ok", "queue.bind.ok", false, []⟩
  let lone : Method := ⟨20, 60, Name.ofText ".ok", "queuebind..ok", false, []⟩
  let protocol : Protocol :=
    ⟨⟨none, none, none⟩, [],
      [⟨50, Name.ofText "queue", [bind, bindOk]⟩,
        ⟨60, Name.ofText "queuebind", [lone]⟩]⟩
  have accepted : dottedMethods.resolve.outcome = .ok protocol := by
    decide +kernel
  have undotted : ∀ cls ∈ dottedMethods.classes, '.' ∉ cls.name.toList := by
    decide
  have declared : {(50, 20), (50, 21), (60, 20)} ⊆ protocol.declaredIds := by
    rintro ids (rfl | rfl | rfl)
    · exact ⟨bind, rfl⟩
    · exact ⟨bindOk, rfl⟩
    · exact ⟨lone, rfl⟩
  exact ⟨protocol, accepted, undotted, rfl, rfl, declared,
    nameOf_injOn_declaredIds accepted undotted⟩

end MethodCodec
