import Mathlib
import MethodCodec.Proofs.Literal
import MethodCodec.Proofs.Resolution
import MethodCodec.Source.MethodTable
import MethodCodec.Wire.Codec

/-!
# The table of methods

The generated table is a `match` on a pair of ids.  Read arm by arm, and its
literals unquoted, it names every pair as the protocol does, and the protocol as
the document.
-/

namespace MethodCodec

/-! ## Look-up by ids -/

namespace Protocol

variable {protocol : Protocol} {classId methodId : UInt16} {method : Method}

/-- What makes a look-up by ids unambiguous. -/
structure Keyed (protocol : Protocol) : Prop where
  classIds : (protocol.classes.map ProtocolClass.id).Nodup
  methodIds :
    ∀ cls ∈ protocol.classes, (cls.methods.map Method.id).Nodup
  shared :
    ∀ cls ∈ protocol.classes, ∀ method ∈ cls.methods, method.classId = cls.id

/-- A method that some class declares for a pair of ids. -/
def Declares (protocol : Protocol) (classId methodId : UInt16)
    (method : Method) : Prop :=
  ∃ cls ∈ protocol.classes,
    cls.id = classId ∧ method ∈ cls.methods ∧ method.id = methodId

/-- Only the first class with the class id is searched, and this is enough. -/
theorem Keyed.findMethod?_eq_some_iff (keyed : protocol.Keyed) :
    protocol.findMethod? classId methodId = some method ↔
      protocol.Declares classId methodId method := by
  have classFound {cls : ProtocolClass} :
      protocol.classes.find? (fun other => other.id == classId) = some cls ↔
        cls ∈ protocol.classes ∧ cls.id = classId :=
    find?_key_eq_some_iff keyed.classIds
  rw [findMethod?]
  constructor
  · intro found
    cases search : protocol.classes.find? fun cls => cls.id == classId with
    | none =>
        rw [search] at found
        cases found
    | some cls =>
        rw [search] at found
        obtain ⟨member, id⟩ := classFound.mp search
        obtain ⟨methodMember, methodIdentity⟩ :=
          (find?_key_eq_some_iff (keyed.methodIds cls member)).mp found
        exact ⟨cls, member, id, methodMember, methodIdentity⟩
  · rintro ⟨cls, member, id, methodMember, methodIdentity⟩
    rw [classFound.mpr ⟨member, id⟩]
    exact (find?_key_eq_some_iff (keyed.methodIds cls member)).mpr
      ⟨methodMember, methodIdentity⟩

theorem Keyed.ids_of_findMethod?
    (keyed : protocol.Keyed)
    (found : protocol.findMethod? classId methodId = some method) :
    method.classId = classId ∧ method.id = methodId := by
  obtain ⟨cls, member, id, methodMember, methodIdentity⟩ :=
    keyed.findMethod?_eq_some_iff.mp found
  exact ⟨(keyed.shared cls member method methodMember).trans id,
    methodIdentity⟩

def keyOf (entry : UInt16 × UInt16 × String) : UInt16 × UInt16 :=
  (entry.1, entry.2.1)

theorem mem_entries_iff {name : String} :
    (classId, methodId, name) ∈ protocol.entries ↔
      ∃ method, protocol.Declares classId methodId method ∧
        method.qualifiedName = name := by
  rw [entries, List.mem_flatMap]
  constructor
  · rintro ⟨cls, member, entry⟩
    obtain ⟨method, methodMember, same⟩ := List.mem_map.mp entry
    rw [Prod.mk.injEq, Prod.mk.injEq] at same
    obtain ⟨id, methodIdentity, name⟩ := same
    exact ⟨method, ⟨cls, member, id, methodMember, methodIdentity⟩, name⟩
  · rintro ⟨method, ⟨cls, member, rfl, methodMember, rfl⟩, rfl⟩
    exact ⟨cls, member, List.mem_map.mpr ⟨method, methodMember, rfl⟩⟩

theorem Keyed.nodup_keys (keyed : protocol.Keyed) :
    (protocol.entries.map keyOf).Nodup := by
  rw [entries, List.map_flatMap]
  refine List.nodup_flatMap.mpr ⟨?_, ?_⟩
  · intro cls member
    rw [List.map_map]
    have distinct := (keyed.methodIds cls member).map (Prod.mk_right_injective cls.id)
    rwa [List.map_map] at distinct
  · have apart : protocol.classes.Pairwise fun left right => left.id ≠ right.id :=
      List.pairwise_map.mp keyed.classIds
    refine apart.imp ?_
    intro left right different key memberLeft memberRight
    simp only [List.map_map, List.mem_map] at memberLeft memberRight
    obtain ⟨_, _, rfl⟩ := memberLeft
    obtain ⟨_, _, same⟩ := memberRight
    exact different (congrArg Prod.fst same).symm

@[simp]
theorem length_entries (protocol : Protocol) :
    protocol.entries.length = protocol.methods.length := by
  simp [entries, methods, List.length_flatMap]

/-- A flat search of the entries finds the name of the method that the nested
look-up finds. -/
theorem Keyed.find?_entries (keyed : protocol.Keyed)
    (classId methodId : UInt16) :
    (protocol.entries.find? fun entry =>
          keyOf entry == (classId, methodId)).map (fun entry => entry.2.2) =
      (protocol.findMethod? classId methodId).map Method.qualifiedName := by
  ext name
  simp only [Option.map_eq_some_iff,
    find?_key_eq_some_iff keyed.nodup_keys, keyed.findMethod?_eq_some_iff]
  rw [← mem_entries_iff]
  constructor
  · rintro ⟨⟨_, _, _⟩, ⟨member, key⟩, rfl⟩
    cases key
    exact member
  · intro member
    exact ⟨_, ⟨member, rfl⟩, rfl⟩

/-- A frame has no answer exactly where no method is declared. -/
theorem readFrame_eq_ok_none_iff (payload : List UInt8) :
    protocol.readFrame classId methodId payload = .ok none ↔
      protocol.findMethod? classId methodId = none := by
  rw [readFrame]
  cases protocol.findMethod? classId methodId with
  | none => simp
  | some method =>
      cases decoded : method.decode payload <;> simp [decoded]

end Protocol

/-! ## Names in the document -/

namespace Spec

variable {spec : Spec} {protocol : Protocol} {classId methodId : UInt16}

/-- The name of a pair of ids: class name, dot and method name of the one
method that is declared for it, or the name for undeclared pairs. -/
inductive NameFor (spec : Spec) (classId methodId : UInt16) : String → Prop
  | declared {cls : ClassSpec} {method : MethodSpec}
      (clsMember : cls ∈ spec.classes) (member : method ∈ cls.methods)
      (ids : cls.id = classId ∧ method.id = methodId)
      (only :
        ∀ otherClass ∈ spec.classes, ∀ other ∈ otherClass.methods,
          otherClass.id = classId ∧ other.id = methodId →
            otherClass = cls ∧ other = method) :
      NameFor spec classId methodId (cls.name ++ "." ++ method.name)
  | undeclared
      (absent :
        ∀ cls ∈ spec.classes, ∀ method ∈ cls.methods,
          ¬ (cls.id = classId ∧ method.id = methodId)) :
      NameFor spec classId methodId undeclaredName

theorem WellFormed.eq_of_ids
    (wellFormed : spec.WellFormed)
    {cls otherClass : ClassSpec} {method other : MethodSpec}
    (clsMember : cls ∈ spec.classes) (member : method ∈ cls.methods)
    (otherClsMember : otherClass ∈ spec.classes)
    (otherMember : other ∈ otherClass.methods)
    (sameClass : otherClass.id = cls.id) (same : other.id = method.id) :
    otherClass = cls ∧ other = method := by
  have classes : otherClass = cls :=
    List.inj_on_of_nodup_map wellFormed.classIds otherClsMember clsMember
      sameClass
  subst classes
  exact ⟨rfl, List.inj_on_of_nodup_map
    (wellFormed.methodIds otherClass clsMember) otherMember member same⟩

theorem Resolves.keyed
    (wellFormed : spec.WellFormed) (resolves : spec.Resolves protocol) :
    protocol.Keyed := by
  have classIds :
      protocol.classes.map ProtocolClass.id = spec.classes.map ClassSpec.id :=
    map_eq_map_of_forall₂ resolves.classes fun _ _ resolved => resolved.id
  refine ⟨classIds ▸ wellFormed.classIds, ?_, ?_⟩
  · intro cls member
    obtain ⟨declared, declaredMember, resolved⟩ :=
      exists_left_of_forall₂ resolves.classes member
    have methodIds :
        cls.methods.map Method.id = declared.methods.map MethodSpec.id :=
      map_eq_map_of_forall₂ resolved.methods fun _ _ resolved => resolved.id
    exact methodIds ▸ wellFormed.methodIds declared declaredMember
  · intro cls member method methodMember
    obtain ⟨declared, _, resolved⟩ :=
      exists_left_of_forall₂ resolves.classes member
    obtain ⟨_, _, resolvedMethod⟩ :=
      exists_left_of_forall₂ resolved.methods methodMember
    exact resolvedMethod.classId.trans resolved.id.symm

/-- A method of the protocol is one of the document, by its name. -/
theorem Resolves.exists_of_declares
    (resolves : spec.Resolves protocol) {method : Method}
    (declares : protocol.Declares classId methodId method) :
    ∃ cls ∈ spec.classes, ∃ declared ∈ cls.methods,
      (cls.id = classId ∧ declared.id = methodId) ∧
        method.qualifiedName = cls.name ++ "." ++ declared.name := by
  obtain ⟨resolvedClass, member, rfl, methodMember, rfl⟩ := declares
  obtain ⟨cls, clsMember, resolved⟩ :=
    exists_left_of_forall₂ resolves.classes member
  obtain ⟨declared, declaredMember, resolvedMethod⟩ :=
    exists_left_of_forall₂ resolved.methods methodMember
  exact ⟨cls, clsMember, declared, declaredMember,
    ⟨resolved.id.symm, resolvedMethod.id.symm⟩, resolvedMethod.qualifiedName⟩

theorem Resolves.exists_declares
    (resolves : spec.Resolves protocol)
    {cls : ClassSpec} {declared : MethodSpec}
    (clsMember : cls ∈ spec.classes) (member : declared ∈ cls.methods) :
    ∃ method, protocol.Declares cls.id declared.id method := by
  obtain ⟨resolvedClass, resolvedMember, resolved⟩ :=
    exists_left_of_forall₂ resolves.classes.flip clsMember
  obtain ⟨method, methodMember, resolvedMethod⟩ :=
    exists_left_of_forall₂ resolved.methods.flip member
  exact ⟨method, resolvedClass, resolvedMember, resolved.id, methodMember,
    resolvedMethod.id⟩

theorem Resolves.nameFor_nameOf
    (wellFormed : spec.WellFormed) (resolves : spec.Resolves protocol)
    (classId methodId : UInt16) :
    spec.NameFor classId methodId (protocol.nameOf classId methodId) := by
  have keyed := resolves.keyed wellFormed
  rw [Protocol.nameOf]
  cases found : protocol.findMethod? classId methodId with
  | none =>
      refine .undeclared ?_
      rintro cls clsMember method member ⟨rfl, rfl⟩
      obtain ⟨resolved, declares⟩ := resolves.exists_declares clsMember member
      rw [keyed.findMethod?_eq_some_iff.mpr declares] at found
      cases found
  | some method =>
      have declares := keyed.findMethod?_eq_some_iff.mp found
      obtain ⟨cls, clsMember, declared, member, ⟨rfl, rfl⟩, name⟩ :=
        resolves.exists_of_declares declares
      simp only [name]
      refine .declared clsMember member ⟨rfl, rfl⟩ ?_
      rintro otherClass otherClsMember other otherMember ⟨sameClass, same⟩
      exact wellFormed.eq_of_ids clsMember member otherClsMember otherMember
        sameClass same

/-- A name with a dot is not the name of undeclared pairs. -/
theorem dotted_ne_undeclaredName (className methodName : String) :
    className ++ "." ++ methodName ≠ undeclaredName := by
  intro same
  have dot : '.' ∈ (className ++ "." ++ methodName).toList := by simp
  rw [same] at dot
  revert dot
  decide

theorem Resolves.nameOf_eq_undeclaredName_iff
    (resolves : spec.Resolves protocol) (wellFormed : spec.WellFormed) :
    protocol.nameOf classId methodId = undeclaredName ↔
      protocol.findMethod? classId methodId = none := by
  rw [Protocol.nameOf]
  cases found : protocol.findMethod? classId methodId with
  | none => simp
  | some method =>
      have declares :=
        (resolves.keyed wellFormed).findMethod?_eq_some_iff.mp found
      obtain ⟨cls, _, declared, _, _, name⟩ :=
        resolves.exists_of_declares declares
      have apart := dotted_ne_undeclaredName cls.name declared.name
      simp [name, apart]

end Spec

/-! ## The arms -/

namespace Source

/-- An arm of a `match` on a pair of ids.  A place without an id stands for
all. -/
structure Arm where
  classId : Option UInt16
  methodId : Option UInt16
  name : String
  deriving DecidableEq

namespace Arm

def pattern (arm : Arm) : Option UInt16 × Option UInt16 :=
  (arm.classId, arm.methodId)

def takes (arm : Arm) (classId methodId : UInt16) : Bool :=
  arm.classId.all (· == classId) && arm.methodId.all (· == methodId)

/-- An arm that takes one pair only. -/
def exact (entry : UInt16 × UInt16 × String) : Arm :=
  ⟨some entry.1, some entry.2.1, entry.2.2⟩

/-- The arm that takes all pairs. -/
def fallback : Arm := ⟨none, none, undeclaredName⟩

end Arm

/-- A place of a pattern: an underscore, or an id. -/
def readPlace? (text : List Char) : Option (Option UInt16) :=
  if text = ['_'] then some none
  else
    match Text.readNumeral? 10 text with
    | some number =>
        if number < UInt16.size then some (some (UInt16.ofNat number)) else none
    | none => none

/-- The text in front of a character, and the text behind it. -/
def cutAt (mark : Char) : List Char → Option (List Char × List Char)
  | [] => none
  | c :: rest =>
      if c = mark then some ([], rest)
      else (cutAt mark rest).map fun (front, back) => (c :: front, back)

/-- Reads an arm: two places in parentheses, an arrow, and a string literal. -/
def readArm? (line : String) : Option Arm :=
  match line.toList with
  | '(' :: rest => do
      let (first, rest) ← cutAt ',' rest
      let (second, rest) ← cutAt ')' rest
      match second, rest with
      | ' ' :: second, ' ' :: '=' :: '>' :: ' ' :: literal => do
          let classId ← readPlace? first
          let methodId ← readPlace? second
          let name ← Text.readLiteral? literal
          return ⟨classId, methodId, String.ofList name⟩
      | _, _ => none
  | _ => none

/-- The value of a `match` with the given arms: the first that takes the pair
decides. -/
def valueOf? (arms : List Arm) (classId methodId : UInt16) : Option String :=
  (arms.find? fun arm => arm.takes classId methodId).map Arm.name

theorem cutAt_append
    {mark : Char} {front : List Char} (outside : mark ∉ front)
    (back : List Char) :
    cutAt mark (front ++ mark :: back) = some (front, back) := by
  induction front with
  | nil =>
      rw [List.nil_append, cutAt, if_pos rfl]
  | cons c front inductionHypothesis =>
      rw [List.mem_cons, not_or] at outside
      obtain ⟨apart, outside⟩ := outside
      rw [List.cons_append, cutAt, if_neg (Ne.symm apart),
        inductionHypothesis outside]
      rfl

/-- Texts that a mark cuts are equal piece by piece. -/
theorem eq_of_cut_eq
    {mark : Char} {front otherFront back otherBack : List Char}
    (outside : mark ∉ front) (otherOutside : mark ∉ otherFront)
    (same : front ++ mark :: back = otherFront ++ mark :: otherBack) :
    front = otherFront ∧ back = otherBack := by
  have cut := cutAt_append outside back
  rw [same, cutAt_append otherOutside, Option.some.injEq, Prod.mk.injEq] at cut
  exact ⟨cut.1.symm, cut.2.symm⟩

theorem readPlace?_numeral (id : UInt16) :
    readPlace? (Text.numeral 10 id.toNat) = some (some id) := by
  have notWildcard : Text.numeral 10 id.toNat ≠ ['_'] := by
    intro same
    have member : '_' ∈ Text.numeral 10 id.toNat := by simp [same]
    exact Text.not_mem_numeral (by norm_num) (by norm_num) (by decide) member
  rw [readPlace?, if_neg notWildcard,
    Text.readNumeral?_numeral (by norm_num) (by norm_num)]
  simp [id.toNat_lt]

theorem toList_arm (classId methodId : UInt16) (name : String) :
    (arm classId methodId name).toList =
      '(' :: (Text.numeral 10 classId.toNat ++ ',' :: (' ' :: Text.numeral 10 methodId.toNat ++
        ')' :: ' ' :: '=' :: '>' :: ' ' :: Text.quoted name.toList)) := by
  simp [arm, Text.decimal, Text.quote]

theorem readArm?_arm (entry : UInt16 × UInt16 × String) :
    readArm? (arm entry.1 entry.2.1 entry.2.2) = some (.exact entry) := by
  obtain ⟨classId, methodId, name⟩ := entry
  -- The cuts fall where the arm puts its marks, as no digit is one of them.
  have outside (mark : Char) (id : UInt16) (other : Text.digitValue? 16 mark = none) :
      mark ∉ Text.numeral 10 id.toNat :=
    Text.not_mem_numeral (by norm_num) (by norm_num) other
  have comma := cutAt_append (outside ',' classId (by decide))
  have parenthesis :
      ')' ∉ ' ' :: Text.numeral 10 methodId.toNat := by
    simpa using outside ')' methodId (by decide)
  rw [readArm?, toList_arm]
  simp only [comma, cutAt_append parenthesis, Option.bind_eq_bind,
    Option.bind_some, readPlace?_numeral, Text.readLiteral?_quoted,
    String.ofList_toList]
  rfl

@[simp]
theorem readArm?_wildcardArm : readArm? wildcardArm = some .fallback := by
  decide +kernel

theorem map_readArm?_methodArms (protocol : Protocol) :
    (methodArms protocol).map readArm? =
      (protocol.entries.map Arm.exact ++ [Arm.fallback]).map some := by
  have declared :
      (fun entry : UInt16 × UInt16 × String =>
          readArm? (arm entry.1 entry.2.1 entry.2.2)) =
        fun entry => some (.exact entry) :=
    funext readArm?_arm
  rw [methodArms, List.map_append, List.map_append, List.map_map,
    List.map_map]
  change protocol.entries.map (fun entry => readArm? (arm entry.1 entry.2.1 entry.2.2)) ++ _ = _
  rw [declared]
  simp [readArm?_wildcardArm, Function.comp_def]

/-- Behind exact arms and the one for all pairs, the value is that of the entry
with the ids, or the name for undeclared pairs. -/
theorem valueOf?_exact (entries : List (UInt16 × UInt16 × String))
    (classId methodId : UInt16) :
    valueOf? (entries.map Arm.exact ++ [Arm.fallback]) classId methodId =
      some (((entries.find? fun entry =>
        Protocol.keyOf entry == (classId, methodId)).map fun entry => entry.2.2).getD
          undeclaredName) := by
  induction entries with
  | nil => rfl
  | cons entry entries inductionHypothesis =>
      rw [valueOf?] at inductionHypothesis ⊢
      rw [List.map_cons, List.cons_append, List.find?_cons, List.find?_cons]
      have taken :
          (Arm.exact entry).takes classId methodId =
            (Protocol.keyOf entry == (classId, methodId)) := rfl
      rw [taken]
      cases Protocol.keyOf entry == (classId, methodId) with
      | true => rfl
      | false => exact inductionHypothesis

theorem valueOf?_entries
    {protocol : Protocol} (keyed : protocol.Keyed) (classId methodId : UInt16) :
    valueOf? (protocol.entries.map Arm.exact ++ [Arm.fallback]) classId methodId =
      some (protocol.nameOf classId methodId) := by
  rw [valueOf?_exact, keyed.find?_entries, Protocol.nameOf]
  cases protocol.findMethod? classId methodId <;> rfl

theorem nodup_patterns {protocol : Protocol} (keyed : protocol.Keyed) :
    ((protocol.entries.map Arm.exact).map Arm.pattern).Nodup := by
  have distinct := keyed.nodup_keys.map
    (f := fun key : UInt16 × UInt16 => (some key.1, some key.2)) (by
      rintro ⟨_, _⟩ ⟨_, _⟩ same
      simpa using same)
  rw [List.map_map] at distinct ⊢
  exact distinct

/-- The generated table, read as a `match` in which the first arm that takes a
pair decides, names every pair of ids as the protocol and as the document do. -/
theorem methodArms_agree
    {spec : Spec} {protocol : Protocol}
    (accepted : spec.resolve.outcome = .ok protocol) :
    ∃ arms : List Arm,
      (methodArms protocol).map readArm? = (arms ++ [Arm.fallback]).map some ∧
        (arms.map Arm.pattern).Nodup ∧
        (∀ arm ∈ arms, arm.classId.isSome ∧ arm.methodId.isSome) ∧
        arms.length = protocol.methods.length ∧
        ∀ classId methodId : UInt16,
          valueOf? (arms ++ [Arm.fallback]) classId methodId =
              some (protocol.nameOf classId methodId) ∧
            spec.NameFor classId methodId (protocol.nameOf classId methodId) ∧
            (∀ method, protocol.findMethod? classId methodId = some method →
              method.classId = classId ∧ method.id = methodId) ∧
            ∀ payload,
              protocol.readFrame classId methodId payload = .ok none ↔
                protocol.nameOf classId methodId = undeclaredName := by
  obtain ⟨wellFormed, resolves, _⟩ := Spec.resolves_of_resolve accepted
  have keyed := resolves.keyed wellFormed
  refine ⟨protocol.entries.map Arm.exact, map_readArm?_methodArms protocol,
    nodup_patterns keyed, ?_, ?_, ?_⟩
  · intro arm member
    obtain ⟨entry, _, rfl⟩ := List.mem_map.mp member
    exact ⟨rfl, rfl⟩
  · rw [List.length_map, Protocol.length_entries]
  · intro classId methodId
    refine ⟨valueOf?_entries keyed classId methodId,
      resolves.nameFor_nameOf wellFormed classId methodId, ?_, ?_⟩
    · intro method found
      exact keyed.ids_of_findMethod? found
    · intro payload
      rw [Protocol.readFrame_eq_ok_none_iff,
        resolves.nameOf_eq_undeclaredName_iff wellFormed]

/-- A document with one class, whose second method has a quote, a backslash and
a character without a glyph in its name. -/
def quotedNames : Spec where
  name := none
  majorVersion := none
  minorVersion := none
  revision := none
  tcpPort := none
  domains := []
  classes :=
    [⟨90, "tx", [⟨10, "select", none, []⟩, ⟨11, "say-\"no\"\\\u0301", none, []⟩]⟩]

def quotedNamesProtocol : Protocol where
  info := ⟨none, none, none⟩
  domains := []
  classes :=
    [⟨90, Name.ofText "tx",
      [⟨10, 90, Name.ofText "select", "tx.select", false, []⟩,
        ⟨11, 90, Name.ofText "say-\"no\"\\\u0301", "tx.say-\"no\"\\\u0301", false, []⟩]⟩]

theorem methodArms_agree_quotedNames :
    quotedNames.resolve.outcome = .ok quotedNamesProtocol ∧
      ∃ arms : List Arm,
        (methodArms quotedNamesProtocol).map readArm? =
            (arms ++ [Arm.fallback]).map some ∧
          arms.length = 2 ∧
          valueOf? (arms ++ [Arm.fallback]) 90 11 =
            some "tx.say-\"no\"\\\u0301" ∧
          valueOf? (arms ++ [Arm.fallback]) 11 90 = some "UNKNOWN" := by
  have accepted : quotedNames.resolve.outcome = .ok quotedNamesProtocol := by
    decide +kernel
  obtain ⟨arms, read, _, _, count, names⟩ := methodArms_agree accepted
  exact ⟨accepted, arms, read, count, (names 90 11).1, (names 11 90).1⟩

end Source

end MethodCodec
