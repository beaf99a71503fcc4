import Mathlib
import MethodCodec.Proofs.FittingPlan
import MethodCodec.Proofs.MethodTable

/-!
# What the outline of a protocol keeps

The outline of an accepted document leaves nothing out but the order of its
domains: what else a protocol holds is shown, or it follows from what is shown.
-/

namespace MethodCodec

/-! ## Equal data -/

namespace Outline

/-- Equality of data.  The members of a record may stand in any order. -/
inductive Same : Outline → Outline → Prop
  | nothing : Same .nothing .nothing
  | flag (value : Bool) : Same (.flag value) (.flag value)
  | number (value : Nat) : Same (.number value) (.number value)
  | text (value : String) : Same (.text value) (.text value)
  | list {items others : List Outline} (each : List.Forall₂ Same items others) :
      Same (.list items) (.list others)
  | record {members reordered others : List (String × Outline)}
      (order : members.Perm reordered)
      (keys : reordered.map Prod.fst = others.map Prod.fst)
      (values : List.Forall₂ Same (reordered.map Prod.snd) (others.map Prod.snd)) :
      Same (.record members) (.record others)

mutual

theorem Same.refl : ∀ outline : Outline, Same outline outline
  | .nothing => .nothing
  | .flag value => .flag value
  | .number value => .number value
  | .text value => .text value
  | .list items => .list (same_items items)
  | .record members => .record (List.Perm.refl members) rfl (same_values members)

theorem same_items : ∀ items : List Outline, List.Forall₂ Same items items
  | [] => .nil
  | item :: rest => .cons (Same.refl item) (same_items rest)

theorem same_values :
    ∀ members : List (String × Outline),
      List.Forall₂ Same (members.map Prod.snd) (members.map Prod.snd)
  | [] => .nil
  | (_, value) :: rest => .cons (Same.refl value) (same_values rest)

end

theorem same_nothing_iff {outline : Outline} :
    Same outline .nothing ↔ outline = .nothing := by
  constructor
  · rintro ⟨⟩
    rfl
  · rintro rfl
    exact .nothing

theorem not_same_nothing {outline : Outline} (shown : outline ≠ .nothing) :
    ¬ Same .nothing outline := by
  rintro ⟨⟩
  exact shown rfl

theorem same_flag_iff {value other : Bool} :
    Same (.flag value) (.flag other) ↔ value = other := by
  constructor
  · rintro ⟨⟩
    rfl
  · rintro rfl
    exact .flag value

theorem same_number_iff {value other : Nat} :
    Same (.number value) (.number other) ↔ value = other := by
  constructor
  · rintro ⟨⟩
    rfl
  · rintro rfl
    exact .number value

theorem same_text_iff {outline : Outline} {value : String} :
    Same outline (.text value) ↔ outline = .text value := by
  constructor
  · rintro ⟨⟩
    rfl
  · rintro rfl
    exact .text value

theorem same_list_iff {items others : List Outline} :
    Same (.list items) (.list others) ↔ List.Forall₂ Same items others := by
  constructor
  · rintro ⟨⟩
    assumption
  · exact .list

/-! ## Equal members -/

/-- Members with one key and equal data. -/
def SameMember (member other : String × Outline) : Prop :=
  member.1 = other.1 ∧ Same member.2 other.2

/-- Members that are the same in some order. -/
def SameMembers (members others : List (String × Outline)) : Prop :=
  ∃ reordered, members.Perm reordered ∧ List.Forall₂ SameMember reordered others

section Members

variable {members others : List (String × Outline)}

theorem SameMembers.perm
    {moved otherMoved : List (String × Outline)} (same : SameMembers members others)
    (order : members.Perm moved) (otherOrder : others.Perm otherMoved) :
    SameMembers moved otherMoved := by
  obtain ⟨reordered, reorder, paired⟩ := same
  have composed :
      Relation.Comp (List.Forall₂ SameMember) List.Perm reordered otherMoved :=
    ⟨others, paired, otherOrder⟩
  rw [List.forall₂_comp_perm_eq_perm_comp_forall₂] at composed
  obtain ⟨again, reorderAgain, paired⟩ := composed
  exact ⟨again, order.symm.trans (reorder.trans reorderAgain), paired⟩

theorem forall₂_sameMember_iff :
    List.Forall₂ SameMember members others ↔
      members.map Prod.fst = others.map Prod.fst ∧
        List.Forall₂ Same (members.map Prod.snd) (others.map Prod.snd) := by
  induction members generalizing others with
  | nil => cases others <;> simp
  | cons member members inductionHypothesis =>
      cases others with
      | nil => simp
      | cons other others =>
          simp only [List.forall₂_cons, inductionHypothesis, SameMember,
            List.map_cons, List.cons.injEq]
          tauto

theorem same_record_iff :
    Same (.record members) (.record others) ↔ SameMembers members others := by
  constructor
  · intro same
    cases same with
    | record order keys values =>
        exact ⟨_, order, forall₂_sameMember_iff.mpr ⟨keys, values⟩⟩
  · rintro ⟨reordered, order, paired⟩
    obtain ⟨keys, values⟩ := forall₂_sameMember_iff.mp paired
    exact .record order keys values

theorem same_ofMembers_iff :
    Same (ofMembers members) (ofMembers others) ↔ SameMembers members others := by
  have sorted := List.mergeSort_perm members fun first second => first.1 ≤ second.1
  have otherSorted :=
    List.mergeSort_perm others fun first second => first.1 ≤ second.1
  rw [ofMembers, ofMembers, same_record_iff]
  exact ⟨fun same => same.perm sorted otherSorted,
    fun same => same.perm sorted.symm otherSorted.symm⟩

/-- Where each key has one member, only one order of the members fits them. -/
theorem Same.values
    (same : Same (ofMembers members) (ofMembers others))
    (keys : members.map Prod.fst = others.map Prod.fst)
    (distinct : (members.map Prod.fst).Nodup) :
    List.Forall₂ Same (members.map Prod.snd) (others.map Prod.snd) := by
  obtain ⟨reordered, order, paired⟩ := same_ofMembers_iff.mp same
  obtain ⟨reorderedKeys, values⟩ := forall₂_sameMember_iff.mp paired
  have unmoved : members = reordered := by
    refine List.ext_getElem order.length_eq fun index bound otherBound => ?_
    refine List.inj_on_of_nodup_map distinct (List.getElem_mem bound)
      (order.mem_iff.mpr (List.getElem_mem otherBound)) ?_
    have sameKeys := congrArg (·[index]?) (keys.trans reorderedKeys.symm)
    simpa [bound, otherBound] using sameKeys
  rwa [unmoved]

end Members

/-! ## Data that tell what they show -/

section Shown

variable {α : Type}

theorem eq_of_same_optional
    {outline : α → Outline}
    (apart : ∀ {value other : α}, Same (outline value) (outline other) → value = other)
    (shown : ∀ value, outline value ≠ .nothing) {field other : Option α}
    (same : Same (optional outline field) (optional outline other)) :
    field = other := by
  cases field with
  | none =>
      cases other with
      | none => rfl
      | some value => exact absurd same (not_same_nothing (shown value))
  | some value =>
      cases other with
      | none => exact absurd (same_nothing_iff.mp same) (shown value)
      | some otherValue => exact congrArg some (apart same)

/-- Lists are equal if what is shown of each item tells it from the items of
the other list. -/
theorem eq_of_same_items
    (shows : α → Outline → Prop) {items others : List α}
    {outlines otherOutlines : List Outline}
    (shown : List.Forall₂ shows items outlines)
    (otherShown : List.Forall₂ shows others otherOutlines)
    (same : List.Forall₂ Same outlines otherOutlines)
    (apart : ∀ item ∈ items, ∀ other ∈ others, ∀ outline otherOutline,
      shows item outline → shows other otherOutline →
        Same outline otherOutline → item = other) :
    items = others := by
  induction shown generalizing others otherOutlines with
  | nil =>
      cases same
      cases otherShown
      rfl
  | cons here _ inductionHypothesis =>
      cases same with
      | cons sameHere sameLater =>
          cases otherShown with
          | cons otherHere otherLater =>
              rw [apart _ List.mem_cons_self _ List.mem_cons_self _ _ here
                  otherHere sameHere,
                inductionHypothesis otherLater sameLater
                  fun item member other otherMember =>
                    apart item (List.mem_cons_of_mem _ member) other
                      (List.mem_cons_of_mem _ otherMember)]

end Shown

end Outline

/-! ## Versions -/

theorem eq_of_numeral_eq {number other : Nat}
    (same : Text.numeral 10 number = Text.numeral 10 other) : number = other := by
  have read {value : Nat} : Text.readNumeral? 10 (Text.numeral 10 value) = some value :=
    Text.readNumeral?_numeral (by omega) (by omega)
  exact Option.some.inj (by rw [← read, same, read])

/-- A numeral in front of a hyphen is read off the text. -/
theorem eq_of_hyphened_eq
    {number other : Nat} {back otherBack : List Char}
    (same : Text.numeral 10 number ++ '-' :: back =
      Text.numeral 10 other ++ '-' :: otherBack) :
    number = other ∧ back = otherBack := by
  have digits (value : Nat) : '-' ∉ Text.numeral 10 value :=
    Text.not_mem_numeral (by omega) (by omega) (by decide)
  obtain ⟨numerals, backs⟩ := Source.eq_of_cut_eq (digits number) (digits other) same
  exact ⟨eq_of_numeral_eq numerals, backs⟩

theorem versionText_injective : Function.Injective versionText := by
  rintro ⟨major, minor, revision⟩ ⟨otherMajor, otherMinor, otherRevision⟩ same
  have texts := congrArg String.toList same
  simp only [versionText, Text.decimal, String.toList_append, String.toList_ofList,
    List.append_assoc] at texts
  obtain ⟨majors, texts⟩ := eq_of_hyphened_eq texts
  obtain ⟨minors, texts⟩ := eq_of_hyphened_eq texts
  rw [UInt8.toNat_inj.mp majors, UInt8.toNat_inj.mp minors,
    UInt8.toNat_inj.mp (eq_of_numeral_eq texts)]

/-! ## Protocols whose names are those of a document -/

/-- A field with the identifiers that its name has. -/
def Field.Named (field : Field) : Prop :=
  field.name = Name.ofText field.name.written

/-- A method with the identifiers that its name has, and with what it takes from
its class. -/
structure Method.NamedIn (cls : ProtocolClass) (method : Method) : Prop where
  classId : method.classId = cls.id
  name : method.name = Name.ofText method.name.written
  qualifiedName :
    method.qualifiedName = cls.name.written ++ "." ++ method.name.written
  fields : ∀ field ∈ method.fields, field.Named

structure ProtocolClass.Named (cls : ProtocolClass) : Prop where
  name : cls.name = Name.ofText cls.name.written
  methods : ∀ method ∈ cls.methods, method.NamedIn cls

namespace Spec

variable {spec : Spec}

theorem ResolvesArgument.named
    {argument : ArgumentSpec} {field : Field}
    (resolves : spec.ResolvesArgument argument field) : field.Named := by
  rw [Field.Named, resolves.name]
  rfl

theorem ResolvesClass.named
    {cls : ClassSpec} {resolved : ProtocolClass}
    (resolves : spec.ResolvesClass cls resolved) : resolved.Named where
  name := by
    rw [resolves.name]
    rfl
  methods method member := by
    obtain ⟨declared, _, resolvesMethod⟩ :=
      exists_left_of_forall₂ resolves.methods member
    refine ⟨?_, ?_, ?_, fun field inside => ?_⟩
    · rw [resolvesMethod.classId, resolves.id]
    · rw [resolvesMethod.name]
      rfl
    · rw [resolvesMethod.qualifiedName, resolves.name, resolvesMethod.name]
      rfl
    · obtain ⟨argument, _, resolvesArgument⟩ :=
        exists_left_of_forall₂ resolvesMethod.fields inside
      exact resolvesArgument.named

theorem Resolves.named
    {protocol : Protocol} (resolves : spec.Resolves protocol) :
    ∀ cls ∈ protocol.classes, cls.Named := by
  intro cls member
  obtain ⟨declared, _, resolvesClass⟩ :=
    exists_left_of_forall₂ resolves.classes member
  exact resolvesClass.named

theorem Resolves.nodup_aliases
    {protocol : Protocol} (resolves : spec.Resolves protocol)
    (wellFormed : spec.WellFormed) : (protocol.domains.map Prod.fst).Nodup := by
  rw [map_eq_map_of_forall₂ resolves.domains fun _ _ declared => declared.1]
  exact wellFormed.aliases

end Spec

/-! ## What an outline tells -/

open Outline

theorem ProtocolInfo.eq_of_same
    {info other : ProtocolInfo} (same : Same info.outline other.outline) :
    info = other := by
  have values := same.values rfl (by simp)
  simp only [List.map_cons, List.map_nil, List.forall₂_cons] at values
  obtain ⟨name, version, port, _⟩ := values
  cases info
  cases other
  congr
  · refine eq_of_same_optional (fun same => ?_) (by simp) name
    simpa [same_text_iff] using same
  · refine eq_of_same_optional (fun same => ?_) (by simp) version
    exact versionText_injective (by simpa [same_text_iff] using same)
  · refine eq_of_same_optional (fun same => ?_) (by simp) port
    exact UInt16.toNat_inj.mp (same_number_iff.mp same)

theorem Field.eq_of_same
    {field other : Field} (named : field.Named) (otherNamed : other.Named)
    (same : Same field.outline other.outline) : field = other := by
  have values := same.values rfl (by simp)
  simp only [List.map_cons, List.map_nil, List.forall₂_cons] at values
  obtain ⟨written, _, type, domain, _⟩ := values
  have names : field.name = other.name := by
    rw [named, otherNamed, text.inj (same_text_iff.mp written)]
  have types : field.type = other.type :=
    WireType.spelling_injective (text.inj (same_text_iff.mp type))
  have domains : field.domain = other.domain := by
    refine eq_of_same_optional (fun same => ?_) (by simp) domain
    exact text.inj (same_text_iff.mp same)
  cases field
  cases other
  congr

namespace Method

/-- A method has an outline by its layout, of whose nodes none is needed to
tell the method. -/
theorem exists_of_outline
    {method : Method} {outline : Outline} (shown : method.outline = .ok outline) :
    ∃ nodes,
      outline = .ofMembers [
        ("id", .number method.id.toNat),
        ("name", .text method.qualifiedName),
        ("struct", .text method.name.pascal),
        ("synchronous", .flag method.synchronous),
        ("fields", .list (method.fields.map Field.outline)),
        ("layout", .list nodes)] := by
  rw [Method.outline] at shown
  cases found : method.layout.mapM method.outlineSegment with
  | error fault =>
      rw [found] at shown
      cases shown
  | ok nodes =>
      rw [found] at shown
      exact ⟨nodes, (Except.ok.inj shown).symm⟩

/-- Within one class the name of a method is what its qualified name has behind
the name of the class. -/
theorem eq_of_same
    {cls otherClass : ProtocolClass} {method other : Method}
    (named : method.NamedIn cls) (otherNamed : other.NamedIn otherClass)
    (sameId : cls.id = otherClass.id) (sameName : cls.name = otherClass.name)
    {outline otherOutline : Outline} (shown : method.outline = .ok outline)
    (otherShown : other.outline = .ok otherOutline)
    (same : Same outline otherOutline) : method = other := by
  obtain ⟨nodes, rfl⟩ := exists_of_outline shown
  obtain ⟨otherNodes, rfl⟩ := exists_of_outline otherShown
  have values := same.values rfl (by simp)
  simp only [List.map_cons, List.map_nil, List.forall₂_cons] at values
  obtain ⟨id, qualified, _, synchronous, fields, _⟩ := values
  have qualifiedNames : method.qualifiedName = other.qualifiedName :=
    text.inj (same_text_iff.mp qualified)
  have names : method.name = other.name := by
    rw [named.qualifiedName, otherNamed.qualifiedName, sameName,
      String.append_right_inj] at qualifiedNames
    rw [named.name, otherNamed.name, qualifiedNames]
  have classIds : method.classId = other.classId := by
    rw [named.classId, otherNamed.classId, sameId]
  have sameFields : method.fields = other.fields := by
    have shown (fields : List Field) :
        List.Forall₂ (fun field outline => field.outline = outline) fields
          (fields.map Field.outline) :=
      List.forall₂_map_right_iff.mpr (List.forall₂_same.mpr fun _ _ => rfl)
    refine eq_of_same_items _ (shown method.fields) (shown other.fields)
      (same_list_iff.mp fields) ?_
    rintro field member otherField otherMember _ _ rfl rfl sameField
    exact Field.eq_of_same (named.fields field member)
      (otherNamed.fields otherField otherMember) sameField
  have ids := UInt16.toNat_inj.mp (same_number_iff.mp id)
  have synchronousFlags := same_flag_iff.mp synchronous
  cases method
  cases other
  congr

end Method

namespace ProtocolClass

theorem exists_of_outline
    {cls : ProtocolClass} {outline : Outline} (shown : cls.outline = .ok outline) :
    ∃ methods,
      cls.methods.mapM Method.outline = .ok methods ∧
        outline = .ofMembers [
          ("id", .number cls.id.toNat),
          ("name", .text cls.name.written),
          ("module", .text cls.name.snake),
          ("methods", .list methods)] := by
  rw [ProtocolClass.outline] at shown
  cases found : cls.methods.mapM Method.outline with
  | error fault =>
      rw [found] at shown
      cases shown
  | ok methods =>
      rw [found] at shown
      exact ⟨methods, rfl, (Except.ok.inj shown).symm⟩

theorem eq_of_same
    {cls other : ProtocolClass} (named : cls.Named) (otherNamed : other.Named)
    {outline otherOutline : Outline} (shown : cls.outline = .ok outline)
    (otherShown : other.outline = .ok otherOutline)
    (same : Same outline otherOutline) : cls = other := by
  obtain ⟨methods, methodsShown, rfl⟩ := exists_of_outline shown
  obtain ⟨otherMethods, otherMethodsShown, rfl⟩ := exists_of_outline otherShown
  have values := same.values rfl (by simp)
  simp only [List.map_cons, List.map_nil, List.forall₂_cons] at values
  obtain ⟨id, written, _, inside, _⟩ := values
  have ids : cls.id = other.id := UInt16.toNat_inj.mp (same_number_iff.mp id)
  have names : cls.name = other.name := by
    rw [named.name, otherNamed.name, text.inj (same_text_iff.mp written)]
  have sameMethods : cls.methods = other.methods := by
    refine eq_of_same_items (fun method outline => method.outline = .ok outline)
      (mapM_eq_ok_iff.mp methodsShown) (mapM_eq_ok_iff.mp otherMethodsShown)
      (same_list_iff.mp inside) ?_
    intro method member otherMethod otherMember _ _ shown otherShown sameMethod
    exact Method.eq_of_same (named.methods method member)
      (otherNamed.methods otherMethod otherMember) ids names shown otherShown
      sameMethod
  cases cls
  cases other
  congr

end ProtocolClass

/-! ## Domains -/

/-- The member that shows a domain. -/
def domainMember (entry : String × WireType) : String × Outline :=
  (entry.1, .text entry.2.spelling)

theorem domainMember_injective : Function.Injective domainMember := by
  rintro ⟨name, kind⟩ ⟨otherName, otherKind⟩ same
  obtain ⟨names, spellings⟩ := Prod.mk.inj same
  exact Prod.ext names (WireType.spelling_injective (text.inj spellings))

theorem sameMembers_domains_iff {domains others : List (String × WireType)} :
    SameMembers (domains.map domainMember) (others.map domainMember) ↔
      domains.Perm others := by
  rw [← List.map_perm_map_iff domainMember_injective]
  constructor
  · rintro ⟨reordered, order, paired⟩
    have unchanged : others.map domainMember = reordered.map id :=
      map_eq_map_of_forall₂ (List.forall₂_map_right_iff.mp paired)
        fun _ _ same => Prod.ext same.1.symm (same_text_iff.mp same.2).symm
    rw [unchanged, List.map_id]
    exact order
  · intro order
    exact ⟨_, order, forall₂_sameMember_iff.mpr ⟨rfl, same_values _⟩⟩

/-- Tables with one entry for each alias agree as maps if they have the same
entries. -/
theorem perm_iff_lookup_eq
    {domains others : List (String × WireType)}
    (aliases : (domains.map Prod.fst).Nodup)
    (otherAliases : (others.map Prod.fst).Nodup) :
    domains.Perm others ↔
      ∀ domain, domains.lookup domain = others.lookup domain := by
  rw [List.perm_ext_iff_of_nodup aliases.of_map otherAliases.of_map]
  constructor
  · intro same domain
    refine Option.ext fun kind => ?_
    rw [lookup_eq_some_iff_mem aliases, lookup_eq_some_iff_mem otherAliases, same]
  · rintro same ⟨domain, kind⟩
    rw [← lookup_eq_some_iff_mem aliases, ← lookup_eq_some_iff_mem otherAliases, same]

/-! ## Protocols -/

/-- Protocols that differ at most in the order of their domains. -/
structure Protocol.SameButOrder (protocol other : Protocol) : Prop where
  info : protocol.info = other.info
  domains :
    ∀ domain, protocol.domains.lookup domain = other.domains.lookup domain
  classes : protocol.classes = other.classes

theorem Protocol.exists_of_outline
    {protocol : Protocol} {outline : Outline}
    (shown : protocol.outline = .ok outline) :
    ∃ classes,
      protocol.classes.mapM ProtocolClass.outline = .ok classes ∧
        outline = .ofMembers [
          ("info", protocol.info.outline),
          ("domains", .ofMembers (protocol.domains.map domainMember)),
          ("classes", .list classes)] := by
  rw [Protocol.outline] at shown
  cases found : protocol.classes.mapM ProtocolClass.outline with
  | error fault =>
      rw [found] at shown
      cases shown
  | ok classes =>
      rw [found] at shown
      exact ⟨classes, rfl, (Except.ok.inj shown).symm⟩

/-- Protocols that differ at most in the order of their domains have the same
outline. -/
theorem Protocol.SameButOrder.same_outline
    {protocol other : Protocol} (same : protocol.SameButOrder other)
    (aliases : (protocol.domains.map Prod.fst).Nodup)
    (otherAliases : (other.domains.map Prod.fst).Nodup)
    {outline otherOutline : Outline} (shown : protocol.outline = .ok outline)
    (otherShown : other.outline = .ok otherOutline) :
    Same outline otherOutline := by
  obtain ⟨classes, classesShown, rfl⟩ := Protocol.exists_of_outline shown
  obtain ⟨otherClasses, otherClassesShown, rfl⟩ :=
    Protocol.exists_of_outline otherShown
  have domains := (perm_iff_lookup_eq aliases otherAliases).mpr same.domains
  rw [same.classes, otherClassesShown, Except.ok.injEq] at classesShown
  rw [same_ofMembers_iff, same.info, classesShown]
  refine ⟨_, List.Perm.refl _, forall₂_sameMember_iff.mpr ⟨rfl, ?_⟩⟩
  exact .cons (Same.refl _)
    (.cons (same_ofMembers_iff.mpr (sameMembers_domains_iff.mpr domains))
      (.cons (Same.refl _) .nil))

/-- A protocol is known from its outline up to the order of its domains. -/
theorem Protocol.sameButOrder_of_same_outline
    {protocol other : Protocol}
    (aliases : (protocol.domains.map Prod.fst).Nodup)
    (otherAliases : (other.domains.map Prod.fst).Nodup)
    (named : ∀ cls ∈ protocol.classes, cls.Named)
    (otherNamed : ∀ cls ∈ other.classes, cls.Named)
    {outline otherOutline : Outline} (shown : protocol.outline = .ok outline)
    (otherShown : other.outline = .ok otherOutline)
    (same : Same outline otherOutline) : protocol.SameButOrder other := by
  obtain ⟨classes, classesShown, rfl⟩ := Protocol.exists_of_outline shown
  obtain ⟨otherClasses, otherClassesShown, rfl⟩ :=
    Protocol.exists_of_outline otherShown
  have values := same.values rfl (by simp)
  simp only [List.map_cons, List.map_nil, List.forall₂_cons] at values
  obtain ⟨info, domains, inside, _⟩ := values
  refine ⟨ProtocolInfo.eq_of_same info, ?_, ?_⟩
  · exact (perm_iff_lookup_eq aliases otherAliases).mp
      (sameMembers_domains_iff.mp (same_ofMembers_iff.mp domains))
  · refine eq_of_same_items (fun cls outline => cls.outline = .ok outline)
      (mapM_eq_ok_iff.mp classesShown) (mapM_eq_ok_iff.mp otherClassesShown)
      (same_list_iff.mp inside) ?_
    intro cls member otherClass otherMember _ _ shown otherShown sameClass
    exact ProtocolClass.eq_of_same (named cls member)
      (otherNamed otherClass otherMember) shown otherShown sameClass

/-- The outlines of accepted documents are the same, whatever the order of the
members, exactly if their protocols differ at most in the order of the domains.
Equal classes have equal layouts, as a layout is that of the fields. -/
theorem Spec.same_outline_iff
    {spec other : Spec} {protocol otherProtocol : Protocol}
    (accepted : spec.resolve.outcome = .ok protocol)
    (otherAccepted : other.resolve.outcome = .ok otherProtocol) :
    ∃ outline otherOutline,
      protocol.outline = .ok outline ∧
        otherProtocol.outline = .ok otherOutline ∧
        (Same outline otherOutline ↔ protocol.SameButOrder otherProtocol) := by
  obtain ⟨wellFormed, resolves, _⟩ := resolves_of_resolve accepted
  obtain ⟨otherWellFormed, otherResolves, _⟩ := resolves_of_resolve otherAccepted
  obtain ⟨outline, shown⟩ := protocol.exists_outline
  obtain ⟨otherOutline, otherShown⟩ := otherProtocol.exists_outline
  have aliases := resolves.nodup_aliases wellFormed
  have otherAliases := otherResolves.nodup_aliases otherWellFormed
  refine ⟨outline, otherOutline, shown, otherShown, fun same => ?_, fun same => ?_⟩
  · exact Protocol.sameButOrder_of_same_outline aliases otherAliases
      resolves.named otherResolves.named shown otherShown same
  · exact same.same_outline aliases otherAliases shown otherShown

/-- A document with a method whose arguments have their types through the given
domains. -/
def flowDocument (domains : List (String × String)) (synchronous : Bool) : Spec where
  name := some "flow"
  majorVersion := some 0
  minorVersion := some 9
  revision := some 1
  tcpPort := some 5672
  domains
  classes :=
    [⟨20, "channel", [⟨20, "flow-ok", some synchronous,
      [⟨"active", none, some "flag"⟩, ⟨"limit", none, some "count"⟩]⟩]⟩]

def flowProtocol (domains : List (String × WireType)) (synchronous : Bool) :
    Protocol where
  info := ⟨some "flow", some (0, 9, 1), some 5672⟩
  domains
  classes :=
    [⟨20, Name.ofText "channel",
      [⟨20, 20, Name.ofText "flow-ok", "channel.flow-ok", synchronous,
        [⟨Name.ofText "active", .bit, some "flag"⟩,
          ⟨Name.ofText "limit", .long, some "count"⟩]⟩]⟩]

theorem Spec.same_outline_iff_flowDocument :
    ∃ outline reordered changed,
      (flowProtocol [("flag", .bit), ("count", .long)] true).outline = .ok outline ∧
        (flowProtocol [("count", .long), ("flag", .bit)] true).outline =
          .ok reordered ∧
        (flowProtocol [("flag", .bit), ("count", .long)] false).outline =
          .ok changed ∧
        Same outline reordered ∧ ¬ Same outline changed := by
  have accepted :
      (flowDocument [("flag", "bit"), ("count", "long")] true).resolve.outcome =
        .ok (flowProtocol [("flag", .bit), ("count", .long)] true) := by
    decide +kernel
  have reorderedAccepted :
      (flowDocument [("count", "long"), ("flag", "bit")] true).resolve.outcome =
        .ok (flowProtocol [("count", .long), ("flag", .bit)] true) := by
    decide +kernel
  have changedAccepted :
      (flowDocument [("flag", "bit"), ("count", "long")] false).resolve.outcome =
        .ok (flowProtocol [("flag", .bit), ("count", .long)] false) := by
    decide +kernel
  obtain ⟨outline, reordered, shown, reorderedShown, same⟩ :=
    same_outline_iff accepted reorderedAccepted
  obtain ⟨_, changed, shownAgain, changedShown, other⟩ :=
    same_outline_iff accepted changedAccepted
  rw [shown, Except.ok.injEq] at shownAgain
  subst shownAgain
  refine ⟨outline, reordered, changed, shown, reorderedShown, changedShown, ?_, ?_⟩
  · refine same.mpr ⟨rfl, fun domain => ?_, rfl⟩
    have order :
        [("flag", WireType.bit), ("count", WireType.long)].Perm
          [("count", .long), ("flag", .bit)] :=
      List.Perm.swap _ _ _
    exact (perm_iff_lookup_eq (by decide) (by decide)).mp order domain
  · intro sameOutline
    exact absurd (other.mp sameOutline).classes (by decide)

end MethodCodec
