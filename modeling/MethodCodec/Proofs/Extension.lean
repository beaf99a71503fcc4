import Mathlib
import MethodCodec.Proofs.FileScope
import MethodCodec.Proofs.Literal

/-!
# Files of extended documents

A class appended to a document leaves the generated file as it is but for two
places: the arms of its methods stand before the wildcard of the table, and its
module stands at the end.
-/

namespace MethodCodec

/-! ## Extended documents -/

namespace Spec

/-- A document with one class more, at the end. -/
def withClass (spec : Spec) (cls : ClassSpec) : Spec :=
  { spec with classes := spec.classes ++ [cls] }

/-- A document that is accepted, and the text of the file it gives. -/
def Generates (spec : Spec) (settings : SourceSettings) (text : String) : Prop :=
  ∃ protocol,
    spec.resolve.outcome = .ok protocol ∧
      (protocol.generate settings).outcome = .ok text

variable {spec : Spec} {cls : ClassSpec}

/-- The type of an argument depends on the domains and on nothing else of a
document. -/
theorem hasType_withClass :
    (spec.withClass cls).HasType = spec.HasType := by
  funext argument kind
  apply propext
  constructor
  · rintro (⟨type, noDomain⟩ | ⟨noType, name, declared⟩)
    · exact .direct type noDomain
    · exact .named noType name declared
  · rintro (⟨type, noDomain⟩ | ⟨noType, name, declared⟩)
    · exact .direct type noDomain
    · exact .named noType name declared

theorem resolvesArgument_withClass :
    (spec.withClass cls).ResolvesArgument = spec.ResolvesArgument := by
  funext argument field
  apply propext
  constructor
  · rintro ⟨name, type, domain⟩
    exact ⟨name, by rwa [hasType_withClass] at type, domain⟩
  · rintro ⟨name, type, domain⟩
    exact ⟨name, by rwa [hasType_withClass], domain⟩

theorem resolvesMethod_withClass :
    (spec.withClass cls).ResolvesMethod = spec.ResolvesMethod := by
  funext owner method resolved
  apply propext
  constructor
  · rintro ⟨id, classId, name, qualifiedName, synchronous, fields, layout⟩
    exact ⟨id, classId, name, qualifiedName, synchronous,
      by rwa [resolvesArgument_withClass] at fields, layout⟩
  · rintro ⟨id, classId, name, qualifiedName, synchronous, fields, layout⟩
    exact ⟨id, classId, name, qualifiedName, synchronous,
      by rwa [resolvesArgument_withClass], layout⟩

theorem resolvesClass_withClass :
    (spec.withClass cls).ResolvesClass = spec.ResolvesClass := by
  funext owner resolved
  apply propext
  constructor
  · rintro ⟨id, name, methods⟩
    exact ⟨id, name, by rwa [resolvesMethod_withClass] at methods⟩
  · rintro ⟨id, name, methods⟩
    exact ⟨id, name, by rwa [resolvesMethod_withClass]⟩

theorem WellFormed.of_withClass
    (wellFormed : (spec.withClass cls).WellFormed) : spec.WellFormed where
  aliases := wellFormed.aliases
  classIds := by
    have ids := wellFormed.classIds
    rw [withClass, List.map_append] at ids
    exact ids.of_append_left
  methodIds := fun owner member =>
    wellFormed.methodIds owner (List.mem_append_left _ member)
  clear := fun owner member =>
    wellFormed.clear owner (List.mem_append_left _ member)

end Spec

/-- A protocol with one class more, at the end. -/
def Protocol.withClass (protocol : Protocol) (added : ProtocolClass) : Protocol :=
  { protocol with classes := protocol.classes ++ [added] }

namespace Protocol

variable {protocol : Protocol} {added : ProtocolClass}

theorem Apart.of_withClass
    (apart : (protocol.withClass added).Apart) : protocol.Apart where
  free := fun cls member => apart.free cls (List.mem_append_left _ member)
  modules := by
    have modules := apart.modules
    rw [withClass, List.map_append] at modules
    exact modules.of_append_left
  inside := fun cls member => apart.inside cls (List.mem_append_left _ member)

theorem importCollision?_of_withClass
    {typeName : String}
    (free : (protocol.withClass added).importCollision? typeName = none) :
    protocol.importCollision? typeName = none := by
  rw [importCollision?_eq_none_iff] at free ⊢
  exact fun cls member => free cls (List.mem_append_left _ member)

end Protocol

theorem exists_concat_of_forall₂
    {α β : Type} {R : α → β → Prop} {items : List α} {item : α}
    {others : List β} (paired : List.Forall₂ R (items ++ [item]) others) :
    ∃ front other,
      others = front ++ [other] ∧ List.Forall₂ R items front ∧ R item other := by
  induction items generalizing others with
  | nil =>
      obtain ⟨other, _, related, nothing, rfl⟩ := List.forall₂_cons_left_iff.mp paired
      cases nothing
      exact ⟨[], other, rfl, .nil, related⟩
  | cons first items inductionHypothesis =>
      obtain ⟨firstOther, _, related, tail, rfl⟩ :=
        List.forall₂_cons_left_iff.mp paired
      obtain ⟨front, other, rfl, before, last⟩ := inductionHypothesis tail
      exact ⟨firstOther :: front, other, rfl, .cons related before, last⟩

/-- Where the longer document is accepted, so is the shorter, and its protocol
lacks the last class and nothing else. -/
theorem Spec.resolve_of_withClass
    {spec : Spec} {cls : ClassSpec} {extended : Protocol}
    (accepted : (spec.withClass cls).resolve.outcome = .ok extended) :
    ∃ protocol added,
      spec.resolve.outcome = .ok protocol ∧
        spec.ResolvesClass cls added ∧ extended = protocol.withClass added := by
  obtain ⟨outcome, verdict⟩ := (spec.withClass cls).exists_verdict
  rw [outcome_of_verdict verdict] at accepted
  subst accepted
  cases verdict with
  | accepted wellFormed typed known resolves noCollision =>
      obtain ⟨info, domains, paired⟩ := resolves
      rw [resolvesClass_withClass] at paired
      obtain ⟨front, added, classes, before, last⟩ :=
        exists_concat_of_forall₂ paired
      let protocol : Protocol := { extended with classes := front }
      have grown : extended = protocol.withClass added := by
        cases extended
        cases classes
        rfl
      have resolves : spec.Resolves protocol := ⟨info, domains, before⟩
      have apart : protocol.collision? = none := by
        rw [grown, Protocol.collision?_eq_none_iff] at noCollision
        exact Protocol.collision?_eq_none_iff.mpr noCollision.of_withClass
      have knownBefore : ∀ owner ∈ spec.classes, spec.KnownClass owner :=
        fun owner member => known owner (List.mem_append_left _ member)
      refine ⟨protocol, added, ?_, last, grown⟩
      rw [outcome_resolve_of_known wellFormed.of_withClass typed knownBefore
        resolves, apart]

namespace Source

/-! ## Joined lines and sections -/

@[simp]
theorem endLines_append (front back : List String) :
    endLines (front ++ back) = endLines front ++ endLines back := by
  induction front with
  | nil =>
      rw [List.nil_append, endLines, String.empty_append]
  | cons line front inductionHypothesis =>
      rw [List.cons_append, endLines, endLines, inductionHypothesis,
        String.append_assoc, String.append_assoc, String.append_assoc]

theorem joinLines_append (front : List String) {back : List String}
    (inhabited : back ≠ []) :
    joinLines (front ++ back) = endLines front ++ joinLines back := by
  induction front with
  | nil =>
      rw [List.nil_append, endLines, String.empty_append]
  | cons line front inductionHypothesis =>
      have behind : front ++ back ≠ [] :=
        List.append_ne_nil_of_right_ne_nil front inhabited
      rw [List.cons_append, endLines, joinLines.eq_3 _ _ behind,
        inductionHypothesis]
      simp only [String.append_assoc]

theorem joinSections_cons (first next : String) (sections : List String) :
    joinSections (first :: next :: sections) =
      first ++ "\n\n" ++ joinSections (next :: sections) :=
  joinSections.eq_3 first _ (List.cons_ne_nil next sections)

theorem joinSections_append_cons (front back : String) (sections : List String) :
    joinSections ((front ++ back) :: sections) =
      front ++ joinSections (back :: sections) := by
  cases sections with
  | nil =>
      rw [joinSections, joinSections, String.append_assoc]
  | cons next sections =>
      rw [joinSections_cons, joinSections_cons]
      simp only [String.append_assoc]

theorem joinSections_concat
    (first : String) (sections : List String) (last : String) :
    joinSections (first :: sections ++ [last]) =
      joinSections (first :: sections) ++ "\n" ++ last ++ "\n" := by
  have twoBreaks : "\n\n" = "\n" ++ "\n" := rfl
  induction sections generalizing first with
  | nil =>
      simp only [List.cons_append, List.nil_append, joinSections, twoBreaks,
        String.append_assoc]
  | cons next sections inductionHypothesis =>
      rw [List.cons_append, List.cons_append, joinSections_cons,
        ← List.cons_append, inductionHypothesis, joinSections_cons]
      simp only [String.append_assoc]

/-! ## Lines of the table of methods -/

/-- The lines of the table before its arms. -/
def tableOpening : List String :=
  ["/// Resolve a `(class_id, method_id)` pair to its `\"class.method\"` name.",
    "pub fn method_name(class_id: u16, method_id: u16) -> &'static str \x7b",
    "    match (class_id, method_id) \x7b"]

/-- The lines of the table behind its arms. -/
def tableClosing : List String :=
  ["    \x7d", "\x7d"]

/-- The line of an arm, as far in as the arms of the table are. -/
def armLine (classId methodId : UInt16) (name : String) : String :=
  indent (indent (arm classId methodId name ++ ","))

/-- The line of the wildcard, as far in as that of an arm. -/
def wildcardLine : String :=
  indent (indent (wildcardArm ++ ","))

/-- The lines of the arms of a class. -/
def armLines (cls : ProtocolClass) : List String :=
  cls.methods.map fun method => armLine cls.id method.id method.qualifiedName

theorem methodTableLines_eq (protocol : Protocol) :
    methodTableLines protocol =
      tableOpening ++
        (protocol.classes.flatMap armLines ++ wildcardLine :: tableClosing) := by
  have head :
      indent ("match (class_id, method_id)" ++ " \x7b") =
        "    match (class_id, method_id) \x7b" := by
    decide +kernel
  have foot : indent "\x7d" = "    \x7d" := by
    decide +kernel
  have arms :
      ((methodArms protocol).map fun line => line ++ ",").map (indent ∘ indent) =
        protocol.classes.flatMap armLines ++ [wildcardLine] := by
    rw [methodArms, Protocol.entries, List.map_append, List.map_append,
      List.map_map, List.map_map, List.map_flatMap]
    congr 1
    refine List.flatMap_congr fun cls _ => ?_
    rw [List.map_map]
    rfl
  rw [methodTableLines, block, block, blockUntil, blockUntil, List.map_append,
    List.map_cons, List.map_map, arms, List.map_singleton, head, foot,
    tableOpening, tableClosing]
  simp only [List.cons_append, List.nil_append, List.append_assoc]
  rfl

/-! ## The file around the arms -/

/-- A file up to the arms of its table. -/
def untilArms (info : ProtocolInfo) (settings : SourceSettings) : String :=
  preambleText info settings ++ "\n\n" ++ endLines tableOpening

/-- A file behind the wildcard of its table. -/
def behindWildcard (settings : SourceSettings) (classes : List ProtocolClass) :
    String :=
  joinSections
    (joinLines tableClosing ::
      classes.map fun cls => joinLines (moduleLines settings cls))

theorem sectionsText_eq (protocol : Protocol) (settings : SourceSettings) :
    sectionsText protocol settings =
      untilArms protocol.info settings ++
        endLines (protocol.classes.flatMap armLines) ++ wildcardLine ++ "\n" ++
        behindWildcard settings protocol.classes := by
  have table :
      joinLines (methodTableLines protocol) =
        endLines tableOpening ++
          (endLines (protocol.classes.flatMap armLines) ++
            (wildcardLine ++ "\n" ++ joinLines tableClosing)) := by
    have closing : tableClosing ≠ [] := List.cons_ne_nil _ _
    rw [methodTableLines_eq, joinLines_append _ (by simp),
      joinLines_append _ (by simp), joinLines.eq_3 _ _ closing]
  rw [sectionsText, sections, List.map_cons, List.map_cons, List.map_map,
    joinSections_cons, table, joinSections_append_cons, joinSections_append_cons,
    joinSections_append_cons, untilArms, behindWildcard, preambleText]
  simp only [String.append_assoc]
  rfl

theorem behindWildcard_concat
    (settings : SourceSettings) (classes : List ProtocolClass)
    (added : ProtocolClass) :
    behindWildcard settings (classes ++ [added]) =
      behindWildcard settings classes ++ "\n" ++
        joinLines (moduleLines settings added) ++ "\n" := by
  rw [behindWildcard, List.map_append, List.map_singleton, ← List.cons_append,
    joinSections_concat, behindWildcard]

/-- The text of a file with one class more: its arms before the wildcard, its
module behind a blank line at the end. -/
theorem sectionsText_withClass
    (protocol : Protocol) (added : ProtocolClass) (settings : SourceSettings) :
    sectionsText (protocol.withClass added) settings =
      untilArms protocol.info settings ++
        endLines (protocol.classes.flatMap armLines) ++
        endLines (armLines added) ++ wildcardLine ++ "\n" ++
        behindWildcard settings protocol.classes ++ "\n" ++
        joinLines (moduleLines settings added) ++ "\n" := by
  rw [sectionsText_eq, Protocol.withClass, List.flatMap_append,
    List.flatMap_singleton, endLines_append, behindWildcard_concat]
  simp only [String.append_assoc]

/-! ## Arms on lines of their own -/

theorem newline_not_mem_quotedChar (c : Char) :
    '\n' ∉ Text.quotedChar '"' c := by
  rw [Text.quotedChar]
  cases escape : Text.letterEscape? c with
  | some letter =>
      unfold Text.letterEscape? at escape
      split at escape <;> cases escape <;> decide
  | none =>
      have notBreak : c ≠ '\n' := by
        rintro rfl
        cases escape
      have numeral : '\n' ∉ Text.numeral 16 c.toNat :=
        Text.not_mem_numeral (by norm_num) le_rfl (by decide)
      split_ifs
      · simp [notBreak.symm]
      · simp [Text.codePointEscape, numeral]
      · simp [notBreak.symm]

theorem newline_not_mem_quote (text : String) :
    '\n' ∉ (Text.quote text).toList := by
  rw [Text.quote, String.toList_ofList, Text.quoted]
  simp only [List.cons_append, List.mem_cons, List.mem_append, List.mem_flatMap,
    List.not_mem_nil, or_false, not_or, not_exists, not_and]
  exact ⟨by decide, fun c _ => newline_not_mem_quotedChar c, by decide⟩

theorem newline_not_mem_decimal (number : Nat) :
    '\n' ∉ (Text.decimal number).toList := by
  rw [Text.decimal, String.toList_ofList]
  exact Text.not_mem_numeral (by norm_num) (by norm_num) (by decide)

/-- An arm is one line, whatever the name. -/
theorem newline_not_mem_armLine
    (classId methodId : UInt16) (name : String) :
    '\n' ∉ (armLine classId methodId name).toList := by
  have further (line : String) (inside : '\n' ∉ line.toList) :
      '\n' ∉ (indent line).toList := by
    rw [indent]
    split_ifs
    · exact inside
    · rw [String.toList_append, List.mem_append, not_or]
      exact ⟨by decide, inside⟩
  refine further _ (further _ ?_)
  simp only [arm, String.toList_append, List.mem_append, not_or]
  exact ⟨⟨⟨⟨⟨⟨by decide, newline_not_mem_decimal _⟩, by decide⟩,
    newline_not_mem_decimal _⟩, by decide⟩, newline_not_mem_quote name⟩,
    by decide⟩

end Source

open Source

/-! ## The file of the longer document -/

theorem Spec.ResolvesClass.armLines_eq
    {spec : Spec} {cls : ClassSpec} {resolved : ProtocolClass}
    (resolves : spec.ResolvesClass cls resolved) :
    armLines resolved =
      cls.methods.map fun method =>
        armLine cls.id method.id (cls.name ++ "." ++ method.name) := by
  refine map_eq_map_of_forall₂ resolves.methods ?_
  intro method resolvedMethod resolvesMethod
  rw [resolves.id, resolvesMethod.id, resolvesMethod.qualifiedName]

theorem Spec.Generates.unique
    {spec : Spec} {settings : SourceSettings} {text other : String}
    (generates : spec.Generates settings text)
    (otherwise : spec.Generates settings other) : other = text := by
  obtain ⟨protocol, accepted, generated⟩ := generates
  obtain ⟨otherProtocol, otherAccepted, otherGenerated⟩ := otherwise
  rw [accepted, Except.ok.injEq] at otherAccepted
  subst otherAccepted
  rw [generated, Except.ok.injEq] at otherGenerated
  exact otherGenerated.symm

/-- Whatever a class appended to a document declares, the file keeps its text:
the arms of the class go before the wildcard, one line each in the order of
declaration, and its module goes to the end, behind a blank line. -/
theorem Spec.generates_withClass
    {spec : Spec} {cls : ClassSpec} {settings : SourceSettings}
    {extended : String}
    (generates : (spec.withClass cls).Generates settings extended) :
    ∃ protocol added text moduleText,
      spec.resolve.outcome = .ok protocol ∧
        (spec.withClass cls).resolve.outcome = .ok (protocol.withClass added) ∧
        (∀ other, spec.Generates settings other ↔ other = text) ∧
        classText added settings = .ok moduleText ∧
        text =
          untilArms protocol.info settings ++
            endLines (protocol.classes.flatMap armLines) ++
            wildcardLine ++ "\n" ++
            behindWildcard settings protocol.classes ∧
        extended =
          untilArms protocol.info settings ++
            endLines (protocol.classes.flatMap armLines) ++
            endLines (cls.methods.map fun method =>
              armLine cls.id method.id (cls.name ++ "." ++ method.name)) ++
            wildcardLine ++ "\n" ++
            behindWildcard settings protocol.classes ++ "\n" ++
            moduleText ++ "\n" ∧
        ∀ method ∈ cls.methods,
          '\n' ∉ (armLine cls.id method.id
            (cls.name ++ "." ++ method.name)).toList := by
  obtain ⟨longer, accepted, generated⟩ := generates
  obtain ⟨protocol, added, shorter, resolves, rfl⟩ :=
    Spec.resolve_of_withClass accepted
  obtain ⟨noImport, written⟩ := Protocol.free_of_generate generated
  have text : spec.Generates settings (sectionsText protocol settings) := by
    refine ⟨protocol, shorter, ?_⟩
    rw [Protocol.generate_eq, Protocol.importCollision?_of_withClass noImport]
  refine ⟨protocol, added, sectionsText protocol settings,
    joinLines (moduleLines settings added), shorter, accepted, fun other => ?_,
    classText_eq added settings, sectionsText_eq protocol settings, ?_,
    fun method _ => newline_not_mem_armLine _ _ _⟩
  · exact ⟨fun otherwise => text.unique otherwise, fun same => same ▸ text⟩
  · rw [written, sectionsText_withClass, resolves.armLines_eq]

/-- A document that declares nothing but its name. -/
def blank : Spec where
  name := some "blank"
  majorVersion := none
  minorVersion := none
  revision := none
  tcpPort := none
  domains := []
  classes := []

/-- The first class of a document and its only method go to their two places. -/
theorem Spec.generates_blank_withClass :
    ∃ extended added moduleText,
      (blank.withClass ⟨8, "probe", [⟨10, "ping", none, []⟩]⟩).Generates {}
          extended ∧
        classText added {} = .ok moduleText ∧
        extended =
          untilArms ⟨some "blank", none, none⟩ {} ++
            "        (8, 10) => \"probe.ping\",\n" ++ wildcardLine ++ "\n" ++
            behindWildcard {} [] ++ "\n" ++ moduleText ++ "\n" := by
  let probe : ProtocolClass :=
    ⟨8, Name.ofText "probe",
      [⟨10, 8, Name.ofText "ping", "probe.ping", false, []⟩]⟩
  let protocol : Protocol := ⟨⟨some "blank", none, none⟩, [], [probe]⟩
  have accepted :
      (blank.withClass ⟨8, "probe", [⟨10, "ping", none, []⟩]⟩).resolve.outcome =
        .ok protocol := by
    decide +kernel
  have free : protocol.importCollision? "Table" = none := by
    decide +kernel
  have generates :
      (blank.withClass ⟨8, "probe", [⟨10, "ping", none, []⟩]⟩).Generates {}
        (sectionsText protocol {}) :=
    ⟨protocol, accepted, by rw [Protocol.generate_eq, free]⟩
  obtain ⟨shorter, added, _, moduleText, resolved, _, _, module, _, extended, _⟩ :=
    Spec.generates_withClass generates
  have nothing : blank.resolve.outcome = .ok ⟨⟨some "blank", none, none⟩, [], []⟩ := by
    decide +kernel
  rw [nothing, Except.ok.injEq] at resolved
  subst resolved
  have arms :
      endLines [armLine 8 10 ("probe" ++ "." ++ "ping")] =
        "        (8, 10) => \"probe.ping\",\n" := by
    decide +kernel
  refine ⟨_, added, moduleText, generates, module, extended.trans ?_⟩
  rw [List.map_singleton, arms]
  simp only [List.flatMap_nil, endLines, String.append_empty]

end MethodCodec
