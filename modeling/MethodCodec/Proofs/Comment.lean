import Mathlib
import MethodCodec.Proofs.Extension
import MethodCodec.Text.Blank

/-!
# Names in comments

The comment at the top of a file has the name of the protocol in it, and the
comment of a structure that of its method.  Neither name is quoted, so a line
break in it ends the comment; nothing else does.
-/

namespace MethodCodec

namespace Source

/-! ## Lines of a text -/

/-- The lines of a text, of which only the last has no line break behind it. -/
def linesOf (text : String) : List String :=
  (text.toList.splitOn '\n').map String.ofList

theorem linesOf_of_unbroken
    {text : String} (unbroken : '\n' ∉ text.toList) : linesOf text = [text] := by
  rw [linesOf, List.splitOn, List.splitOnP_eq_singleton, List.map_singleton,
    String.ofList_toList]
  intro c member
  exact beq_eq_false_iff_ne.mpr fun same => unbroken (same ▸ member)

theorem linesOf_append_break (front back : String) :
    linesOf (front ++ "\n" ++ back) = linesOf front ++ linesOf back := by
  have characters :
      (front ++ "\n" ++ back).toList = front.toList ++ '\n' :: back.toList := by
    simp
  rw [linesOf, characters, List.splitOn, List.splitOnP_append_cons _ _ (by decide),
    List.map_append]
  rfl

@[simp]
theorem linesOf_ne_nil (text : String) : linesOf text ≠ [] :=
  List.map_eq_nil_iff.not.mpr (List.splitOnP_ne_nil _ _)

/-- A text is one line, or has a first line and a line break behind it. -/
theorem unbroken_or_exists_first (text : String) :
    '\n' ∉ text.toList ∨
      ∃ first rest, '\n' ∉ first.toList ∧ text = first ++ "\n" ++ rest := by
  refine or_iff_not_imp_left.mpr fun broken => ?_
  obtain ⟨first, rest, characters, unbroken⟩ :=
    List.eq_append_cons_of_mem (not_not.mp broken)
  refine ⟨String.ofList first, String.ofList rest,
    by rwa [String.toList_ofList], String.toList_injective ?_⟩
  simpa using characters

theorem linesOf_eq_singleton_iff {text : String} :
    linesOf text = [text] ↔ '\n' ∉ text.toList := by
  refine ⟨fun single => ?_, linesOf_of_unbroken⟩
  rcases unbroken_or_exists_first text with unbroken | ⟨first, rest, unbroken, rfl⟩
  · exact unbroken
  · rw [linesOf_append_break, linesOf_of_unbroken unbroken,
      List.singleton_append, List.cons.injEq] at single
    exact absurd single.2 (linesOf_ne_nil rest)

/-- What is put before a text lengthens its first line. -/
theorem linesOf_append_of_unbroken
    {front : String} (unbroken : '\n' ∉ front.toList) (text : String) :
    ∃ first, linesOf (front ++ text) = (front ++ first) :: (linesOf text).tail := by
  have longer {line : String} (inside : '\n' ∉ line.toList) :
      '\n' ∉ (front ++ line).toList := by
    rw [String.toList_append, List.mem_append, not_or]
    exact ⟨unbroken, inside⟩
  rcases unbroken_or_exists_first text with single | ⟨first, rest, single, rfl⟩
  · refine ⟨text, ?_⟩
    rw [linesOf_of_unbroken single, linesOf_of_unbroken (longer single)]
    rfl
  · refine ⟨first, ?_⟩
    rw [← String.append_assoc, ← String.append_assoc, linesOf_append_break,
      linesOf_append_break, linesOf_of_unbroken single,
      linesOf_of_unbroken (longer single)]
    rfl

/-! ## Lines without code -/

/-- A line without code: it is blank or a comment. -/
def IsRemark (line : String) : Prop :=
  line.toList.all Text.isBlank = true ∨ "//".toList <+: line.toList

instance (line : String) : Decidable (IsRemark line) :=
  inferInstanceAs (Decidable (_ ∨ _))

/-- A text without code. -/
def IsCommentary (text : String) : Prop :=
  ∀ line ∈ linesOf text, IsRemark line

/-- A text that is one line, and a doc comment however far in. -/
def IsDocLine (text : String) : Prop :=
  linesOf text = [text] ∧ "///".toList <+: text.toList.dropWhile (· = ' ')

theorem isCommentary_append_break_iff {front back : String} :
    IsCommentary (front ++ "\n" ++ back) ↔ IsCommentary front ∧ IsCommentary back := by
  rw [IsCommentary, linesOf_append_break, List.forall_mem_append]
  rfl

theorem isCommentary_iff_of_unbroken
    {text : String} (unbroken : '\n' ∉ text.toList) :
    IsCommentary text ↔ IsRemark text := by
  rw [IsCommentary, linesOf_of_unbroken unbroken, List.forall_mem_singleton]

@[simp]
theorem isCommentary_empty : IsCommentary "" :=
  (isCommentary_iff_of_unbroken (by decide)).mpr (by decide)

theorem isCommentary_endLines_iff {lines : List String} :
    IsCommentary (endLines lines) ↔ ∀ line ∈ lines, IsCommentary line := by
  induction lines with
  | nil =>
      exact iff_of_true isCommentary_empty (by simp)
  | cons line lines inductionHypothesis =>
      rw [endLines, isCommentary_append_break_iff, inductionHypothesis,
        List.forall_mem_cons]

/-- A comment goes on until the first line break in its text. -/
theorem isCommentary_append_iff
    {front : String} (unbroken : '\n' ∉ front.toList)
    (slashes : "//".toList <+: front.toList) (text : String) :
    IsCommentary (front ++ text) ↔ ∀ line ∈ (linesOf text).tail, IsRemark line := by
  obtain ⟨first, lines⟩ := linesOf_append_of_unbroken unbroken text
  have remark : IsRemark (front ++ first) := by
    refine .inr (slashes.trans ?_)
    rw [String.toList_append]
    exact List.prefix_append _ _
  rw [IsCommentary, lines, List.forall_mem_cons, and_iff_right remark]

/-! ## The comment at the top -/

theorem isCommentary_labelLines_iff {info : ProtocolInfo} :
    (∀ line ∈ labelLines info, IsCommentary line) ↔
      ∀ label, protocolLabel? info = some label →
        ∀ line ∈ (linesOf label).tail, IsRemark line := by
  rw [labelLines]
  cases protocolLabel? info with
  | none => simp
  | some label =>
      simp only [Option.some.injEq, forall_eq']
      split_ifs with empty
      · rw [String.isEmpty_iff.mp empty, linesOf_of_unbroken (by decide)]
        simp
      · rw [List.forall_mem_singleton]
        exact isCommentary_append_iff (by decide) (by decide) label

theorem isCommentary_headerText_iff
    {info : ProtocolInfo} {settings : SourceSettings}
    (header : settings.header = true) :
    IsCommentary (headerText info settings) ↔
      ∀ label, protocolLabel? info = some label →
        ∀ line ∈ (linesOf label).tail, IsRemark line := by
  have notice :
      IsCommentary "// This file is autogenerated by amqpgen. Do not edit." :=
    (isCommentary_iff_of_unbroken (by decide)).mpr (by decide)
  rw [headerText, isCommentary_endLines_iff, headerLines, if_pos header,
    List.cons_append, List.forall_mem_cons, List.forall_mem_append,
    List.forall_mem_singleton, and_iff_right notice,
    and_iff_left isCommentary_empty, isCommentary_labelLines_iff]

theorem exists_joinLines_cons (line : String) (lines : List String) :
    ∃ rest, joinLines (line :: lines) = line ++ rest := by
  cases lines with
  | nil => exact ⟨"", String.append_empty.symm⟩
  | cons next lines =>
      refine ⟨"\n" ++ joinLines (next :: lines), ?_⟩
      rw [joinLines.eq_3 _ _ (List.cons_ne_nil next lines), String.append_assoc]

theorem exists_preambleText_eq (info : ProtocolInfo) (settings : SourceSettings) :
    ∃ rest,
      preambleText info settings =
        headerText info settings ++ "/// A protocol method" ++ rest := by
  obtain ⟨behind, shared⟩ := exists_joinLines_cons
    ("/// A protocol method" ++
      " that can be decoded from and encoded to a method frame payload.")
    sharedLines.tail
  have lines :
      sharedLines =
        ("/// A protocol method" ++
          " that can be decoded from and encoded to a method frame payload.") ::
        sharedLines.tail := by
    rfl
  rw [← lines, String.append_assoc] at shared
  have inhabited : sharedLines ≠ [] := List.cons_ne_nil _ _
  exact ⟨_, by
    rw [preambleText, joinLines_append _ inhabited, shared, headerText,
      String.append_assoc]⟩

/-! ## The comment of a structure -/

/-- The comment of a method, as far in as its structure is. -/
def commentText (method : Method) : String :=
  indent ("/// " ++ methodComment method)

/-- The attribute and the structure of a method, with a line break at the end. -/
def declarationText (method : Method) (settings : SourceSettings) : String :=
  endLines ((deriveLines settings ++ structLines method settings).map indent)

theorem commentText_eq (method : Method) :
    commentText method =
      "    /// Method " ++ Text.decimal method.id.toNat ++ ":" ++ method.name.written ++
        if method.synchronous then " (synchronous)" else "" := by
  have inhabited : ¬ ("/// " ++ methodComment method).isEmpty = true := by
    simp
  rw [commentText, indent, if_neg inhabited, methodComment]
  simp only [← String.append_assoc]
  rfl

theorem newline_mem_commentText_iff {method : Method} :
    '\n' ∈ (commentText method).toList ↔ '\n' ∈ method.name.written.toList := by
  have synchronous :
      '\n' ∉ (if method.synchronous then " (synchronous)" else "").toList := by
    split_ifs <;> decide
  rw [commentText_eq]
  simp only [String.toList_append, List.mem_append, synchronous,
    newline_not_mem_decimal, or_false]
  exact or_iff_right (by decide)

theorem isDocLine_commentText_iff {method : Method} :
    IsDocLine (commentText method) ↔ '\n' ∉ method.name.written.toList := by
  have slashes :
      "///".toList <+: (commentText method).toList.dropWhile (· = ' ') := by
    rw [commentText_eq]
    simp only [String.append_assoc]
    rw [String.toList_append]
    exact ⟨_, rfl⟩
  rw [IsDocLine, and_iff_left slashes, linesOf_eq_singleton_iff,
    newline_mem_commentText_iff]

/-! ## Comments in a file -/

/-- Where a file has the comments with names in them: at its top, before what
all files share, and in each class module before the attribute or the structure
of each method. -/
structure HasComments (protocol : Protocol) (settings : SourceSettings)
    (text : String) : Prop where
  header :
    ∃ rest,
      text = headerText protocol.info settings ++ "/// A protocol method" ++ rest
  methods :
    ∀ cls ∈ protocol.classes, ∃ moduleText front back,
      classText cls settings = .ok moduleText ∧
        text = front ++ moduleText ++ back ∧
        ∀ method ∈ cls.methods, ∃ opening rest,
          moduleText =
            opening ++ "\n" ++ commentText method ++ "\n" ++
              declarationText method settings ++ rest

/-- No name leaves its comment. -/
structure KeepsComments (protocol : Protocol) (settings : SourceSettings) :
    Prop where
  header : IsCommentary (headerText protocol.info settings)
  methods :
    ∀ cls ∈ protocol.classes, ∀ method ∈ cls.methods, IsDocLine (commentText method)

/-- The lines of a method up to the end of its structure, blank lines around
them. -/
def openingLines (method : Method) (settings : SourceSettings) : List String :=
  ["", "/// " ++ methodComment method] ++ deriveLines settings ++
    structLines method settings ++ [""]

theorem openingLines_infix_moduleLines
    {cls : ProtocolClass} {method : Method} (member : method ∈ cls.methods)
    (settings : SourceSettings) :
    (openingLines method settings).map indent <:+: moduleLines settings cls := by
  have inMethod :
      openingLines method settings <:+: memberLines cls.id settings method :=
    (List.prefix_append _ _).isInfix
  have inMethods :
      openingLines method settings <:+:
        cls.methods.flatMap (memberLines cls.id settings) := by
    rw [List.flatMap_def]
    exact inMethod.trans (List.infix_of_mem_flatten (List.mem_map_of_mem member))
  rw [moduleLines, classLines, block, blockUntil]
  refine (List.IsInfix.map indent ?_).trans
    ((List.suffix_cons _ _).isInfix.trans (List.prefix_append _ _).isInfix)
  exact inMethods.trans (List.suffix_append _ _).isInfix

theorem exists_joinLines_moduleLines_eq
    {cls : ProtocolClass} {method : Method} (member : method ∈ cls.methods)
    (settings : SourceSettings) :
    ∃ opening rest,
      joinLines (moduleLines settings cls) =
        opening ++ "\n" ++ commentText method ++ "\n" ++
          declarationText method settings ++ rest := by
  obtain ⟨front, back, lines⟩ := openingLines_infix_moduleLines member settings
  have split :
      moduleLines settings cls =
        front ++ ["", commentText method] ++
          (deriveLines settings ++ structLines method settings).map indent ++
            "" :: back := by
    rw [← lines, openingLines]
    simp only [List.map_append, List.append_assoc]
    rfl
  refine ⟨endLines front, joinLines ("" :: back), ?_⟩
  rw [split, joinLines_append _ (List.cons_ne_nil _ _), endLines_append,
    endLines_append, declarationText, endLines, endLines, endLines,
    String.empty_append, String.append_empty]
  simp only [String.append_assoc]

theorem exists_joinSections_eq
    {part : String} {parts : List String} (member : part ∈ parts) :
    ∃ front back, joinSections parts = front ++ part ++ back := by
  induction parts with
  | nil => cases member
  | cons first parts inductionHypothesis =>
      cases parts with
      | nil =>
          obtain rfl := List.mem_singleton.mp member
          exact ⟨"", "\n", by rw [joinSections, String.empty_append]⟩
      | cons next parts =>
          rw [joinSections_cons]
          rcases List.mem_cons.mp member with rfl | member
          · exact ⟨"", _, by rw [String.empty_append, String.append_assoc]⟩
          · obtain ⟨front, back, text⟩ := inductionHypothesis member
            exact ⟨first ++ "\n\n" ++ front, back, by
              rw [text]; simp only [String.append_assoc]⟩

theorem hasComments_sectionsText (protocol : Protocol) (settings : SourceSettings) :
    HasComments protocol settings (sectionsText protocol settings) where
  header := by
    obtain ⟨rest, preamble⟩ := exists_preambleText_eq protocol.info settings
    rw [sectionsText_eq, untilArms, preamble]
    simp only [String.append_assoc]
    exact ⟨_, rfl⟩
  methods := by
    intro cls member
    have part :
        joinLines (moduleLines settings cls) ∈
          (sections protocol settings).map joinLines :=
      List.mem_map_of_mem (List.mem_cons_of_mem _ (List.mem_cons_of_mem _
        (List.mem_map_of_mem member)))
    obtain ⟨front, back, text⟩ := exists_joinSections_eq part
    exact ⟨_, front, back, classText_eq cls settings, text,
      fun method member => exists_joinLines_moduleLines_eq member settings⟩

theorem keepsComments_iff
    {protocol : Protocol} {settings : SourceSettings}
    (header : settings.header = true) :
    KeepsComments protocol settings ↔
      (∀ label, protocolLabel? protocol.info = some label →
          ∀ line ∈ (linesOf label).tail, IsRemark line) ∧
        ∀ cls ∈ protocol.classes, ∀ method ∈ cls.methods,
          '\n' ∉ method.name.written.toList := by
  rw [← isCommentary_headerText_iff header]
  simp only [← isDocLine_commentText_iff]
  exact ⟨fun kept => ⟨kept.header, kept.methods⟩,
    fun ⟨header, methods⟩ => ⟨header, methods⟩⟩

end Source

open Source

/-- The names of methods are written as in the document. -/
theorem Spec.Resolves.forall_written_iff
    {spec : Spec} {protocol : Protocol} (resolves : spec.Resolves protocol)
    {P : String → Prop} :
    (∀ cls ∈ spec.classes, ∀ method ∈ cls.methods, P method.name) ↔
      ∀ cls ∈ protocol.classes, ∀ method ∈ cls.methods, P method.name.written := by
  refine forall_iff_of_forall₂ resolves.classes fun cls resolved resolvesClass => ?_
  refine forall_iff_of_forall₂ resolvesClass.methods fun _ _ resolvesMethod => ?_
  rw [resolvesMethod.name]
  rfl

/-- The comments of a generated file with a header hold the names in them exactly
if no method has a line break in its name, and all lines but the first in the name
and version of the protocol are blank or comments themselves. -/
theorem keepsComments_generated_iff
    {spec : Spec} {protocol : Protocol} {settings : SourceSettings} {text : String}
    (accepted : spec.resolve.outcome = .ok protocol)
    (generated : (protocol.generate settings).outcome = .ok text)
    (header : settings.header = true) :
    HasComments protocol settings text ∧
      (KeepsComments protocol settings ↔
        (∀ label,
          protocolLabel? ⟨spec.name, spec.version?, spec.tcpPort⟩ = some label →
            ∀ line ∈ (linesOf label).tail, IsRemark line) ∧
          ∀ cls ∈ spec.classes, ∀ method ∈ cls.methods,
            '\n' ∉ method.name.toList) := by
  obtain ⟨_, resolves, _⟩ := Spec.resolves_of_resolve accepted
  obtain ⟨_, rfl⟩ := Protocol.free_of_generate generated
  refine ⟨hasComments_sectionsText protocol settings, ?_⟩
  rw [keepsComments_iff header, resolves.info,
    resolves.forall_written_iff (P := fun name => '\n' ∉ name.toList)]

/-- A document with a line break before a comment in the name of its protocol,
and a method whose name ends a comment of another kind. -/
def remarked : Spec where
  name := some "AMQP\n// and a remark"
  majorVersion := none
  minorVersion := none
  revision := none
  tcpPort := none
  domains := []
  classes := [⟨8, "probe", [⟨10, "ping*/pong", none, []⟩]⟩]

def remarkedProtocol : Protocol where
  info := ⟨some "AMQP\n// and a remark", none, none⟩
  domains := []
  classes :=
    [⟨8, Name.ofText "probe",
      [⟨10, 8, Name.ofText "ping*/pong", "probe.ping*/pong", false, []⟩]⟩]

theorem keepsComments_generated_remarked :
    remarked.resolve.outcome = .ok remarkedProtocol ∧
      (remarkedProtocol.generate {}).outcome =
        .ok (sectionsText remarkedProtocol {}) ∧
      HasComments remarkedProtocol {} (sectionsText remarkedProtocol {}) ∧
      KeepsComments remarkedProtocol {} := by
  have accepted : remarked.resolve.outcome = .ok remarkedProtocol := by
    decide +kernel
  have generated :
      (remarkedProtocol.generate {}).outcome =
        .ok (sectionsText remarkedProtocol {}) := by
    have free : remarkedProtocol.importCollision? "Table" = none := by
      decide +kernel
    rw [Protocol.generate_eq, free]
  obtain ⟨comments, kept⟩ := keepsComments_generated_iff accepted generated rfl
  refine ⟨accepted, generated, comments, kept.mpr ⟨?_, by decide⟩⟩
  have lines :
      linesOf "AMQP\n// and a remark" = ["AMQP", "// and a remark"] := by
    decide
  rintro label ⟨rfl⟩
  rw [lines]
  decide

/-- A document with line breaks before code in the names of its protocol and of
a method. -/
def smuggling : Spec where
  name := some "AMQP\nmod smuggled;"
  majorVersion := none
  minorVersion := none
  revision := none
  tcpPort := none
  domains := []
  classes := [⟨8, "probe", [⟨10, "ping\npong", none, []⟩]⟩]

theorem not_keepsComments_smuggling :
    ∃ protocol text,
      smuggling.resolve.outcome = .ok protocol ∧
        (protocol.generate {}).outcome = .ok text ∧
        HasComments protocol {} text ∧
        headerText protocol.info {} =
          "// This file is autogenerated by amqpgen. Do not edit.\n" ++
            "// Protocol: AMQP\nmod smuggled;\n\n" ∧
        ¬ IsCommentary (headerText protocol.info {}) ∧
        ∃ cls ∈ protocol.classes, ∃ method ∈ cls.methods,
          commentText method = "    /// Method 10:ping\npong" ∧
            ¬ IsDocLine (commentText method) := by
  let ping : Method :=
    ⟨10, 8, Name.ofText "ping\npong", "probe.ping\npong", false, []⟩
  let cls : ProtocolClass := ⟨8, Name.ofText "probe", [ping]⟩
  let protocol : Protocol := ⟨⟨some "AMQP\nmod smuggled;", none, none⟩, [], [cls]⟩
  have accepted : smuggling.resolve.outcome = .ok protocol := by
    decide +kernel
  have free : protocol.importCollision? "Table" = none := by
    decide +kernel
  have generated :
      (protocol.generate {}).outcome = .ok (sectionsText protocol {}) := by
    rw [Protocol.generate_eq, free]
  have header : ¬ IsCommentary (headerText protocol.info {}) := by
    have lines :
        linesOf "AMQP\nmod smuggled;" = ["AMQP", "mod smuggled;"] := by
      decide
    rw [isCommentary_headerText_iff rfl]
    intro remarks
    have remark := remarks _ rfl "mod smuggled;" (by rw [lines]; decide)
    exact absurd remark (by decide)
  have comment : ¬ IsDocLine (commentText ping) := by
    rw [isDocLine_commentText_iff, not_not]
    decide
  exact ⟨protocol, _, accepted, generated, hasComments_sectionsText protocol {},
    by decide +kernel, header, cls, List.mem_cons_self, ping, List.mem_cons_self,
    by decide +kernel, comment⟩

end MethodCodec
