import Mathlib
import MethodCodec.Outline.Json
import MethodCodec.Proofs.JsonDocument
import MethodCodec.Spec.Outline

/-!
# Writing documents as JSON

What the two writers make of the outline of a document, on one line or on many,
is among the JSON texts of the document.
-/

namespace MethodCodec

open Json.Grammar

namespace Outline

mutual

/-- The JSON texts of an outline with its members in order. -/
inductive Written : Outline → List Char → Prop
  | nothing : Written .nothing nullText
  | flag (value : Bool) : Written (.flag value) (flagText value)
  | number (value : Nat) : Written (.number value) (Text.numeral 10 value)
  | text {value : String} {text : List Char} (string : StringText value text) :
      Written (.text value) text
  | list {items : List Outline} {texts : List (List Char)} {text : List Char}
      (each : List.Forall₂ Written items texts) (array : ArrayText texts text) :
      Written (.list items) text
  | record {members : List (String × Outline)}
      {texts : List (List Char × List Char)} {text : List Char}
      (each : WrittenMembers members texts) (object : ObjectText texts text) :
      Written (.record members) text

inductive WrittenMembers :
    List (String × Outline) → List (List Char × List Char) → Prop
  | nil : WrittenMembers [] []
  | cons {key : String} {value : Outline} {keyText valueText : List Char}
      {members : List (String × Outline)} {texts : List (List Char × List Char)}
      (spelled : StringText key keyText) (written : Written value valueText)
      (others : WrittenMembers members texts) :
      WrittenMembers ((key, value) :: members) ((keyText, valueText) :: texts)

end

namespace JsonText

/-! ## Strings -/

theorem listed_of_escapeLetter? {c letter : Char}
    (found : escapeLetter? c = some letter) : (letter, c) ∈ letterEscapes := by
  rw [escapeLetter?.eq_def] at found
  split at found
  all_goals
    cases found
    try decide

theorem unescaped_of_escapeLetter? {c : Char} (none : escapeLetter? c = none)
    (visible : ¬ c.toNat < 0x20) : Unescaped c := by
  refine ⟨Nat.not_lt.mp visible, ?_, ?_⟩
  all_goals
    rintro rfl
    cases none

theorem hexDigit_digitChar {value : Nat} (small : value < 16) :
    HexDigit (Nat.digitChar value) value :=
  ⟨small, .inl rfl⟩

theorem charText_escapeChar (c : Char) : CharText c (escapeChar c) := by
  rw [escapeChar]
  split
  next letter found => exact .letter (listed_of_escapeLetter? found)
  next none =>
    split_ifs with control
    · have high : HexDigit (Nat.digitChar (c.toNat / 16)) (c.toNat / 16) :=
        hexDigit_digitChar (by omega)
      have low : HexDigit (Nat.digitChar (c.toNat % 16)) (c.toNat % 16) :=
        hexDigit_digitChar (by omega)
      have zero : HexDigit '0' 0 := hexDigit_digitChar (by omega)
      have coded := HexCode.digits zero zero high low
      rw [Nat.zero_mul, Nat.zero_add, Nat.div_add_mod'] at coded
      exact .code coded
    · exact .unescaped (unescaped_of_escapeLetter? none control)

theorem stringText_quoted (string : String) : StringText string (quoted string) := by
  refine ⟨string.toList.map escapeChar, ?_, ?_⟩
  · rw [List.forall₂_map_right_iff, List.forall₂_same]
    exact fun c _ => charText_escapeChar c
  · rw [quoted, List.flatMap_def]

/-! ## On one line -/

theorem separated_joinCompact (first : List Char) (rest : List (List Char)) :
    Separated (first :: rest) (joinCompact (first :: rest)) := by
  induction rest generalizing first with
  | nil => exact .single (padded_self first)
  | cons second rest inductionHypothesis =>
      exact .cons (padded_self first) (inductionHypothesis second)

theorem enclosed_joinCompact (opening closing : Char) (pieces : List (List Char)) :
    Enclosed opening closing pieces
      (opening :: joinCompact pieces ++ [closing]) := by
  cases pieces with
  | nil => exact .empty (List.forall_mem_nil _)
  | cons first rest => exact .filled (separated_joinCompact first rest)

/-- An object on one line, from the texts of its keys and values. -/
def compactObject (members : List (List Char × List Char)) : List Char :=
  '\x7b' :: joinCompact (members.map fun member => member.1 ++ ':' :: member.2) ++
    ['\x7d']

theorem objectText_compact (members : List (List Char × List Char)) :
    ObjectText members (compactObject members) := by
  refine ⟨_, ?_, enclosed_joinCompact _ _ _⟩
  rw [List.forall₂_map_right_iff, List.forall₂_same]
  exact fun member _ =>
    memberText_append member.1 member.2 (List.forall_mem_nil _)

/-- The texts of keys and values on one line. -/
def compactPairs : List (String × Outline) → List (List Char × List Char) :=
  List.map fun member => (quoted member.1, compact member.2)

theorem compact_record (members : List (String × Outline)) :
    compact (.record members) = compactObject (compactPairs members) := by
  have pieces :
      compactMembers members =
        (compactPairs members).map fun member => member.1 ++ ':' :: member.2 := by
    induction members with
    | nil => rfl
    | cons member members inductionHypothesis =>
        exact congrArg _ inductionHypothesis
  rw [compact, compactObject, pieces]

mutual

theorem written_compact (outline : Outline) : Written outline (compact outline) := by
  match outline with
  | .nothing => exact .nothing
  | .flag value => exact .flag value
  | .number value => exact .number value
  | .text value => exact .text (stringText_quoted value)
  | .list items =>
      exact .list (written_compactItems items) (enclosed_joinCompact _ _ _)
  | .record members =>
      rw [compact_record]
      exact .record (written_compactPairs members) (objectText_compact _)

theorem written_compactItems (items : List Outline) :
    List.Forall₂ Written items (compactItems items) := by
  match items with
  | [] => exact .nil
  | item :: rest => exact .cons (written_compact item) (written_compactItems rest)

theorem written_compactPairs (members : List (String × Outline)) :
    WrittenMembers members (compactPairs members) := by
  match members with
  | [] => exact .nil
  | (key, value) :: rest =>
      exact .cons (stringText_quoted key) (written_compact value)
        (written_compactPairs rest)

end

/-! ## On many lines -/

theorem blank_newline : Blank ['\n'] := by
  simp [Blank]

theorem blank_space : Blank [' '] := by
  simp [Blank]

theorem blank_indentation (level : Nat) : Blank (indentation level) := by
  intro c member
  rw [List.eq_of_mem_replicate member]
  decide

theorem separated_joinLines (level : Nat) (first : List Char)
    (rest : List (List Char)) {before after : List Char} (blankBefore : Blank before)
    (blankAfter : Blank after) :
    Separated (first :: rest)
      (before ++ joinLines level (first :: rest) ++ after) := by
  have blankStart : Blank (before ++ indentation level) :=
    List.forall_mem_append.mpr ⟨blankBefore, blank_indentation level⟩
  induction rest generalizing first before with
  | nil =>
      exact .single ⟨_, after, blankStart, blankAfter, by simp [joinLines]⟩
  | cons second rest inductionHypothesis =>
      have others :=
        inductionHypothesis second blank_newline
          (List.forall_mem_append.mpr ⟨blank_newline, blank_indentation level⟩)
      have here : Padded first (before ++ indentation level ++ first) :=
        ⟨_, [], blankStart, List.forall_mem_nil _, (List.append_nil _).symm⟩
      have joined := Separated.cons here others
      simpa [joinLines] using joined

theorem enclosed_enclose (opening closing : Char) (level : Nat)
    (lines : List (List Char)) :
    Enclosed opening closing lines (enclose opening closing level lines) := by
  cases lines with
  | nil => exact .empty (List.forall_mem_nil _)
  | cons first rest =>
      have separated :=
        separated_joinLines (level + 1) first rest blank_newline
          (List.forall_mem_append.mpr ⟨blank_newline, blank_indentation level⟩)
      simpa [enclose] using Enclosed.filled separated

/-- The texts of keys and values on lines of a level. -/
def linePairs (level : Nat) : List (String × Outline) → List (List Char × List Char) :=
  List.map fun member => (quoted member.1, chars level member.2)

theorem memberTexts_lines (level : Nat) (members : List (String × Outline)) :
    List.Forall₂ MemberText (linePairs level members) (memberLines level members) := by
  induction members with
  | nil => exact .nil
  | cons member members inductionHypothesis =>
      exact .cons (memberText_append _ _ blank_space) inductionHypothesis

mutual

theorem written_chars (level : Nat) (outline : Outline) :
    Written outline (chars level outline) := by
  match outline with
  | .nothing => exact .nothing
  | .flag value => exact .flag value
  | .number value => exact .number value
  | .text value => exact .text (stringText_quoted value)
  | .list items =>
      exact .list (written_itemLines (level + 1) items) (enclosed_enclose _ _ _ _)
  | .record members =>
      exact .record (written_linePairs (level + 1) members)
        ⟨_, memberTexts_lines (level + 1) members, enclosed_enclose _ _ _ _⟩

theorem written_itemLines (level : Nat) (items : List Outline) :
    List.Forall₂ Written items (itemLines level items) := by
  match items with
  | [] => exact .nil
  | item :: rest =>
      exact .cons (written_chars level item) (written_itemLines level rest)

theorem written_linePairs (level : Nat) (members : List (String × Outline)) :
    WrittenMembers members (linePairs level members) := by
  match members with
  | [] => exact .nil
  | (key, value) :: rest =>
      exact .cons (stringText_quoted key) (written_chars level value)
        (written_linePairs level rest)

end

end JsonText

open JsonText

/-! ## Records -/

theorem listText_of_written
    {α : Type} {outline : α → Outline} {written : α → List Char → Prop}
    (each : ∀ item text, Written (outline item) text → written item text)
    {items : List α} {text : List Char}
    (list : Written (.list (items.map outline)) text) :
    ListText written items text := by
  obtain _ | _ | _ | _ | ⟨texts, array⟩ := list
  rw [List.forall₂_map_left_iff] at texts
  exact ⟨_, texts.imp each, array⟩

/-- Members that write fields in the order of their rules. -/
inductive InOrder : List FieldRule → List (String × Outline) → Prop
  | nil : InOrder [] []
  | field {rule : FieldRule} {rules : List FieldRule} {value : Outline}
      {members : List (String × Outline)}
      (written : ∀ text, Written value text → rule.written text)
      (others : InOrder rules members) :
      InOrder (rule :: rules) ((rule.key, value) :: members)
  | omitted {rule : FieldRule} {rules : List FieldRule}
      {members : List (String × Outline)} (omissible : rule.omissible)
      (others : InOrder rules members) :
      InOrder (rule :: rules) members

namespace InOrder

variable {rules : List FieldRule} {members : List (String × Outline)}

theorem optional
    {α : Type} {key : String} {outline : α → Outline} {field : Option α}
    {written : α → List Char → Prop} {omissible : Prop}
    (none : field = none → omissible)
    (some : ∀ value text, Written (outline value) text → written value text)
    (others : InOrder rules members) :
    InOrder (⟨key, OptionalText written field, omissible⟩ :: rules)
      (optionalMember key outline field members) := by
  cases field with
  | none => exact .omitted (none rfl) others
  | some value => exact .field (some value) others

theorem keys_subset (inOrder : InOrder rules members) :
    members.map Prod.fst ⊆ rules.map FieldRule.key := by
  induction inOrder with
  | nil => exact List.nil_subset _
  | field _ _ inductionHypothesis =>
      exact List.cons_subset_cons _ inductionHypothesis
  | omitted _ _ inductionHypothesis =>
      exact List.Subset.trans inductionHypothesis (List.subset_cons_self _ _)

theorem not_mem_keys {rule : FieldRule} (inOrder : InOrder rules members)
    (distinct : ((rule :: rules).map FieldRule.key).Nodup) :
    rule.key ∉ members.map Prod.fst :=
  fun member => (List.nodup_cons.mp distinct).1 (inOrder.keys_subset member)

theorem follows (inOrder : InOrder rules members)
    (distinct : (rules.map FieldRule.key).Nodup)
    {texts : List (List Char × List Char)} (written : WrittenMembers members texts) :
    ∃ named : List (String × List Char),
      named.map Prod.fst = members.map Prod.fst ∧ Follows rules named ∧
        List.Forall₂
          (fun (member : String × List Char) (text : List Char × List Char) =>
            StringText member.1 text.1 ∧ text.2 = member.2)
          named texts := by
  induction inOrder generalizing texts with
  | nil =>
      cases written
      exact ⟨[], rfl, .nil, .nil⟩
  | field here others inductionHypothesis =>
      obtain _ | ⟨spelled, value, rest⟩ := written
      obtain ⟨named, keys, follows, texts⟩ :=
        inductionHypothesis (List.nodup_cons.mp distinct).2 rest
      have fresh := others.not_mem_keys distinct
      rw [← keys] at fresh
      exact ⟨(_, _) :: named, congrArg _ keys,
        follows.cons (List.nodup_cons.mp distinct).1 (here _ value) fresh,
        .cons ⟨spelled, rfl⟩ texts⟩
  | omitted omissible others inductionHypothesis =>
      obtain ⟨named, keys, follows, texts⟩ :=
        inductionHypothesis (List.nodup_cons.mp distinct).2 written
      have fresh := others.not_mem_keys distinct
      rw [← keys] at fresh
      exact ⟨named, keys, follows.skip omissible fresh, texts⟩

end InOrder

theorem recordText_of_written
    {rules : List FieldRule} {members : List (String × Outline)} {text : List Char}
    (inOrder : InOrder rules members) (distinct : (rules.map FieldRule.key).Nodup)
    (written : Written (.record members) text) : RecordText rules text := by
  obtain _ | _ | _ | _ | _ | ⟨each, object⟩ := written
  obtain ⟨named, _, follows, texts⟩ := inOrder.follows distinct each
  exact ⟨named, _, follows, texts, object⟩

/-- Members that follow the rules of a record are a text of it on one line. -/
theorem recordText_compact {rules : List FieldRule}
    {members : List (String × List Char)} (follows : Follows rules members) :
    RecordText rules
      (compactObject (members.map fun member => (quoted member.1, member.2))) := by
  refine ⟨members, _, follows, ?_, objectText_compact _⟩
  rw [List.forall₂_map_right_iff, List.forall₂_same]
  exact fun member _ => ⟨stringText_quoted member.1, rfl⟩

end Outline

open Outline Outline.JsonText

/-! ## Documents -/

theorem stringText_of_written (value : String) (text : List Char) :
    Written (.text value) text → StringText value text
  | .text string => string

theorem naturalText_of_written (value : Nat) (text : List Char) :
    Written (.number value) text → NaturalText value text
  | .number _ => rfl

theorem flagText_of_written (value : Bool) (text : List Char) :
    Written (.flag value) text → text = flagText value
  | .flag _ => rfl

theorem pairText_of_written (pair : String × String) (text : List Char)
    (written : Written (domainOutline pair) text) : PairText pair text := by
  obtain _ | _ | _ | _ | ⟨each, array⟩ := written
  obtain _ | ⟨first, _ | ⟨second, _ | _⟩⟩ := each
  exact ⟨_, _, stringText_of_written _ _ first, stringText_of_written _ _ second,
    array⟩

theorem ArgumentSpec.text_of_written (argument : ArgumentSpec) (text : List Char)
    (written : Written argument.outline text) : argument.Text text := by
  refine recordText_of_written ?_ (by simp [rules]) written
  exact .field (stringText_of_written _)
    (.optional id stringText_of_written
      (.optional id stringText_of_written .nil))

theorem MethodSpec.text_of_written (method : MethodSpec) (text : List Char)
    (written : Written method.outline text) : method.Text text := by
  refine recordText_of_written ?_ (by simp [rules]) written
  exact .field (naturalText_of_written _)
    (.field (stringText_of_written _)
      (.optional (fun missing => missing) flagText_of_written
        (.field (fun _ => listText_of_written ArgumentSpec.text_of_written) .nil)))

theorem ClassSpec.text_of_written (cls : ClassSpec) (text : List Char)
    (written : Written cls.outline text) : cls.Text text := by
  refine recordText_of_written ?_ (by simp [rules]) written
  exact .field (naturalText_of_written _)
    (.field (stringText_of_written _)
      (.field (fun _ => listText_of_written MethodSpec.text_of_written) .nil))

namespace Spec

theorem jsonText_of_written {spec : Spec} {text : List Char}
    (written : Written spec.outline text) : spec.JsonText text := by
  refine ⟨text, ?_, padded_self text⟩
  refine recordText_of_written ?_ (by simp [rules, byteRule]) written
  exact .optional id stringText_of_written
    (.optional Option.map_eq_none_iff.mp naturalText_of_written
      (.optional Option.map_eq_none_iff.mp naturalText_of_written
        (.optional Option.map_eq_none_iff.mp naturalText_of_written
          (.optional Option.map_eq_none_iff.mp naturalText_of_written
            (.field (fun _ => listText_of_written pairText_of_written)
              (.field (fun _ => listText_of_written ClassSpec.text_of_written)
                .nil))))))

/-- A document without a violation is read from each of its JSON texts, and so
from what the writers make of it. -/
theorem read_json {spec : Spec} (accepted : spec.violation? = none) :
    (∀ text : String, spec.JsonText text.toList → read .json text = .ok spec) ∧
      read .json spec.outline.toCompactJson = .ok spec ∧
      read .json spec.outline.toJson = .ok spec := by
  refine ⟨fun text written => read_of_jsonText accepted written, ?_, ?_⟩
  · apply read_of_jsonText accepted
    rw [toCompactJson, String.toList_ofList]
    exact jsonText_of_written (written_compact spec.outline)
  · apply read_of_jsonText accepted
    rw [toJson, String.toList_ofList]
    exact jsonText_of_written (written_chars 0 spec.outline)

/-! A document of one class without methods.  Its text has the fields in another
order, with an escape, a null, a list left out, white space, and a member that
comes twice and says nothing of a document. -/

def sparseClass : ClassSpec := ⟨10, "ab", []⟩

def sparseSpec : Spec where
  name := none
  majorVersion := none
  minorVersion := none
  revision := none
  tcpPort := none
  domains := []
  classes := [sparseClass]

def sparseClassesText : List Char :=
  "[\x7b\"name\":\"a\\u0062\",\"id\":10\x7d]".toList

def sparseText : String :=
  " \x7b\"x\":1e999,\"classes\":[\x7b\"name\":\"a\\u0062\",\"id\":10\x7d]," ++
    "\"name\":null,\"domains\":[ ],\"x\":true\x7d"

theorem listText_sparseClasses :
    ListText ClassSpec.Text [sparseClass] sparseClassesText := by
  have unescaped : CharText 'a' ['a'] := .unescaped (by simp [Unescaped])
  have escaped : CharText 'b' "\\u0062".toList := by
    have zero : HexDigit '0' 0 := hexDigit_digitChar (by omega)
    have two : HexDigit '2' 2 := hexDigit_digitChar (by omega)
    have six : HexDigit '6' 6 := hexDigit_digitChar (by omega)
    exact .code (.digits zero zero six two)
  have name : StringText "ab" "\"a\\u0062\"".toList :=
    ⟨_, .cons unescaped (.cons escaped .nil), rfl⟩
  have id : NaturalText 10 ['1', '0'] := by simp [NaturalText, Text.numeral]
  have follows :
      Follows sparseClass.rules
        [("name", "\"a\\u0062\"".toList), ("id", ['1', '0'])] := by
    refine (Follows.cons (.cons (.skip .nil rfl ?_) ?_ name ?_) ?_ id ?_).perm
      (.swap _ _ _)
    all_goals simp
  exact ⟨_, .cons (recordText_compact follows) .nil, .filled (.single (padded_self _))⟩

theorem jsonText_sparse : sparseSpec.JsonText sparseText.toList := by
  have domains : ListText PairText [] "[ ]".toList :=
    ⟨[], .nil, .empty blank_space⟩
  have declared :
      Follows sparseSpec.rules
        [("name", nullText), ("domains", "[ ]".toList),
          ("classes", sparseClassesText)] := by
    refine Follows.cons (.skip (.skip (.skip (.skip (.cons (.cons .nil ?_
      listText_sparseClasses ?_) ?_ domains ?_) rfl ?_) rfl ?_) rfl ?_) rfl ?_)
      ?_ rfl ?_
    all_goals simp [byteRule]
  have unknown : "x" ∉ sparseSpec.rules.map FieldRule.key := by
    simp [rules, byteRule]
  have large : AnyNumber "1e999".toList := by
    refine ⟨[], by simp, ['1'], [], "e999".toList, .inr ?_, .inl rfl, .inr ?_, rfl⟩
    · simp [Digits]
    · exact ⟨'e', by simp, [], by simp, "999".toList, by simp [Digits], rfl⟩
  have follows :
      Follows sparseSpec.rules
        [("x", "1e999".toList), ("classes", sparseClassesText),
          ("name", nullText), ("domains", "[ ]".toList), ("x", flagText true)] :=
    ((declared.unknown unknown (.flag true)).unknown unknown
      (.number large)).perm (by decide)
  exact ⟨_, recordText_compact follows, [' '], [], blank_space,
    List.forall_mem_nil _, by decide⟩

theorem read_json_sparse :
    sparseSpec.violation? = none ∧ sparseSpec.JsonText sparseText.toList ∧
      read .json sparseText = .ok sparseSpec ∧
      read .json sparseSpec.outline.toCompactJson = .ok sparseSpec :=
  have accepted : sparseSpec.violation? = none := by decide
  ⟨accepted, jsonText_sparse, (read_json accepted).1 _ jsonText_sparse,
    (read_json accepted).2.1⟩

end Spec

end MethodCodec
