import Mathlib
import MethodCodec.Json.Format
import MethodCodec.Proofs.JsonRendering
import MethodCodec.Proofs.JsonTree

/-!
# Reading JSON texts of values

A reader that finds a given answer in the trees of texts, for one value after
the other: texts, flags, numbers, lists, and at last records, whose slots are
filled member by member.
-/

namespace MethodCodec.Json

open Grammar Value

/-! ## Answers -/

/-- What a reader finds in the tree of a text. -/
def Reads {α : Type} (read : Value → Reading α) (answer : α)
    (text : List Char) : Prop :=
  ∃ value, Builds text value ∧ read value = .ok answer

theorem reads_string {string : String} {text : List Char}
    (written : StringText string text) : Reads readText string text :=
  ⟨_, builds_string written, rfl⟩

theorem reads_flag (flag : Bool) : Reads readFlag flag (flagText flag) :=
  ⟨_, builds_flag flag, rfl⟩

theorem reads_natural
    {typeName : String} {limit value : Nat} (small : value ≤ limit)
    (word : limit ≤ Numeral.greatestWord) {text : List Char}
    (written : NaturalText value text) :
    Reads (readNatural typeName limit) value text := by
  refine ⟨_, builds_natural (small.trans word) written, ?_⟩
  rw [readNatural, if_pos small]

section

variable {α β : Type} {read : Value → Reading α} {text : List Char}

theorem readOptional_of_ok {value : Value} {answer : α}
    (nullRefused : ∀ answer, read .null ≠ .ok answer)
    (found : read value = .ok answer) :
    readOptional read value = .ok (some answer) := by
  cases value
  case null => exact absurd found (nullRefused answer)
  all_goals
    rw [readOptional, found]
    rfl
    simp

theorem reads_optional {written : α → List Char → Prop}
    (nullRefused : ∀ answer, read .null ≠ .ok answer)
    {answer : Option α}
    (reads : ∀ value ∈ answer, ∀ text, written value text → Reads read value text)
    (optional : OptionalText written answer text) :
    Reads (readOptional read) answer text := by
  cases answer with
  | none =>
      obtain rfl := optional
      exact ⟨_, builds_null, rfl⟩
  | some answer =>
      obtain ⟨value, builds, found⟩ := reads answer rfl text optional
      exact ⟨value, builds, readOptional_of_ok nullRefused found⟩

theorem reads_list {written : α → List Char → Prop}
    (reads : ∀ answer text, written answer text → Reads read answer text)
    {answers : List α} (list : ListText written answers text) :
    Reads (readList read) answers text := by
  obtain ⟨texts, items, array⟩ := list
  obtain ⟨values, builds, found⟩ :
      ∃ values, List.Forall₂ Builds texts values ∧
        values.mapM read = .ok answers := by
    clear array
    induction items with
    | nil => exact ⟨[], .nil, rfl⟩
    | cons here _ inductionHypothesis =>
        obtain ⟨value, builds, found⟩ := reads _ _ here
        obtain ⟨values, others, rest⟩ := inductionHypothesis
        refine ⟨value :: values, .cons builds others, ?_⟩
        rw [mapM_cons_of_ok found, rest]
        rfl
  refine ⟨_, builds_array array builds, ?_⟩
  rw [readList, found]
  rfl

theorem reads_pair {pair : String × String} (written : PairText pair text) :
    Reads (readPair readText readText) pair text := by
  obtain ⟨first, second, firstText, secondText, array⟩ := written
  have items :=
    List.Forall₂.cons (builds_string firstText)
      (.cons (builds_string secondText) .nil)
  exact ⟨_, builds_array array items, rfl⟩

end

/-! ## Slots -/

/-- A field, if its key has been met. -/
def met? {α : Type} (met : List String) (key : String) (field : α) : Option α :=
  if key ∈ met then some field else none

section

variable {α : Type} {met : List String} {key other : String} {field : α}

@[simp]
theorem isSome_met? : (met? met key field).isSome = decide (key ∈ met) := by
  rw [met?]
  split_ifs with member <;> simp [member]

theorem met?_cons_of_ne (different : other ≠ key) :
    met? (other :: met) key field = met? met key field := by
  simp [met?, different.symm]

theorem met?_of_mem (member : key ∈ met) : met? met key field = some field :=
  if_pos member

theorem getD_met? {byDefault : α}
    (known : key ∈ met ∨ field = byDefault) :
    (met? met key field).getD byDefault = field := by
  rw [met?]
  rcases known with member | rfl
  · rw [if_pos member, Option.getD_some]
  · split_ifs <;> rfl

end

section

variable {δ : Type}

/-- A slot that takes up what a rule writes, in a record that is filled in any
order. -/
structure Fits (draft : List String → δ) (slot : Slot Value Reading δ)
    (rule : FieldRule) : Prop where
  key : slot.key = rule.key
  filled : ∀ met, slot.isFilled (draft met) = decide (rule.key ∈ met)
  fill : ∀ text, rule.written text → ∃ value, Builds text value ∧
    ∀ met, slot.fill value (draft met) = .ok (draft (rule.key :: met))

theorem fits_ofField
    {α : Type} {draft : List String → δ} {key : String}
    {written : List Char → Prop} {omissible : Prop} {required : Bool}
    {read : Value → Reading α} {get : δ → Option α} {set : α → δ → δ} {field : α}
    (filled : ∀ met, get (draft met) = met? met key field)
    (stored : ∀ met, set field (draft met) = draft (key :: met))
    (reads : ∀ text, written text → Reads read field text) :
    Fits draft (.ofField key required read get set)
      ⟨key, written, omissible⟩ := by
  refine ⟨rfl, fun met => ?_, fun text written => ?_⟩
  · change (get (draft met)).isSome = _
    rw [filled, isSome_met?]
  · obtain ⟨value, builds, found⟩ := reads text written
    refine ⟨value, builds, fun met => ?_⟩
    change (do return set (← read value) (draft met) : Reading δ) = _
    rw [found, ← stored]
    rfl

/-- A record that is read field by field, each met once. -/
structure Recorded {α : Type} (slots : List (Slot Value Reading δ)) (start : δ)
    (finish : δ → Except String α) (rules : List FieldRule) (answer : α)
    (draft : List String → δ) : Prop where
  fits : List.Forall₂ (Fits draft) slots rules
  start : draft [] = start
  /-- Keys that no rule has leave the record as it is. -/
  other : ∀ key met, key ∉ rules.map FieldRule.key →
    draft (key :: met) = draft met
  finish : ∀ met, (∀ rule ∈ rules, rule.key ∈ met ∨ rule.omissible) →
    finish (draft met) = .ok answer

/-- A member of an object with its tree, which fills a record up. -/
structure Fills (draft : List String → δ) (slots : List (Slot Value Reading δ))
    (keys : List String) (member : String × List Char)
    (built : Option String × Value) : Prop where
  key : built.1 = some member.1
  value : Builds member.2 built.2
  fill : ∀ met, (member.1 ∈ keys → member.1 ∉ met) →
    fillMember slots (draft met) built = .ok (draft (member.1 :: met))

section Records

variable {α : Type} {slots : List (Slot Value Reading δ)} {start : δ}
  {finish : δ → Except String α} {rules : List FieldRule} {answer : α}
  {draft : List String → δ}

theorem find?_slot (fits : List.Forall₂ (Fits draft) slots rules) (key : String) :
    (∃ slot, slots.find? (fun slot => slot.key == key) = some slot ∧
        ∃ rule ∈ rules, rule.key = key ∧ Fits draft slot rule) ∨
      slots.find? (fun slot => slot.key == key) = none ∧
        key ∉ rules.map FieldRule.key := by
  induction fits with
  | nil => exact .inr ⟨rfl, List.not_mem_nil⟩
  | @cons slot rule slots rules here _ inductionHypothesis =>
      by_cases same : slot.key = key
      · left
        refine ⟨slot, ?_, rule, List.mem_cons_self, here.key.symm.trans same, here⟩
        rw [List.find?_cons_of_pos (by simpa using same)]
      · rw [List.find?_cons_of_neg (by simpa using same)]
        rcases inductionHypothesis with ⟨found, search, rule, member, fit⟩ | absent
        · exact .inl ⟨found, search, rule, List.mem_cons_of_mem _ member, fit⟩
        · refine .inr ⟨absent.1, ?_⟩
          rw [List.map_cons, List.mem_cons, not_or]
          exact ⟨fun first => same (here.key.trans first.symm), absent.2⟩

theorem exists_fills
    (recorded : Recorded slots start finish rules answer draft)
    {members : List (String × List Char)} (follows : Follows rules members)
    {member : String × List Char} (isMember : member ∈ members) :
    ∃ built, Fills draft slots (rules.map FieldRule.key) member built := by
  obtain ⟨key, text⟩ := member
  rcases find?_slot recorded.fits key with
    ⟨slot, search, rule, isRule, rfl, fit⟩ | ⟨search, unknown⟩
  · obtain ⟨value, builds, filled⟩ :=
      fit.fill text (follows.fields rule isRule text isMember)
    refine ⟨(some rule.key, value), rfl, builds, fun met fresh => ?_⟩
    have unmet : rule.key ∉ met :=
      fresh (List.mem_map.mpr ⟨rule, isRule, rfl⟩)
    simp only [fillMember, search, fit.filled, unmet, decide_false,
      Bool.false_eq_true, if_false, filled]
  · obtain ⟨value, builds, whole⟩ :=
      exists_builds (follows.others _ isMember unknown)
    refine ⟨(some key, value), rfl, builds, fun met _ => ?_⟩
    simp only [fillMember, search, skip, whole, recorded.other key met unknown]
    rfl

theorem foldlM_fillMember
    {keys : List String} {members : List (String × List Char)}
    {built : List (Option String × Value)}
    (fills : List.Forall₂ (Fills draft slots keys) members built)
    (met : List String)
    (once : ∀ key ∈ keys,
      (members.map Prod.fst).count key + met.count key ≤ 1) :
    built.foldlM (fillMember slots) (draft met) =
      .ok (draft ((members.map Prod.fst).reverse ++ met)) := by
  induction fills generalizing met with
  | nil => rfl
  | @cons member first members built here _ inductionHypothesis =>
      have fresh : member.1 ∈ keys → member.1 ∉ met := by
        intro known again
        have twice := once member.1 known
        rw [List.map_cons, List.count_cons_self] at twice
        have seen := List.count_pos_iff.mpr again
        omega
      have later :
          ∀ key ∈ keys,
            (members.map Prod.fst).count key + (member.1 :: met).count key ≤ 1 := by
        intro key known
        have total := once key known
        rw [List.map_cons, List.count_cons] at total
        rw [List.count_cons]
        omega
      rw [List.foldlM_cons, here.fill met fresh, List.map_cons,
        List.reverse_cons, List.append_assoc, List.singleton_append]
      exact inductionHypothesis (member.1 :: met) later

theorem builds_of_fills
    {keys : List String} {members : List (String × List Char)}
    {texts : List (List Char × List Char)} {built : List (Option String × Value)}
    (written :
      List.Forall₂
        (fun (member : String × List Char) (text : List Char × List Char) =>
          StringText member.1 text.1 ∧ text.2 = member.2)
        members texts)
    (fills : List.Forall₂ (Fills draft slots keys) members built) :
    List.Forall₂ BuildsMember texts built := by
  induction written generalizing built with
  | nil =>
      cases fills
      exact .nil
  | cons here _ inductionHypothesis =>
      obtain _ | ⟨fill, fills⟩ := fills
      obtain ⟨key, value⟩ := here
      refine .cons ⟨fun rest => ?_, ?_⟩ (inductionHypothesis fills)
      · rw [fill.key]
        exact Token.scan_string key rest
      · rw [value]
        exact fill.value

/-- A text of a record is read as the record. -/
theorem reads_record (name : String)
    (recorded : Recorded slots start finish rules answer draft)
    {text : List Char} (written : RecordText rules text) :
    Reads (readRecord name slots start finish) answer text := by
  obtain ⟨members, texts, follows, keys, object⟩ := written
  obtain ⟨built, fills⟩ :=
    exists_forall₂ fun member isMember => exists_fills recorded follows isMember
  have builds : List.Forall₂ BuildsMember texts built :=
    builds_of_fills keys fills
  have filled :=
    foldlM_fillMember fills [] (by
      intro key known
      obtain ⟨rule, isRule, rfl⟩ := List.mem_map.mp known
      simpa using follows.once rule isRule)
  rw [recorded.start, List.append_nil] at filled
  have finished :
      finish (draft (members.map Prod.fst).reverse) = .ok answer := by
    apply recorded.finish
    intro rule isRule
    rw [List.mem_reverse]
    exact follows.present rule isRule
  refine ⟨_, builds_object object builds, ?_⟩
  rw [readRecord, filled]
  change finishRecord finish (draft _) = _
  rw [finishRecord, finished]

end Records

end

end MethodCodec.Json
