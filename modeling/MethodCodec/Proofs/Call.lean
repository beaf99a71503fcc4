import Mathlib
import MethodCodec.Proofs.Line
import MethodCodec.Proofs.LocalName

/-!
# Calls in a line

Which functions a line of a routine calls can be looked up in its text: a name
with a parenthesis behind it does not occur by chance, since the identifiers in
the line have no parentheses.  The text is cut at its parentheses, and the word
in front of each is compared.
-/

namespace MethodCodec.Source

/-! ## Texts in a line -/

/-- A text stands somewhere in a line. -/
def Occurs (text line : String) : Prop :=
  text.toList <:+: line.toList

instance (text line : String) : Decidable (Occurs text line) :=
  inferInstanceAs (Decidable (text.toList <:+: line.toList))

section

variable {mark : Char} {word front : List Char}

theorem eq_of_prefix_mark
    (apart : mark ∉ word) (clear : mark ∉ front) {rest : List Char}
    (start : word ++ [mark] <+: front ++ mark :: rest) :
    word = front := by
  have upTo {text : List Char} (none : mark ∉ text) (rest : List Char) :
      (text ++ mark :: rest).takeWhile (fun c => c != mark) = text := by
    have others : ∀ c ∈ text, (c != mark) = true := by
      intro c member
      rw [bne_iff_ne]
      rintro rfl
      exact none member
    rw [List.takeWhile_append_of_pos others,
      List.takeWhile_cons_of_neg (by simp), List.append_nil]
  obtain ⟨behind, same⟩ := start
  rw [List.append_assoc, List.singleton_append] at same
  rw [← upTo apart behind, same, upTo clear]

/-- A word with a mark behind it ends at the first mark of a line or stands
behind it. -/
theorem infix_mark_iff
    (apart : mark ∉ word) (clear : mark ∉ front) (rest : List Char) :
    word ++ [mark] <:+: front ++ mark :: rest ↔
      word <:+ front ∨ word ++ [mark] <:+: rest := by
  induction front with
  | nil =>
      rw [List.nil_append, List.infix_cons_iff, List.suffix_nil]
      refine or_congr_left ⟨fun start => ?_, ?_⟩
      · exact eq_of_prefix_mark apart clear start
      · rintro rfl
        exact ⟨rest, rfl⟩
  | cons c front inductionHypothesis =>
      have clearTail : mark ∉ front := fun member =>
        clear (List.mem_cons_of_mem c member)
      rw [List.cons_append, List.infix_cons_iff, inductionHypothesis clearTail,
        List.suffix_cons_iff, or_assoc]
      refine or_congr_left ⟨fun start => ?_, ?_⟩
      · exact eq_of_prefix_mark apart clear start
      · rintro rfl
        exact ⟨rest, by simp⟩

theorem not_infix_mark (clear : mark ∉ front) :
    ¬ word ++ [mark] <:+: front := by
  intro inside
  exact clear (inside.subset (by simp))

/-- Where a line has one mark only, the word ends there. -/
theorem infix_lone_mark_iff
    (apart : mark ∉ word) (clear : mark ∉ front) {rest : List Char}
    (clearRest : mark ∉ rest) :
    word ++ [mark] <:+: front ++ mark :: rest ↔ word <:+ front := by
  rw [infix_mark_iff apart clear, or_iff_left (not_infix_mark clearRest)]

/-- A word ends a text where the last piece of the text, if long enough, ends
in it. -/
theorem not_suffix_append
    {piece : List Char} (long : word.length ≤ piece.length)
    (differs : ¬ word <:+ piece) (front : List Char) :
    ¬ word <:+ front ++ piece := by
  intro ends
  exact differs
    (List.suffix_of_suffix_length_le ends (List.suffix_append front piece) long)

end

theorem not_mem_of_isIdentifierText
    {name : String} (text : isIdentifierText name = true) {c : Char}
    (outside : isIdentifierChar c = false) :
    c ∉ name.toList := by
  intro member
  have inside := List.all_eq_true.mp text c member
  rw [outside] at inside
  cases inside

/-! ## Reading statements -/

/-- The variables of a reading statement. -/
def ReadStatement.names : ReadStatement → List String
  | bind name _ reader => [name, reader]
  | openFlags flags reader => [flags, reader]
  | takeFlag name flags _ => [name, flags]

theorem toList_bind (name : String) (helper : ReadHelper) (reader : String) :
    (ReadStatement.bind name helper reader).text.toList =
      ("let ".toList ++ name.toList ++ " = ".toList) ++ helper.path.toList ++
        '(' :: ("&mut ".toList ++ reader.toList ++ [')', '?', ';']) := by
  simp [ReadStatement.text]

theorem toList_openFlags (flags reader : String) :
    (ReadStatement.openFlags flags reader).text.toList =
      ("let ".toList ++ flags.toList ++ " = ".toList) ++
        "wire::unpack_bits".toList ++
        '(' :: ("wire::read_u8".toList ++
          '(' :: ("&mut ".toList ++ reader.toList ++ [')', '?', ')', ';'])) := by
  simp [ReadStatement.text, ReadHelper.path]

theorem toList_takeFlag (name flags : String) (position : Nat) :
    (ReadStatement.takeFlag name flags position).text.toList =
      "let ".toList ++ name.toList ++ " = ".toList ++ flags.toList ++
        '[' :: ((Text.decimal position).toList ++ [']', ';']) := by
  simp [ReadStatement.text]

theorem toList_decodeTable :
    "decode_table(".toList = "decode_table".toList ++ ['('] := by
  simp

section

variable {name reader flags : String}
  (isName : isIdentifierText name = true)
  (isReader : isIdentifierText reader = true)
  (isFlags : isIdentifierText flags = true)

include isName isReader in
theorem occurs_decodeTable_bind_iff (helper : ReadHelper) :
    Occurs "decode_table(" (ReadStatement.bind name helper reader).text ↔
      helper = .table := by
  have clearName := not_mem_of_isIdentifierText isName (c := '(') (by decide)
  have clearReader := not_mem_of_isIdentifierText isReader (c := '(') (by decide)
  have clearFront :
      '(' ∉ ("let ".toList ++ name.toList ++ " = ".toList) ++
        helper.path.toList := by
    cases helper <;> simp [clearName, ReadHelper.path]
  have clearRest : '(' ∉ "&mut ".toList ++ reader.toList ++ [')', '?', ';'] := by
    simp [clearReader]
  rw [Occurs, toList_decodeTable, toList_bind,
    infix_lone_mark_iff (by simp) clearFront clearRest]
  cases helper with
  | table => exact iff_of_true (List.suffix_append _ _) rfl
  | _ => exact iff_of_false (not_suffix_append (by decide) (by decide) _) (by simp)

include isFlags isReader in
theorem not_occurs_decodeTable_openFlags :
    ¬ Occurs "decode_table(" (ReadStatement.openFlags flags reader).text := by
  have clearFlags := not_mem_of_isIdentifierText isFlags (c := '(') (by decide)
  have clearReader := not_mem_of_isIdentifierText isReader (c := '(') (by decide)
  have clearFront :
      '(' ∉ ("let ".toList ++ flags.toList ++ " = ".toList) ++
        "wire::unpack_bits".toList := by
    simp [clearFlags]
  have clearRest :
      '(' ∉ "&mut ".toList ++ reader.toList ++ [')', '?', ')', ';'] := by
    simp [clearReader]
  have apart : '(' ∉ "decode_table".toList := by simp
  rw [Occurs, toList_decodeTable, toList_openFlags,
    infix_mark_iff apart clearFront, infix_lone_mark_iff apart (by simp) clearRest]
  rintro (ends | ends)
  · exact not_suffix_append (by simp) (by decide) _ ends
  · revert ends
    decide

include isName isFlags in
theorem not_occurs_decodeTable_takeFlag (position : Nat) :
    ¬ Occurs "decode_table("
        (ReadStatement.takeFlag name flags position).text := by
  have clearName := not_mem_of_isIdentifierText isName (c := '(') (by decide)
  have clearFlags := not_mem_of_isIdentifierText isFlags (c := '(') (by decide)
  have clearPosition : '(' ∉ (Text.decimal position).toList := by
    intro member
    have word := List.all_eq_true.mp
      (Bool.and_eq_true_iff.mp (isWord_decimal position)).2 '(' member
    cases word
  rw [Occurs, toList_decodeTable, toList_takeFlag]
  exact not_infix_mark (by simp [clearName, clearFlags, clearPosition])

end

/-- Of the lines that read, those that bind a table call its function. -/
theorem occurs_decodeTable_iff
    {statement : ReadStatement}
    (names : ∀ name ∈ statement.names, isIdentifierText name = true) :
    Occurs "decode_table(" statement.text ↔
      ∃ name reader, statement = .bind name .table reader := by
  cases statement with
  | bind name helper reader =>
      obtain ⟨isName, names⟩ := List.forall_mem_cons.mp names
      have isReader := List.forall_mem_singleton.mp names
      rw [occurs_decodeTable_bind_iff isName isReader]
      constructor
      · rintro rfl
        exact ⟨name, reader, rfl⟩
      · rintro ⟨_, _, same⟩
        cases same
        rfl
  | openFlags flags reader =>
      obtain ⟨isFlags, names⟩ := List.forall_mem_cons.mp names
      have isReader := List.forall_mem_singleton.mp names
      exact iff_of_false (not_occurs_decodeTable_openFlags isReader isFlags)
        (by simp)
  | takeFlag name flags position =>
      obtain ⟨isName, names⟩ := List.forall_mem_cons.mp names
      have isFlags := List.forall_mem_singleton.mp names
      exact iff_of_false
        (not_occurs_decodeTable_takeFlag isName isFlags position) (by simp)

/-- An argument may go by the name of the function. -/
example :
    ¬ Occurs "decode_table("
        (ReadStatement.bind "decode_table" .u8 "reader").text := by
  decide

/-- A line that binds calls a byte helper, unless it binds a table. -/
theorem occurs_wire_bind_iff
    {name reader : String} (isName : isIdentifierText name = true)
    (isReader : isIdentifierText reader = true) (helper : ReadHelper) :
    Occurs "wire::" (ReadStatement.bind name helper reader).text ↔
      helper ≠ .table := by
  rw [Occurs, toList_bind]
  by_cases table : helper = .table
  · subst table
    refine iff_of_false (fun inside => ?_) (by simp)
    have clearName := not_mem_of_isIdentifierText isName (c := ':') (by decide)
    have clearReader :=
      not_mem_of_isIdentifierText isReader (c := ':') (by decide)
    have colon := inside.subset (show ':' ∈ "wire::".toList by simp)
    revert colon
    simp [clearName, clearReader, ReadHelper.path]
  · have called : "wire::".toList <:+: helper.path.toList := by
      cases helper <;> first | exact absurd rfl table | decide
    exact iff_of_true (called.trans (List.infix_append _ _ _)) table

theorem occurs_wire_openFlags (flags reader : String) :
    Occurs "wire::" (ReadStatement.openFlags flags reader).text := by
  have called : "wire::".toList <:+: "wire::unpack_bits".toList := by
    decide
  rw [Occurs, toList_openFlags]
  exact called.trans (List.infix_append _ _ _)

/-! ## Writing statements -/

/-- The fields of the structure that a writing statement names. -/
def WriteStatement.names : WriteStatement → List String
  | octet name | number name | shortString name | longString name
  | table name => [name]
  | flags names => names

theorem not_mem_joinItems
    {items : List String} {c : Char} (clear : ∀ item ∈ items, c ∉ item.toList)
    (outside : c ∉ ", ".toList) :
    c ∉ (joinItems items).toList := by
  induction items with
  | nil => simp [joinItems]
  | cons item items inductionHypothesis =>
      obtain ⟨here, clear⟩ := List.forall_mem_cons.mp clear
      cases items with
      | nil => exact here
      | cons next items =>
          rw [joinItems, String.toList_append, String.toList_append,
            List.mem_append, List.mem_append, not_or, not_or]
          · exact ⟨⟨here, outside⟩, inductionHypothesis clear⟩
          · exact List.cons_ne_nil next items

theorem toList_ownField (name : String) :
    (ownField name).toList = "self.".toList ++ name.toList :=
  String.toList_append

theorem toList_octet (name : String) :
    (WriteStatement.octet name).text.toList =
      "buf.push".toList ++ '(' :: ((ownField name).toList ++ [')', ';']) := by
  change ("buf.push(" ++ ownField name ++ ");").toList = _
  simp

theorem toList_number (name : String) :
    (WriteStatement.number name).text.toList =
      "buf.extend_from_slice".toList ++
        '(' :: ("&".toList ++ (ownField name).toList ++ ".to_be_bytes".toList ++
          '(' :: [')', ')', ';']) := by
  change
    ("buf.extend_from_slice(&" ++ ownField name ++ ".to_be_bytes());").toList = _
  simp

theorem toList_call (function name : String) :
    (function ++ "(&mut buf, &" ++ ownField name ++ ");").toList =
      function.toList ++
        '(' :: ("&mut buf, &".toList ++ (ownField name).toList ++ [')', ';']) := by
  simp

theorem toList_flags (names : List String) :
    (WriteStatement.flags names).text.toList =
      "buf.extend".toList ++
        '(' :: ("wire::pack_bits".toList ++
          '(' :: ("&[".toList ++ (joinItems (names.map ownField)).toList ++
            [']', ')', ')', ';'])) := by
  change
    ("buf.extend(wire::pack_bits(&[" ++ joinItems (names.map ownField) ++
      "]));").toList = _
  simp

theorem toList_encodeTable :
    "encode_table(".toList = "encode_table".toList ++ ['('] := by
  simp

theorem not_mem_ownField
    {name : String} (isName : isIdentifierText name = true) :
    '(' ∉ (ownField name).toList := by
  have clearName := not_mem_of_isIdentifierText isName (c := '(') (by decide)
  simp [toList_ownField, clearName]

section

variable {name : String} (isName : isIdentifierText name = true)

include isName in
theorem not_occurs_encodeTable_octet :
    ¬ Occurs "encode_table(" (WriteStatement.octet name).text := by
  rw [Occurs, toList_encodeTable, toList_octet,
    infix_lone_mark_iff (by simp) (by simp) (by simp [not_mem_ownField isName])]
  decide

include isName in
theorem not_occurs_encodeTable_number :
    ¬ Occurs "encode_table(" (WriteStatement.number name).text := by
  have apart : '(' ∉ "encode_table".toList := by simp
  rw [Occurs, toList_encodeTable, toList_number, infix_mark_iff apart (by simp),
    infix_lone_mark_iff apart (by simp [not_mem_ownField isName]) (by simp)]
  rintro (ends | ends)
  · revert ends
    decide
  · exact not_suffix_append (by simp) (by decide) _ ends

include isName in
/-- Of the lines that call a function, the function says what they call. -/
theorem occurs_encodeTable_call_iff
    {function : String} (clear : '(' ∉ function.toList) :
    Occurs "encode_table(" (function ++ "(&mut buf, &" ++ ownField name ++ ");") ↔
      "encode_table".toList <:+ function.toList := by
  rw [Occurs, toList_encodeTable, toList_call,
    infix_lone_mark_iff (by simp) clear (by simp [not_mem_ownField isName])]

end

theorem not_occurs_encodeTable_flags
    {names : List String}
    (isName : ∀ name ∈ names, isIdentifierText name = true) :
    ¬ Occurs "encode_table(" (WriteStatement.flags names).text := by
  have clearItems : '(' ∉ (joinItems (names.map ownField)).toList := by
    refine not_mem_joinItems ?_ (by simp)
    intro item member
    obtain ⟨name, inside, rfl⟩ := List.mem_map.mp member
    exact not_mem_ownField (isName name inside)
  have apart : '(' ∉ "encode_table".toList := by simp
  rw [Occurs, toList_encodeTable, toList_flags, infix_mark_iff apart (by simp),
    infix_lone_mark_iff apart (by simp) (by simp [clearItems])]
  decide

/-- Of the lines that write, those that write a table call its function. -/
theorem occurs_encodeTable_iff
    {statement : WriteStatement}
    (names : ∀ name ∈ statement.names, isIdentifierText name = true) :
    Occurs "encode_table(" statement.text ↔
      ∃ name, statement = .table name := by
  cases statement with
  | octet name =>
      have isName := List.forall_mem_singleton.mp names
      exact iff_of_false (not_occurs_encodeTable_octet isName) (by simp)
  | number name =>
      have isName := List.forall_mem_singleton.mp names
      exact iff_of_false (not_occurs_encodeTable_number isName) (by simp)
  | shortString name =>
      have isName := List.forall_mem_singleton.mp names
      have clear : '(' ∉ "wire::write_short_str".toList := by simp
      exact (occurs_encodeTable_call_iff isName clear).trans
        (iff_of_false (by decide) (by simp))
  | longString name =>
      have isName := List.forall_mem_singleton.mp names
      have clear : '(' ∉ "wire::write_long_str".toList := by simp
      exact (occurs_encodeTable_call_iff isName clear).trans
        (iff_of_false (by decide) (by simp))
  | table name =>
      have isName := List.forall_mem_singleton.mp names
      have clear : '(' ∉ "encode_table".toList := by simp
      exact (occurs_encodeTable_call_iff isName clear).trans
        (iff_of_true List.suffix_rfl ⟨name, rfl⟩)
  | flags run =>
      exact iff_of_false (not_occurs_encodeTable_flags names) (by simp)

/-- The line that writes a table calls no byte helper. -/
theorem not_occurs_wire_table
    {name : String} (isName : isIdentifierText name = true) :
    ¬ Occurs "wire::" (WriteStatement.table name).text := by
  intro inside
  have clearName := not_mem_of_isIdentifierText isName (c := ':') (by decide)
  have colon := inside.subset (show ':' ∈ "wire::".toList by simp)
  change ':' ∈ ("encode_table" ++ "(&mut buf, &" ++ ownField name ++ ");").toList
    at colon
  rw [toList_call, toList_ownField] at colon
  revert colon
  simp [clearName]

end MethodCodec.Source
