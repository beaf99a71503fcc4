import Mathlib
import MethodCodec.Proofs.Literal
import MethodCodec.Proofs.LocalName

/-!
# Lines of source

The lines of the reading and writing routines, read as source text: cut into
words and symbols, and these taken as a `let` or as a call that appends to the
buffer.  Nothing here knows which statement a line was written for; the results
say what the written statements are read as.
-/

namespace MethodCodec.Source

/-! ## Words and symbols -/

/-- What a line consists of, apart from blanks. -/
inductive Token
  /-- A name, a path or a number. -/
  | word (text : String)
  | symbol (c : Char)
  deriving DecidableEq

/-- The characters of names, paths and numbers. -/
def isWordChar (c : Char) : Bool :=
  isIdentifierChar c || c == ':'

/-- Puts the word that has been read in front, if there is one; its characters
come latest first. -/
def closeWord (word : List Char) (rest : List Token) : List Token :=
  if word = [] then rest else .word (String.ofList word.reverse) :: rest

/-- Cuts characters into tokens, behind the characters of a word. -/
def tokensFrom (word : List Char) : List Char → List Token
  | [] => closeWord word []
  | c :: rest =>
      if isWordChar c then tokensFrom (c :: word) rest
      else if c = ' ' then closeWord word (tokensFrom [] rest)
      else closeWord word (.symbol c :: tokensFrom [] rest)

/-- The tokens of a line. -/
def tokens (line : String) : List Token :=
  tokensFrom [] line.toList

/-- Whether a text is one word. -/
def isWord (text : String) : Bool :=
  !text.toList.isEmpty && text.toList.all isWordChar

theorem tokensFrom_append
    {chars : List Char} (inside : ∀ c ∈ chars, isWordChar c = true)
    (word rest : List Char) :
    tokensFrom word (chars ++ rest) = tokensFrom (chars.reverse ++ word) rest := by
  induction chars generalizing word with
  | nil => rfl
  | cons c chars inductionHypothesis =>
      obtain ⟨here, inside⟩ := List.forall_mem_cons.mp inside
      rw [List.cons_append, tokensFrom, if_pos here,
        inductionHypothesis inside, List.reverse_cons, List.append_assoc]
      rfl

theorem tokensFrom_word
    {text : String} (word : isWord text = true) (rest : List Char) :
    tokensFrom [] (text.toList ++ rest) = tokensFrom text.toList.reverse rest := by
  rw [isWord, Bool.and_eq_true, List.all_eq_true] at word
  rw [tokensFrom_append word.2, List.append_nil]

theorem closeWord_word
    {text : String} (word : isWord text = true) (rest : List Token) :
    closeWord text.toList.reverse rest = .word text :: rest := by
  rw [isWord, Bool.and_eq_true] at word
  have nonempty : text.toList.reverse ≠ [] := by
    simpa using word.1
  rw [closeWord, if_neg nonempty, List.reverse_reverse, String.ofList_toList]

theorem tokens_word_symbol
    {text : String} (word : isWord text = true) {c : Char}
    (symbol : isWordChar c = false) (visible : c ≠ ' ') (rest : List Char) :
    tokensFrom [] (text.toList ++ c :: rest) =
      .word text :: .symbol c :: tokensFrom [] rest := by
  rw [tokensFrom_word word, tokensFrom, if_neg (by simp [symbol]),
    if_neg visible, closeWord_word word]

theorem tokens_word_blank
    {text : String} (word : isWord text = true) (rest : List Char) :
    tokensFrom [] (text.toList ++ ' ' :: rest) =
      .word text :: tokensFrom [] rest := by
  rw [tokensFrom_word word, tokensFrom, if_neg (by decide), if_pos rfl,
    closeWord_word word]

theorem tokens_symbol
    {c : Char} (symbol : isWordChar c = false) (visible : c ≠ ' ')
    (rest : List Char) :
    tokensFrom [] (c :: rest) = .symbol c :: tokensFrom [] rest := by
  rw [tokensFrom, if_neg (by simp [symbol]), if_neg visible]
  rfl

theorem tokens_blank (rest : List Char) :
    tokensFrom [] (' ' :: rest) = tokensFrom [] rest := by
  rw [tokensFrom, if_neg (by decide), if_pos rfl]
  rfl

theorem isWord_of_isIdentifier
    {name : String} (identifier : isIdentifier name = true) :
    isWord name = true := by
  have nonempty : name.toList ≠ [] := by
    intro empty
    rw [isIdentifier, empty] at identifier
    cases identifier
  have inside := isIdentifierText_of_isIdentifier identifier
  rw [isIdentifierText, List.all_eq_true] at inside
  rw [isWord, Bool.and_eq_true, List.all_eq_true]
  refine ⟨by simpa using nonempty, fun c member => ?_⟩
  rw [isWordChar, inside c member, Bool.true_or]

theorem isWord_decimal (number : Nat) : isWord (Text.decimal number) = true := by
  have digits :
      ∀ c ∈ Text.numeral 10 number, isWordChar c = true := by
    intro c member
    obtain ⟨digit, small, rfl⟩ := Text.mem_numeral (by norm_num) member
    interval_cases digit <;> decide
  simp only [isWord, Text.decimal, String.toList_ofList, Bool.and_eq_true,
    List.all_eq_true, Bool.not_eq_true', List.isEmpty_eq_false_iff]
  exact ⟨Text.numeral_ne_nil 10 number, digits⟩

@[simp]
theorem isWord_path (helper : ReadHelper) : isWord helper.path = true := by
  cases helper <;> decide

/-! ## Lines that bind -/

/-- What stands to the right of a binding. -/
inductive RightSide
  /-- A call on a reader that may run out of bytes: `f(&mut r)?`. -/
  | call (function reader : String)
  /-- A call on the result of such a call: `g(f(&mut r)?)`. -/
  | wrapped (outer function reader : String)
  /-- An element of an array: `a[k]`. -/
  | element (array : String) (position : Nat)
  deriving DecidableEq

/-- Reads the right side of a binding, with its semicolon. -/
def readRightSide? : List Token → Option RightSide
  | [.word f, .symbol '(', .symbol '&', .word "mut", .word r, .symbol ')',
      .symbol '?', .symbol ';'] => some (.call f r)
  | [.word g, .symbol '(', .word f, .symbol '(', .symbol '&', .word "mut", .word r,
      .symbol ')', .symbol '?', .symbol ')', .symbol ';'] => some (.wrapped g f r)
  | [.word a, .symbol '[', .word k, .symbol ']', .symbol ';'] =>
      (Text.readNumeral? 10 k.toList).map (.element a)
  | _ => none

/-- Reads a line that binds an identifier. -/
def readBinding? (line : String) : Option (String × RightSide) :=
  match tokens line with
  | .word "let" :: .word name :: .symbol '=' :: right =>
      if isIdentifier name then (readRightSide? right).map fun side => (name, side)
      else none
  | _ => none

section

variable {name reader flags : String} (isName : isWord name = true)
  (isReader : isWord reader = true) (isFlags : isWord flags = true)

include isName isReader in
theorem tokens_bind (helper : ReadHelper) :
    tokens (ReadStatement.bind name helper reader).text =
      [.word "let", .word name, .symbol '=', .word helper.path, .symbol '(',
        .symbol '&', .word "mut", .word reader, .symbol ')', .symbol '?',
        .symbol ';'] := by
  have isPath := isWord_path helper
  have text :
      (ReadStatement.bind name helper reader).text.toList =
        "let".toList ++ ' ' :: (name.toList ++ ' ' :: '=' :: ' ' ::
          (helper.path.toList ++ '(' :: '&' :: ("mut".toList ++ ' ' ::
            (reader.toList ++ [')', '?', ';'])))) := by
    simp [ReadStatement.text]
  rw [tokens, text]
  simp (disch := first | assumption | decide) only
    [tokens_word_symbol, tokens_word_blank, tokens_symbol, tokens_blank]
  rfl

include isFlags isReader in
theorem tokens_openFlags :
    tokens (ReadStatement.openFlags flags reader).text =
      [.word "let", .word flags, .symbol '=', .word "wire::unpack_bits",
        .symbol '(', .word "wire::read_u8", .symbol '(', .symbol '&',
        .word "mut", .word reader, .symbol ')', .symbol '?', .symbol ')',
        .symbol ';'] := by
  have text :
      (ReadStatement.openFlags flags reader).text.toList =
        "let".toList ++ ' ' :: (flags.toList ++ ' ' :: '=' :: ' ' ::
          ("wire::unpack_bits".toList ++ '(' :: ("wire::read_u8".toList ++
            '(' :: '&' :: ("mut".toList ++ ' ' ::
              (reader.toList ++ [')', '?', ')', ';']))))) := by
    simp [ReadStatement.text, ReadHelper.path]
  rw [tokens, text]
  simp (disch := first | assumption | decide) only
    [tokens_word_symbol, tokens_word_blank, tokens_symbol, tokens_blank]
  rfl

include isName isFlags in
theorem tokens_takeFlag (position : Nat) :
    tokens (ReadStatement.takeFlag name flags position).text =
      [.word "let", .word name, .symbol '=', .word flags, .symbol '[',
        .word (Text.decimal position), .symbol ']', .symbol ';'] := by
  have isPosition := isWord_decimal position
  have text :
      (ReadStatement.takeFlag name flags position).text.toList =
        "let".toList ++ ' ' :: (name.toList ++ ' ' :: '=' :: ' ' ::
          (flags.toList ++ '[' :: ((Text.decimal position).toList ++
            [']', ';']))) := by
    simp [ReadStatement.text]
  rw [tokens, text]
  simp (disch := first | assumption | decide) only
    [tokens_word_symbol, tokens_word_blank, tokens_symbol, tokens_blank]
  rfl

end

theorem readNumeral?_decimal (number : Nat) :
    Text.readNumeral? 10 (Text.decimal number).toList = some number := by
  rw [Text.decimal, String.toList_ofList]
  exact Text.readNumeral?_numeral (by norm_num) (by norm_num)

section

variable {name reader flags : String} (isName : isIdentifier name = true)
  (isReader : isIdentifier reader = true) (isFlags : isIdentifier flags = true)

include isName isReader in
theorem readBinding?_bind (helper : ReadHelper) :
    readBinding? (ReadStatement.bind name helper reader).text =
      some (name, .call helper.path reader) := by
  rw [readBinding?, tokens_bind (isWord_of_isIdentifier isName)
    (isWord_of_isIdentifier isReader)]
  simp [isName, readRightSide?]

include isFlags isReader in
theorem readBinding?_openFlags :
    readBinding? (ReadStatement.openFlags flags reader).text =
      some (flags, .wrapped "wire::unpack_bits" "wire::read_u8" reader) := by
  rw [readBinding?, tokens_openFlags (isWord_of_isIdentifier isReader)
    (isWord_of_isIdentifier isFlags)]
  simp [isFlags, readRightSide?]

include isName isFlags in
theorem readBinding?_takeFlag (position : Nat) :
    readBinding? (ReadStatement.takeFlag name flags position).text =
      some (name, .element flags position) := by
  rw [readBinding?, tokens_takeFlag (isWord_of_isIdentifier isName)
    (isWord_of_isIdentifier isFlags)]
  simp [isName, readRightSide?, readNumeral?_decimal]

end

/-! ## Lines that append -/

/-- What a line appends to the buffer. -/
inductive Appending
  /-- A byte: `buf.push(self.f);`. -/
  | push (field : String)
  /-- The bytes of a number: `buf.extend_from_slice(&self.f.to_be_bytes());`. -/
  | extend (field : String)
  /-- What a function writes: `g(&mut buf, &self.f);`. -/
  | call (function field : String)
  /-- What a function gives for an array: `buf.extend(g(&[self.f, self.h]));`. -/
  | gather (function : String) (fields : List String)
  deriving DecidableEq

/-- Reads the items of an array, with what closes the line behind it. -/
def readItems? : List Token → Option (List String)
  | [.word "self", .symbol '.', .word f, .symbol ']', .symbol ')', .symbol ')',
      .symbol ';'] => some [f]
  | .word "self" :: .symbol '.' :: .word f :: .symbol ',' :: rest =>
      (readItems? rest).map (f :: ·)
  | _ => none

/-- Reads a method call on the buffer, behind its opening parenthesis. -/
def readMethodCall? (method : String) (arguments : List Token) : Option Appending :=
  match arguments with
  | [.word owner, .symbol '.', .word f, .symbol ')', .symbol ';'] =>
      if method = "push" ∧ owner = "self" then some (.push f) else none
  | [.symbol '&', .word owner, .symbol '.', .word f, .symbol '.', .word conversion,
      .symbol '(', .symbol ')', .symbol ')', .symbol ';'] =>
      if method = "extend_from_slice" ∧ owner = "self" ∧ conversion = "to_be_bytes"
      then some (.extend f) else none
  | .word g :: .symbol '(' :: .symbol '&' :: .symbol '[' :: items =>
      if method = "extend" then (readItems? items).map (.gather g) else none
  | _ => none

/-- Reads a line that appends. -/
def readAppending? (line : String) : Option Appending :=
  match tokens line with
  | .word buffer :: .symbol '.' :: .word method :: .symbol '(' :: arguments =>
      if buffer = "buf" then readMethodCall? method arguments else none
  | [.word g, .symbol '(', .symbol '&', .word mark, .word buffer, .symbol ',',
      .symbol '&', .word owner, .symbol '.', .word f, .symbol ')', .symbol ';'] =>
      if mark = "mut" ∧ buffer = "buf" ∧ owner = "self" then some (.call g f)
      else none
  | _ => none

section

variable {name : String} (isName : isWord name = true)

include isName in
theorem tokens_octet :
    tokens (WriteStatement.octet name).text =
      [.word "buf", .symbol '.', .word "push", .symbol '(', .word "self",
        .symbol '.', .word name, .symbol ')', .symbol ';'] := by
  have text :
      (WriteStatement.octet name).text.toList =
        "buf".toList ++ '.' :: ("push".toList ++ '(' :: ("self".toList ++ '.' ::
          (name.toList ++ [')', ';']))) := by
    change ("buf.push(" ++ ownField name ++ ");").toList = _
    simp [ownField]
  rw [tokens, text]
  simp (disch := first | assumption | decide) only
    [tokens_word_symbol, tokens_symbol]
  rfl

include isName in
theorem tokens_number :
    tokens (WriteStatement.number name).text =
      [.word "buf", .symbol '.', .word "extend_from_slice", .symbol '(',
        .symbol '&', .word "self", .symbol '.', .word name, .symbol '.',
        .word "to_be_bytes", .symbol '(', .symbol ')', .symbol ')',
        .symbol ';'] := by
  have text :
      (WriteStatement.number name).text.toList =
        "buf".toList ++ '.' :: ("extend_from_slice".toList ++ '(' :: '&' ::
          ("self".toList ++ '.' :: (name.toList ++ '.' ::
            ("to_be_bytes".toList ++ ['(', ')', ')', ';'])))) := by
    change
      ("buf.extend_from_slice(&" ++ ownField name ++ ".to_be_bytes());").toList = _
    simp [ownField]
  rw [tokens, text]
  simp (disch := first | assumption | decide) only
    [tokens_word_symbol, tokens_symbol]
  rfl

include isName in
/-- The lines that call a function differ in the function only. -/
theorem tokens_call
    {function : String} (isFunction : isWord function = true) :
    tokens (function ++ "(&mut buf, &" ++ ownField name ++ ");") =
      [.word function, .symbol '(', .symbol '&', .word "mut", .word "buf",
        .symbol ',', .symbol '&', .word "self", .symbol '.', .word name,
        .symbol ')', .symbol ';'] := by
  have text :
      (function ++ "(&mut buf, &" ++ ownField name ++ ");").toList =
        function.toList ++ '(' :: '&' :: ("mut".toList ++ ' ' ::
          ("buf".toList ++ ',' :: ' ' :: '&' :: ("self".toList ++ '.' ::
            (name.toList ++ [')', ';'])))) := by
    simp [ownField]
  rw [tokens, text]
  simp (disch := first | assumption | decide) only
    [tokens_word_symbol, tokens_word_blank, tokens_symbol, tokens_blank]
  rfl

include isName in
theorem readAppending?_octet :
    readAppending? (WriteStatement.octet name).text = some (.push name) := by
  rw [readAppending?, tokens_octet isName]
  rfl

include isName in
theorem readAppending?_number :
    readAppending? (WriteStatement.number name).text = some (.extend name) := by
  rw [readAppending?, tokens_number isName]
  rfl

include isName in
theorem readAppending?_call
    {function : String} (isFunction : isWord function = true) :
    readAppending? (function ++ "(&mut buf, &" ++ ownField name ++ ");") =
      some (.call function name) := by
  rw [readAppending?, tokens_call isName isFunction]
  rfl

end

/-- The tokens of the items of an array, with what closes the line. -/
def itemTokens : List String → List Token
  | [] => [.symbol ']', .symbol ')', .symbol ')', .symbol ';']
  | [name] =>
      [.word "self", .symbol '.', .word name, .symbol ']', .symbol ')', .symbol ')',
        .symbol ';']
  | name :: rest =>
      .word "self" :: .symbol '.' :: .word name :: .symbol ',' :: itemTokens rest

theorem tokensFrom_items
    {names : List String} (words : ∀ name ∈ names, isWord name = true) :
    tokensFrom []
        ((joinItems (names.map ownField)).toList ++ [']', ')', ')', ';']) =
      itemTokens names := by
  induction names with
  | nil => decide
  | cons name names inductionHypothesis =>
      obtain ⟨isName, words⟩ := List.forall_mem_cons.mp words
      cases names with
      | nil =>
          have text :
              (joinItems ([name].map ownField)).toList ++ [']', ')', ')', ';'] =
                "self".toList ++ '.' :: (name.toList ++ [']', ')', ')', ';']) := by
            simp [joinItems, ownField]
          rw [text]
          simp (disch := first | assumption | decide) only
            [tokens_word_symbol, tokens_symbol]
          rfl
      | cons next others =>
          have text :
              (joinItems ((name :: next :: others).map ownField)).toList ++
                  [']', ')', ')', ';'] =
                "self".toList ++ '.' :: (name.toList ++ ',' :: ' ' ::
                  ((joinItems ((next :: others).map ownField)).toList ++
                    [']', ')', ')', ';'])) := by
            simp [joinItems, ownField]
          rw [text]
          simp (disch := first | assumption | decide) only
            [tokens_word_symbol, tokens_blank, inductionHypothesis words]
          rfl

theorem readItems?_itemTokens {names : List String} (nonempty : names ≠ []) :
    readItems? (itemTokens names) = some names := by
  induction names with
  | nil => exact absurd rfl nonempty
  | cons name names inductionHypothesis =>
      cases names with
      | nil => rfl
      | cons next others =>
          have later := inductionHypothesis (List.cons_ne_nil next others)
          rw [itemTokens, readItems?, later]
          · rfl
          · simp

theorem readAppending?_flags
    {names : List String} (words : ∀ name ∈ names, isWord name = true)
    (nonempty : names ≠ []) :
    readAppending? (WriteStatement.flags names).text =
      some (.gather "wire::pack_bits" names) := by
  have text :
      (WriteStatement.flags names).text.toList =
        "buf".toList ++ '.' :: ("extend".toList ++ '(' ::
          ("wire::pack_bits".toList ++ '(' :: '&' :: '[' ::
            ((joinItems (names.map ownField)).toList ++
              [']', ')', ')', ';']))) := by
    change
      ("buf.extend(wire::pack_bits(&[" ++ joinItems (names.map ownField) ++
        "]));").toList = _
    simp
  have lineTokens :
      tokens (WriteStatement.flags names).text =
        .word "buf" :: .symbol '.' :: .word "extend" :: .symbol '(' ::
          .word "wire::pack_bits" :: .symbol '(' :: .symbol '&' :: .symbol '[' ::
            itemTokens names := by
    rw [tokens, text]
    simp (disch := first | assumption | decide) only
      [tokens_word_symbol, tokens_symbol, tokensFrom_items words]
  simp only [readAppending?, lineTokens, readMethodCall?,
    readItems?_itemTokens nonempty]
  rfl

end MethodCodec.Source
