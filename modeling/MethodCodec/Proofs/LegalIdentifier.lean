import Mathlib
import MethodCodec.Proofs.Identifier
import MethodCodec.Proofs.LocalName
import MethodCodec.Proofs.Resolution
import MethodCodec.Proofs.SnakeCase

/-!
# Legal identifiers

Names made of lower-case pieces between hyphens give identifiers that the target
language accepts.  There is one exception: a method by the name `self` gives its
structure the name `Self`, which is a keyword.
-/

namespace MethodCodec

namespace Name

/-! ## Keywords of the target language -/

/-- The words that have a meaning in the target language. -/
def strictKeywords : List String :=
  ["Self", "as", "async", "await", "break", "const", "continue", "crate", "dyn", "else",
    "enum", "extern", "false", "fn", "for", "if", "impl", "in", "let", "loop", "match", "mod",
    "move", "mut", "pub", "ref", "return", "self", "static", "struct", "super", "trait",
    "true", "type", "unsafe", "use", "where", "while"]

/-- The words that the target language keeps for a meaning to come. -/
def reservedKeywords : List String :=
  ["abstract", "become", "box", "do", "final", "gen", "macro", "override", "priv", "try",
    "typeof", "unsized", "virtual", "yield"]

/-- An identifier that the target language accepts. -/
structure Legal (identifier : String) : Prop where
  spelled : Source.isIdentifier identifier = true
  named : identifier ≠ "_"
  free : identifier ∉ strictKeywords ++ reservedKeywords

/-- Every keyword but one is among those that fields and modules avoid. -/
theorem mem_keywords_iff {word : String} :
    word ∈ strictKeywords ++ reservedKeywords ↔
      word = "Self" ∨ isKeyword word = true := by
  have listed :
      ∀ word ∈ strictKeywords ++ reservedKeywords,
        word = "Self" ∨ isKeyword word = true := by
    decide
  have all : ∀ word ∈ keywords, word ∈ strictKeywords ++ reservedKeywords := by
    decide
  constructor
  · exact listed word
  · rintro (rfl | keyword)
    · decide
    · exact all word (by simpa [isKeyword] using keyword)

/-! ## Conventional names -/

/-- The characters of the pieces of a name. -/
def isPieceChar (c : Char) : Bool :=
  c.isLower || c.isDigit

/-- Lower-case letters and digits, at least one. -/
def IsPiece (piece : List Char) : Prop :=
  piece ≠ [] ∧ ∀ c ∈ piece, isPieceChar c = true

instance : DecidablePred IsPiece := fun piece =>
  decidable_of_iff (piece ≠ [] ∧ piece.all isPieceChar = true) (by simp [IsPiece])

/-- Pieces with hyphens between them, the first of which begins with a letter. -/
structure Conventional (written : String) : Prop where
  start : written.toList.head?.any Char.isLower = true
  pieces : ∀ piece ∈ written.toList.splitOn '-', IsPiece piece

theorem conventional_iff {written : String} :
    Conventional written ↔
      written.toList.head?.any Char.isLower = true ∧
        ∀ piece ∈ written.toList.splitOn '-', IsPiece piece :=
  ⟨fun conventional => ⟨conventional.start, conventional.pieces⟩,
    fun ⟨start, pieces⟩ => ⟨start, pieces⟩⟩

instance : DecidablePred Conventional := fun _ =>
  decidable_of_iff _ conventional_iff.symm

section Characters

variable {c : Char}

theorem isAscii_of_isPieceChar (allowed : isPieceChar c = true) :
    Text.isAscii c = true := by
  rw [Text.isAscii, decide_eq_true_iff]
  simp only [isPieceChar, Char.isLower, Char.isDigit, Bool.or_eq_true,
    Bool.and_eq_true, decide_eq_true_eq, ge_iff_le, UInt32.le_iff_toNat_le,
    ← Char.toNat_val] at allowed ⊢
  have bounds : 'z'.val.toNat = 122 ∧ '9'.val.toNat = 57 := ⟨rfl, rfl⟩
  omega

theorem isUppercase_of_isPieceChar (allowed : isPieceChar c = true) :
    Text.isUppercase c = false := by
  rw [Text.isUppercase, if_pos (isAscii_of_isPieceChar allowed)]
  simp only [isPieceChar, Char.isLower, Char.isUpper, Char.isDigit, Bool.or_eq_true,
    Bool.and_eq_true, decide_eq_true_eq, ge_iff_le, decide_eq_false_iff_not,
    UInt32.le_iff_toNat_le] at allowed ⊢
  have bounds :
      'a'.val.toNat = 97 ∧ '9'.val.toNat = 57 ∧ 'A'.val.toNat = 65 ∧
        'Z'.val.toNat = 90 :=
    ⟨rfl, rfl, rfl, rfl⟩
  omega

theorem isAlphanum_of_isPieceChar (allowed : isPieceChar c = true) :
    c.isAlphanum = true := by
  rw [isPieceChar, Bool.or_eq_true] at allowed
  rcases allowed with lower | digit
  · simp [Char.isAlphanum, Char.isAlpha, lower]
  · simp [Char.isAlphanum, digit]

theorem isAlphanum_toUpper (allowed : isPieceChar c = true) :
    c.toUpper.isAlphanum = true := by
  by_cases lower : c.isLower = true
  · have alpha : c.toUpper.isAlpha = true := by
      rw [Char.isAlpha_toUpper_eq_isAlpha]
      simp [Char.isAlpha, lower]
    simp [Char.isAlphanum, alpha]
  · rw [Char.toUpper_eq_of_not_isLower lower]
    exact isAlphanum_of_isPieceChar allowed

theorem isUpper_of_isPieceChar (allowed : isPieceChar c = true) :
    c.isUpper = false := by
  have ascii := isUppercase_of_isPieceChar allowed
  rwa [Text.isUppercase, if_pos (isAscii_of_isPieceChar allowed)] at ascii

/-- Upper case keeps the characters of pieces apart. -/
theorem toLower_toUpper_of_isPieceChar (allowed : isPieceChar c = true) :
    c.toUpper.toLower = c := by
  rw [Char.toLower_toUpper_eq_toLower,
    Char.toLower_eq_of_not_isUpper (by simp [isUpper_of_isPieceChar allowed])]

theorem ne_hyphen_of_isPieceChar (allowed : isPieceChar c = true) : c ≠ '-' := by
  rintro rfl
  cases allowed

end Characters

theorem of_mem_intercalate
    {pieces : List (List Char)} (each : ∀ piece ∈ pieces, IsPiece piece) {c : Char}
    (member : c ∈ ['-'].intercalate pieces) :
    isPieceChar c = true ∨ c = '-' := by
  induction pieces with
  | nil => cases member
  | cons piece pieces inductionHypothesis =>
      obtain ⟨here, each⟩ := List.forall_mem_cons.mp each
      cases pieces with
      | nil =>
          rw [List.intercalate_singleton] at member
          exact .inl (here.2 c member)
      | cons next pieces =>
          rw [List.intercalate_cons_cons, List.mem_append, List.mem_append,
            List.mem_singleton] at member
          rcases member with (inside | hyphen) | later
          · exact .inl (here.2 c inside)
          · exact .inr hyphen
          · exact inductionHypothesis each later

/-- The pieces of a name with hyphens between them are the name. -/
theorem intercalate_pieces (written : String) :
    ['-'].intercalate (written.toList.splitOn '-') = written.toList :=
  List.intercalate_splitOn '-'

section Conventional

variable {written : String}

/-- A conventional name is a lower-case letter with the characters of pieces and
hyphens behind it. -/
theorem Conventional.characters (conventional : Conventional written) :
    ∃ first rest,
      written.toList = first :: rest ∧ first.isLower = true ∧
        ∀ c ∈ first :: rest, isPieceChar c = true ∨ c = '-' := by
  have start := conventional.start
  have inside (c : Char) (member : c ∈ written.toList) :
      isPieceChar c = true ∨ c = '-' := by
    rw [← intercalate_pieces] at member
    exact of_mem_intercalate conventional.pieces member
  cases letters : written.toList with
  | nil =>
      rw [letters] at start
      cases start
  | cons first rest =>
      rw [letters] at start inside
      exact ⟨first, rest, rfl, by simpa using start, inside⟩

/-! ## Fields and modules -/

theorem Conventional.isPlainName (conventional : Conventional written) :
    Source.isPlainName written = true := by
  obtain ⟨first, rest, letters, lower, inside⟩ := conventional.characters
  obtain ⟨_, inside⟩ := List.forall_mem_cons.mp inside
  rw [Source.isPlainName, letters]
  dsimp only
  rw [Bool.and_eq_true, List.all_eq_true]
  refine ⟨by simp [Char.isAlpha, lower], fun c member => ?_⟩
  rcases inside c member with allowed | rfl
  · simp [Source.isIdentifierChar, isAlphanum_of_isPieceChar allowed]
  · rfl

/-- The identifier of a field or module begins with its name's first letter or
with an underscore before a keyword. -/
theorem head?_snakeCase
    {first : Char} {rest : List Char} (letters : written.toList = first :: rest)
    (notHyphen : first ≠ '-') :
    (snakeCase written).toList.head? = some first ∨
      ∃ word ∈ keywords, snakeCase written = "_" ++ word := by
  have start : (underscored written).toList.head? = some first := by
    rw [underscored, String.toList_ofList, letters, List.map_cons, if_neg notHyphen]
    rfl
  rw [snakeCase]
  split_ifs with keyword
  · exact .inr ⟨_, by simpa [isKeyword] using keyword, rfl⟩
  · exact .inl start

theorem legal_snakeCase (conventional : Conventional written) :
    Legal (snakeCase written) := by
  obtain ⟨first, rest, letters, lower, inside⟩ := conventional.characters
  have notHyphen : first ≠ '-' := by
    rintro rfl
    cases lower
  have longer : ∀ word ∈ keywords, "_" ++ word ≠ "_" ∧ "_" ++ word ≠ "Self" := by
    decide
  have apart : snakeCase written ≠ "_" ∧ snakeCase written ≠ "Self" := by
    rcases head?_snakeCase letters notHyphen with start | ⟨word, keyword, same⟩
    · constructor
      all_goals
        intro same
        rw [same] at start
        obtain rfl := Option.some.inj start
        cases lower
    · rw [same]
      exact longer word keyword
  refine ⟨Source.isIdentifier_snakeCase conventional.isPlainName, apart.1, ?_⟩
  rw [mem_keywords_iff, isKeyword_snakeCase]
  simpa using apart.2

/-! ## Types -/

theorem isAlphanum_of_mem_capitalizeFrom
    {chars : List Char} (allowed : ∀ c ∈ chars, isPieceChar c = true ∨ c = '-')
    (starting : Bool) {c : Char} (member : c ∈ capitalizeFrom starting chars) :
    c.isAlphanum = true := by
  induction chars generalizing starting with
  | nil =>
      rw [capitalizeFrom] at member
      cases member
  | cons first chars inductionHypothesis =>
      obtain ⟨here, allowed⟩ := List.forall_mem_cons.mp allowed
      rw [capitalizeFrom] at member
      by_cases hyphen : first = '-'
      · rw [if_pos hyphen] at member
        exact inductionHypothesis allowed true member
      · have piece := here.resolve_right hyphen
        have upper := Text.uppercase_of_isAscii (isAscii_of_isPieceChar piece)
        rw [if_neg hyphen, upper, List.singleton_append] at member
        split_ifs at member
        · rcases List.mem_cons.mp member with rfl | later
          · exact isAlphanum_toUpper piece
          · exact inductionHypothesis allowed false later
        · rcases List.mem_cons.mp member with rfl | later
          · exact isAlphanum_of_isPieceChar piece
          · exact inductionHypothesis allowed false later

/-- Behind its first character a piece stays as it is. -/
theorem capitalizeFrom_append
    {piece : List Char} (allowed : ∀ c ∈ piece, isPieceChar c = true)
    (rest : List Char) :
    capitalizeFrom false (piece ++ rest) = piece ++ capitalizeFrom false rest := by
  induction piece with
  | nil => rfl
  | cons c piece inductionHypothesis =>
      obtain ⟨here, allowed⟩ := List.forall_mem_cons.mp allowed
      rw [List.cons_append, capitalizeFrom, if_neg (ne_hyphen_of_isPieceChar here),
        if_neg Bool.false_ne_true, inductionHypothesis allowed]
      rfl

theorem capitalizeFrom_piece
    {piece : List Char} (allowed : ∀ c ∈ piece, isPieceChar c = true) :
    capitalizeFrom false piece = piece := by
  have kept := capitalizeFrom_append allowed []
  rwa [List.append_nil, capitalizeFrom, List.append_nil] at kept

theorem capitalizeFrom_cons
    {c : Char} (allowed : isPieceChar c = true) (rest : List Char) :
    capitalizeFrom true (c :: rest) = c.toUpper :: capitalizeFrom false rest := by
  rw [capitalizeFrom, if_neg (ne_hyphen_of_isPieceChar allowed), if_pos rfl,
    Text.uppercase_of_isAscii (isAscii_of_isPieceChar allowed)]
  rfl

/-- No piece but the first begins inside a word of lower-case letters. -/
theorem eq_of_capitalizeFrom
    {pieces : List (List Char)} (each : ∀ piece ∈ pieces, IsPiece piece)
    {upper : Char} {word : List Char} (lower : word.all Char.isLower = true)
    (same : capitalizeFrom true (['-'].intercalate pieces) = upper :: word) :
    ∃ c, ['-'].intercalate pieces = c :: word ∧ isPieceChar c = true ∧
      c.toUpper = upper := by
  cases pieces with
  | nil => cases same
  | cons piece pieces =>
      obtain ⟨⟨nonempty, here⟩, others⟩ := List.forall_mem_cons.mp each
      obtain ⟨c, piece, rfl⟩ := List.exists_cons_of_ne_nil nonempty
      obtain ⟨first, here⟩ := List.forall_mem_cons.mp here
      cases pieces with
      | nil =>
          rw [List.intercalate_singleton, capitalizeFrom_cons first,
            capitalizeFrom_piece here, List.cons.injEq] at same
          rw [List.intercalate_singleton, same.2]
          exact ⟨c, rfl, first, same.1⟩
      | cons next pieces =>
          -- The next piece would put a letter that is not lower-case into the word.
          obtain ⟨⟨filled, inside⟩, _⟩ := List.forall_mem_cons.mp others
          obtain ⟨d, next, rfl⟩ := List.exists_cons_of_ne_nil filled
          have second := inside d List.mem_cons_self
          obtain ⟨tail, rest⟩ :
              ∃ tail, ['-'].intercalate ((d :: next) :: pieces) = d :: tail := by
            cases pieces with
            | nil => exact ⟨next, List.intercalate_singleton⟩
            | cons _ _ => exact ⟨_, List.intercalate_cons_cons⟩
          rw [List.intercalate_cons_cons, rest, List.append_assoc, List.cons_append,
            capitalizeFrom_cons first, capitalizeFrom_append here, List.singleton_append,
            capitalizeFrom, if_pos rfl, capitalizeFrom_cons second,
            List.cons.injEq] at same
          have inWord : d.toUpper ∈ word := by simp [← same.2]
          have lowered := List.all_eq_true.mp lower _ inWord
          rw [Char.isLower_toUpper_eq_false] at lowered
          cases lowered

theorem pascalCase_eq_self_iff (conventional : Conventional written) :
    pascalCase written = "Self" ↔ written = "self" := by
  constructor
  · intro same
    rw [pascalCase, ← intercalate_pieces] at same
    have letters := congrArg String.toList same
    rw [String.toList_ofList] at letters
    obtain ⟨c, whole, allowed, upper⟩ :=
      eq_of_capitalizeFrom conventional.pieces (by decide) letters
    have lowered : 's' = c := by
      have restored := toLower_toUpper_of_isPieceChar allowed
      rwa [upper] at restored
    rw [intercalate_pieces, ← lowered] at whole
    exact String.toList_inj.mp whole
  · rintro rfl
    decide

/-- Of the structures only that of a method by the name `self` goes by a
keyword. -/
theorem legal_pascalCase_iff (conventional : Conventional written) :
    Legal (pascalCase written) ↔ written ≠ "self" := by
  rw [ne_eq, ← pascalCase_eq_self_iff conventional]
  constructor
  · rintro legal same
    exact legal.free (mem_keywords_iff.mpr (.inl same))
  · intro notSelf
    obtain ⟨first, rest, letters, lower, inside⟩ := conventional.characters
    have piece : isPieceChar first = true := by simp [isPieceChar, lower]
    have start :
        (pascalCase written).toList = first.toUpper :: capitalizeFrom false rest := by
      rw [pascalCase, String.toList_ofList, letters, capitalizeFrom_cons piece]
    have alpha : first.toUpper.isAlpha = true := by
      rw [Char.isAlpha_toUpper_eq_isAlpha]
      simp [Char.isAlpha, lower]
    refine ⟨?_, ?_, ?_⟩
    · rw [Source.isIdentifier, start]
      dsimp only
      rw [alpha, Bool.true_or, Bool.true_and, List.all_eq_true]
      intro c member
      have alphanum :=
        isAlphanum_of_mem_capitalizeFrom (List.forall_mem_cons.mp inside).2 false member
      simp [Source.isIdentifierChar, alphanum]
    · intro same
      rw [same] at start
      rw [← (List.cons.inj start).1] at alpha
      cases alpha
    · have begins : ∀ word ∈ keywords, word.toList.head?.any Char.isLower = true := by
        decide
      rw [mem_keywords_iff, not_or]
      refine ⟨notSelf, fun keyword => ?_⟩
      have lowered := begins _ (by simpa [isKeyword] using keyword)
      rw [start, List.head?_cons, Option.any_some, Char.isLower_toUpper_eq_false] at lowered
      cases lowered

/-! ## Constants -/

theorem alphanumericRuns_append
    {piece : List Char} (allowed : ∀ c ∈ piece, isPieceChar c = true)
    (run rest : List Char) :
    alphanumericRuns run (piece ++ rest) =
      alphanumericRuns (piece.reverse ++ run) rest := by
  induction piece generalizing run with
  | nil => rfl
  | cons c piece inductionHypothesis =>
      obtain ⟨here, allowed⟩ := List.forall_mem_cons.mp allowed
      have letter : Text.isAlphanumeric c = true := by
        rw [Text.isAlphanumeric_of_isAscii (isAscii_of_isPieceChar here)]
        exact isAlphanum_of_isPieceChar here
      rw [List.cons_append, alphanumericRuns, if_pos letter, inductionHypothesis allowed,
        List.reverse_cons, List.append_assoc]
      rfl

/-- The runs of letters and digits of a conventional name are its pieces. -/
theorem alphanumericRuns_intercalate
    {pieces : List (List Char)} (each : ∀ piece ∈ pieces, IsPiece piece) :
    alphanumericRuns [] (['-'].intercalate pieces) = pieces := by
  induction pieces with
  | nil => rfl
  | cons piece pieces inductionHypothesis =>
      obtain ⟨⟨nonempty, here⟩, each⟩ := List.forall_mem_cons.mp each
      have notEmpty : ¬ piece.reverse.isEmpty = true := by simpa using nonempty
      cases pieces with
      | nil =>
          have whole := alphanumericRuns_append here [] []
          rw [List.append_nil, List.append_nil] at whole
          rw [List.intercalate_singleton, whole, alphanumericRuns, if_neg notEmpty,
            List.reverse_reverse]
      | cons next pieces =>
          have hyphen : ¬ Text.isAlphanumeric '-' = true := by decide
          rw [List.intercalate_cons_cons, List.append_assoc,
            alphanumericRuns_append here, List.append_nil, List.singleton_append,
            alphanumericRuns, if_neg hyphen, if_neg notEmpty, List.reverse_reverse,
            inductionHypothesis each]

/-- No upper-case letter ends a word inside a piece. -/
theorem wordsOfRun_piece
    {piece : List Char} (allowed : ∀ c ∈ piece, isPieceChar c = true)
    (wordCase : WordCase) {word : List Char} (filled : word ≠ [] ∨ piece ≠ []) :
    wordsOfRun wordCase word piece = [word.reverse ++ piece] := by
  induction piece generalizing wordCase word with
  | nil =>
      have nonempty : ¬ word.isEmpty = true := by simpa using filled
      rw [wordsOfRun, if_neg nonempty, List.append_nil]
  | cons c piece inductionHypothesis =>
      obtain ⟨here, allowed⟩ := List.forall_mem_cons.mp allowed
      cases piece with
      | nil => rw [wordsOfRun, List.reverse_cons]
      | cons next piece =>
          have nextLow := isUppercase_of_isPieceChar (List.forall_mem_cons.mp allowed).1
          have low := isUppercase_of_isPieceChar here
          rw [wordsOfRun, if_neg (by simp [nextLow]), if_neg (by simp [low]),
            inductionHypothesis allowed _ (.inl (List.cons_ne_nil c word)),
            List.reverse_cons, List.append_assoc]
          rfl

theorem Conventional.words_eq (conventional : Conventional written) :
    words written.toList = written.toList.splitOn '-' := by
  have runs := alphanumericRuns_intercalate conventional.pieces
  rw [List.intercalate_splitOn] at runs
  rw [words, runs]
  have single :
      ∀ piece ∈ written.toList.splitOn '-', wordsOfRun .none [] piece = [piece] := by
    intro piece member
    obtain ⟨nonempty, allowed⟩ := conventional.pieces piece member
    exact wordsOfRun_piece allowed .none (.inr nonempty)
  rw [List.flatMap_congr single]
  exact List.flatMap_singleton' _

/-- Each piece of a conventional name is one word of its constant. -/
theorem joinScreaming_pieces
    {pieces : List (List Char)} (each : ∀ piece ∈ pieces, IsPiece piece) :
    joinScreaming pieces =
      (['-'].intercalate pieces).map fun c => if c = '-' then '_' else c.toUpper := by
  induction pieces with
  | nil => rfl
  | cons piece pieces inductionHypothesis =>
      obtain ⟨⟨_, here⟩, each⟩ := List.forall_mem_cons.mp each
      have upper :
          piece.flatMap Text.uppercase =
            piece.map fun c => if c = '-' then '_' else c.toUpper := by
        rw [List.map_eq_flatMap]
        refine List.flatMap_congr fun c member => ?_
        rw [Text.uppercase_of_isAscii (isAscii_of_isPieceChar (here c member)),
          if_neg (ne_hyphen_of_isPieceChar (here c member))]
      cases pieces with
      | nil => rw [joinScreaming, List.intercalate_singleton, upper]
      | cons next pieces =>
          rw [joinScreaming, inductionHypothesis each, List.intercalate_cons_cons, upper,
            List.append_assoc, List.map_append, List.singleton_append, List.map_cons,
            if_pos rfl]
          exact List.cons_ne_nil next pieces

/-- The constant of a conventional name is the name in upper case, hyphens
turned into underscores. -/
theorem Conventional.screamingCase_eq (conventional : Conventional written) :
    screamingCase written =
      String.ofList (written.toList.map fun c =>
        if c = '-' then '_' else c.toUpper) := by
  rw [screamingCase, conventional.words_eq, joinScreaming_pieces conventional.pieces,
    List.intercalate_splitOn]

theorem legal_screamingCase (conventional : Conventional written) :
    Legal (screamingCase written) := by
  obtain ⟨first, rest, letters, lower, inside⟩ := conventional.characters
  have notHyphen : first ≠ '-' := by
    rintro rfl
    cases lower
  have alpha : first.toUpper.isAlpha = true := by
    rw [Char.isAlpha_toUpper_eq_isAlpha]
    simp [Char.isAlpha, lower]
  have spelled := conventional.screamingCase_eq
  rw [letters, List.map_cons, if_neg notHyphen] at spelled
  refine ⟨?_, ?_, fun keyword => ?_⟩
  · rw [spelled, Source.isIdentifier, String.toList_ofList]
    dsimp only
    rw [alpha, Bool.true_or, Bool.true_and, List.all_map, List.all_eq_true]
    intro c member
    rcases (List.forall_mem_cons.mp inside).2 c member with allowed | rfl
    · have notHyphen := ne_hyphen_of_isPieceChar allowed
      simp [Source.isIdentifierChar, notHyphen, isAlphanum_toUpper allowed]
    · rfl
  · intro same
    have start := congrArg (fun name => name.toList.head?) (spelled.symm.trans same)
    simp only [String.toList_ofList, List.head?_cons] at start
    rw [Option.some.inj start] at alpha
    cases alpha
  · -- Every keyword has a lower-case letter, and no constant has one.
    have lowered :
        ∀ word ∈ strictKeywords ++ reservedKeywords,
          word.toList.any Char.isLower = true := by
      decide
    obtain ⟨c, member, isLower⟩ := List.any_eq_true.mp (lowered _ keyword)
    exact screamingCase_ne_of_isLower member isLower written rfl

end Conventional

end Name

/-! ## Documents -/

/-- A document all of whose classes, methods and arguments have conventional
names. -/
structure Spec.Conventional (spec : Spec) : Prop where
  classes : ∀ cls ∈ spec.classes, Name.Conventional cls.name
  methods : ∀ cls ∈ spec.classes, ∀ method ∈ cls.methods, Name.Conventional method.name
  arguments :
    ∀ cls ∈ spec.classes, ∀ method ∈ cls.methods, ∀ argument ∈ method.arguments,
      Name.Conventional argument.name

open Name

/-- The identifiers of a document with conventional names are legal, but for the
structure of a method by the name `self`. -/
theorem Spec.legal_identifiers_iff
    {spec : Spec} {protocol : Protocol}
    (accepted : spec.resolve.outcome = .ok protocol)
    (conventional : spec.Conventional) :
    ∀ cls ∈ protocol.classes,
      Legal cls.name.snake ∧
        ∀ method ∈ cls.methods,
          (Legal method.name.pascal ↔ method.name.written ≠ "self") ∧
            Legal method.name.screaming ∧
            ∀ field ∈ method.fields, Legal field.name.snake := by
  obtain ⟨_, resolves, _⟩ := Spec.resolves_of_resolve accepted
  intro cls member
  obtain ⟨declared, declaredMember, resolvesClass⟩ :=
    exists_left_of_forall₂ resolves.classes member
  rw [resolvesClass.name]
  refine ⟨legal_snakeCase (conventional.classes _ declaredMember), ?_⟩
  intro method methodMember
  obtain ⟨declaredMethod, declaredMethodMember, resolvesMethod⟩ :=
    exists_left_of_forall₂ resolvesClass.methods methodMember
  have named := conventional.methods _ declaredMember _ declaredMethodMember
  rw [resolvesMethod.name]
  refine ⟨legal_pascalCase_iff named, legal_screamingCase named, ?_⟩
  intro field fieldMember
  obtain ⟨argument, argumentMember, resolvesArgument⟩ :=
    exists_left_of_forall₂ resolvesMethod.fields fieldMember
  rw [resolvesArgument.name]
  exact legal_snakeCase
    (conventional.arguments _ declaredMember _ declaredMethodMember _ argumentMember)

/-- A document whose names are keywords as far as they may be. -/
def Spec.ofKeywords : Spec where
  name := none
  majorVersion := none
  minorVersion := none
  revision := none
  tcpPort := none
  domains := []
  classes :=
    [⟨10, "self",
      [⟨10, "crate-2", none, [⟨"type", some "octet", none⟩, ⟨"self", some "bit", none⟩]⟩]⟩]

def Protocol.ofKeywords : Protocol where
  info := ⟨none, none, none⟩
  domains := []
  classes :=
    [⟨10, Name.ofText "self",
      [⟨10, 10, Name.ofText "crate-2", "self.crate-2", false,
        [⟨Name.ofText "type", .octet, none⟩, ⟨Name.ofText "self", .bit, none⟩]⟩]⟩]

theorem Spec.legal_identifiers_ofKeywords :
    Spec.ofKeywords.resolve.outcome = .ok Protocol.ofKeywords ∧
      Spec.ofKeywords.Conventional ∧
      Legal "_self" ∧ Legal "Crate2" ∧ Legal "CRATE_2" ∧ Legal "_type" := by
  have accepted : Spec.ofKeywords.resolve.outcome = .ok Protocol.ofKeywords := by
    decide
  have conventional : Spec.ofKeywords.Conventional :=
    ⟨by decide, by decide, by decide⟩
  obtain ⟨module, methods⟩ :=
    Spec.legal_identifiers_iff accepted conventional _ List.mem_cons_self
  obtain ⟨struct, constant, fields⟩ := methods _ List.mem_cons_self
  have snake : Name.snakeCase "self" = "_self" ∧ Name.snakeCase "type" = "_type" := by
    decide
  have pascal : Name.pascalCase "crate-2" = "Crate2" := by decide
  have screaming : Name.screamingCase "crate-2" = "CRATE_2" := by decide
  refine ⟨accepted, conventional, snake.1 ▸ module, pascal ▸ struct.mpr (by decide),
    screaming ▸ constant, snake.2 ▸ fields _ List.mem_cons_self⟩

/-- A document of a method by the name `self`. -/
def Spec.ofSelf : Spec where
  name := none
  majorVersion := none
  minorVersion := none
  revision := none
  tcpPort := none
  domains := []
  classes := [⟨10, "basic", [⟨10, "self", none, []⟩]⟩]

theorem Spec.not_legal_ofSelf :
    ∃ protocol,
      Spec.ofSelf.resolve.outcome = .ok protocol ∧
        Spec.ofSelf.Conventional ∧
        ∃ cls ∈ protocol.classes, ∃ method ∈ cls.methods,
          method.name.pascal = "Self" ∧ ¬ Legal method.name.pascal := by
  let method : Method := ⟨10, 10, Name.ofText "self", "basic.self", false, []⟩
  let cls : ProtocolClass := ⟨10, Name.ofText "basic", [method]⟩
  have named : method.name.pascal = "Self" := by decide
  refine ⟨⟨⟨none, none, none⟩, [], [cls]⟩, by decide,
    ⟨by decide, by decide, by decide⟩,
    cls, List.mem_cons_self, method, List.mem_cons_self, named, ?_⟩
  rw [named]
  exact fun legal => legal.free (by decide)

end MethodCodec
