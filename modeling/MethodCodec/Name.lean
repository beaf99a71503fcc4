import MethodCodec.Text.Alphanumeric
import MethodCodec.Text.LetterCase

/-!
Identifiers derived from the names of a protocol document. A name such as
`start-ok` gives a field or module identifier `start_ok`, a type identifier
`StartOk` and a constant `START_OK`.
-/

namespace MethodCodec

/-- A name together with every identifier that is derived from it. -/
structure Name where
  /-- The name as the document writes it. -/
  written : String
  /-- For fields and modules. -/
  snake : String
  /-- For types. -/
  pascal : String
  /-- For constants. -/
  screaming : String
  deriving DecidableEq

namespace Name

/-! ## Fields and modules -/

/-- The words that the target language keeps for itself. -/
def keywords : List String :=
  ["abstract", "as", "async", "await", "become", "box", "break", "const", "continue", "crate",
    "do", "dyn", "else", "enum", "extern", "false", "final", "fn", "for", "gen", "if", "impl",
    "in", "let", "loop", "macro", "match", "mod", "move", "mut", "override", "priv", "pub", "ref",
    "return", "self", "static", "struct", "super", "trait", "true", "try", "type", "typeof",
    "unsafe", "unsized", "use", "virtual", "where", "while", "yield"]

/-- Whether a word cannot be an identifier. -/
def isKeyword (word : String) : Bool :=
  keywords.contains word

/-- Every hyphen becomes an underscore. -/
def underscored (name : String) : String :=
  String.ofList (name.toList.map fun c => if c = '-' then '_' else c)

/-- Hyphens become underscores, and a reserved word takes one in front. -/
def snakeCase (name : String) : String :=
  if isKeyword (underscored name) then "_" ++ underscored name else underscored name

/-! ## Types -/

/-- Drops hyphens and upper-cases the first character of each piece between
them; `starting` says whether the next character is such a first one. -/
def capitalizeFrom (starting : Bool) : List Char → List Char
  | [] => []
  | c :: rest =>
      if c = '-' then capitalizeFrom true rest
      else if starting then Text.uppercase c ++ capitalizeFrom false rest
      else c :: capitalizeFrom false rest

/-- Each piece between hyphens capitalized, hyphens dropped. Only the first
character of a piece changes, so `get-empty` and `getEmpty` stay apart from
`getempty`. -/
def pascalCase (name : String) : String :=
  String.ofList (capitalizeFrom true name.toList)

/-! ## Constants -/

/-- The case of the letters read so far in the word that is being read;
characters without case leave it as it is. -/
inductive WordCase
  | none
  | lower
  | upper
  deriving DecidableEq

/-- The case of a word after `c` has been read too. -/
def WordCase.after (wordCase : WordCase) (c : Char) : WordCase :=
  if Text.isLowercase c then .lower
  else if Text.isUppercase c then .upper
  else wordCase

/-- Splits a run of letters and digits into words. A word ends after a
lower-case letter, and the caseless characters behind it, when an upper-case
letter follows; in a run of upper-case letters it ends before the last one
when a lower-case letter follows that. `word` holds the word being read,
latest character first. -/
def wordsOfRun (wordCase : WordCase) (word : List Char) : List Char → List (List Char)
  | [] => if word.isEmpty then [] else [word.reverse]
  | [c] => [(c :: word).reverse]
  | c :: next :: rest =>
      if wordCase.after c = .lower ∧ Text.isUppercase next then
        (c :: word).reverse :: wordsOfRun .none [] (next :: rest)
      else if wordCase = .upper ∧ Text.isUppercase c ∧ Text.isLowercase next then
        word.reverse :: wordsOfRun .none [c] (next :: rest)
      else
        wordsOfRun (wordCase.after c) (c :: word) (next :: rest)

/-- The runs of letters and digits of a text, in order; `run` holds the one
being read, latest character first. -/
def alphanumericRuns (run : List Char) : List Char → List (List Char)
  | [] => if run.isEmpty then [] else [run.reverse]
  | c :: rest =>
      if Text.isAlphanumeric c then
        alphanumericRuns (c :: run) rest
      else if run.isEmpty then
        alphanumericRuns [] rest
      else
        run.reverse :: alphanumericRuns [] rest

/-- The words of a name. -/
def words (name : List Char) : List (List Char) :=
  (alphanumericRuns [] name).flatMap (wordsOfRun .none [])

/-- Words in upper case, joined by underscores. -/
def joinScreaming : List (List Char) → List Char
  | [] => []
  | [word] => word.flatMap Text.uppercase
  | word :: rest => word.flatMap Text.uppercase ++ '_' :: joinScreaming rest

/-- The words of a name in upper case with underscores between them. -/
def screamingCase (name : String) : String :=
  String.ofList (joinScreaming (words name.toList))

/-! ## All forms at once -/

/-- A name with all its identifiers. -/
def ofText (name : String) : Name where
  written := name
  snake := snakeCase name
  pascal := pascalCase name
  screaming := screamingCase name

end Name

end MethodCodec
