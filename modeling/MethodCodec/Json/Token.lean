import MethodCodec.Json.Number

/-!
The tokens of a JSON text. A text that goes wrong inside a token ends with a
broken one, so that what is right before it can still be read. Content that is
only skipped over is held to fewer rules than content that is read: half of a
surrogate pair and a number out of range pass.
-/

namespace MethodCodec.Json

/-- How a text fails to be JSON. -/
inductive Lapse
  /-- It goes on in a way that no JSON text does. -/
  | malformed
  /-- It ends too early. -/
  | unfinished
  deriving DecidableEq

/-- What a failing place of a text counts as, for one who reads it and for one
who skips it. -/
structure Gap where
  read : Lapse
  skip : Lapse
  deriving DecidableEq

/-- A place that fails in the same way for both. -/
def Gap.both (lapse : Lapse) : Gap := ⟨lapse, lapse⟩

/-- A token, which holds what can be known of it. -/
inductive Token
  | openBrace
  | closeBrace
  | openBracket
  | closeBracket
  | comma
  | colon
  | null
  | bool (value : Bool)
  /-- A number; `none` if it is out of the range of doubles. -/
  | number (value : Option Number)
  /-- A text; `none` if it holds half of a surrogate pair. -/
  | text (value : Option String)
  /-- The last token of a text that goes wrong inside it. -/
  | broken (inText : Bool) (gap : Gap)

namespace Token

/-- The four characters of white space. -/
def isSpace (c : Char) : Bool :=
  c == ' ' || c == '\n' || c == '\t' || c == '\r'

/-! ## Texts -/

/-- The number that four hexadecimal digits stand for. -/
def hexValue? (a b c d : Char) : Option Nat :=
  Text.readNumeral? 16 [a, b, c, d]

/-- The first half of a surrogate pair. -/
def isLeadSurrogate (code : Nat) : Bool := 0xD800 ≤ code && code ≤ 0xDBFF

/-- The second half of a surrogate pair. -/
def isTrailSurrogate (code : Nat) : Bool := 0xDC00 ≤ code && code ≤ 0xDFFF

/-- The character of a surrogate pair. -/
def pairedChar (lead trail : Nat) : Char :=
  Char.ofNat (0x10000 + (lead - 0xD800) * 0x400 + (trail - 0xDC00))

/-- The character that a letter after a backslash stands for. -/
def letterEscape? : Char → Option Char
  | '"' => some '"'
  | '\\' => some '\\'
  | '/' => some '/'
  | 'b' => some '\x08'
  | 'f' => some '\x0c'
  | 'n' => some '\n'
  | 'r' => some '\r'
  | 't' => some '\t'
  | _ => none

/-- The content of a text read so far: its characters, latest first, whether
half of a surrogate pair stood alone, and the first half of a pair that may
still find its second. -/
structure TextState where
  content : List Char := []
  flawed : Bool := false
  lead : Option Nat := none

namespace TextState

/-- The first half of a pair stays alone when something else follows it. -/
def settled (state : TextState) : TextState :=
  { state with flawed := state.flawed || state.lead.isSome, lead := none }

def push (state : TextState) (c : Char) : TextState :=
  { state.settled with content := c :: state.content }

/-- Takes up a code given in hexadecimal. -/
def pushCode (state : TextState) (code : Nat) : TextState :=
  if isTrailSurrogate code then
    match state.lead with
    | some lead => { state with content := pairedChar lead code :: state.content, lead := none }
    | none => { state with flawed := true }
  else if isLeadSurrogate code then
    { state.settled with lead := some code }
  else
    state.push (Char.ofNat code)

/-- A failure inside the text; one who reads it stumbles over an earlier flaw
first. -/
def fail (state : TextState) (lapse : Lapse) : Token :=
  .broken true ⟨if state.flawed then .malformed else lapse, lapse⟩

def finish (state : TextState) : Token :=
  let settled := state.settled
  .text (if settled.flawed then none else some (String.ofList settled.content.reverse))

end TextState

/-- The number of bytes that characters take. -/
def byteSize (chars : List Char) : Nat :=
  chars.foldr (fun c size => c.utf8Size + size) 0

/-- Reads a text from behind its opening quote to behind its closing one. -/
def scanText (state : TextState) : List Char → Token × List Char
  | [] => (state.fail .unfinished, [])
  | '"' :: rest => (state.finish, rest)
  | ['\\'] => (state.fail .unfinished, [])
  | '\\' :: 'u' :: a :: b :: c :: d :: rest =>
      match hexValue? a b c d with
      | some code => scanText (state.pushCode code) rest
      | none => (state.fail .malformed, [])
  | '\\' :: 'u' :: rest =>
      (state.fail (if byteSize rest < 4 then .unfinished else .malformed), [])
  | '\\' :: letter :: rest =>
      match letterEscape? letter with
      | some c => scanText (state.push c) rest
      | none => (state.fail .malformed, [])
  | c :: rest =>
      if c.toNat < 0x20 then (state.fail .malformed, [])
      else scanText (state.push c) rest

/-! ## Words and numbers -/

/-- Reads the rest of a word. -/
def scanWord (token : Token) : List Char → List Char → Token × List Char
  | [], input => (token, input)
  | _ :: _, [] => (.broken false (.both .unfinished), [])
  | expected :: word, c :: rest =>
      if c = expected then scanWord token word rest
      else (.broken false (.both .malformed), [])

/-- The digits at the front of a text. -/
def scanDigits : List Char → List Nat × List Char
  | [] => ([], [])
  | c :: rest =>
      match Text.digitValue? 10 c with
      | some digit => (digit :: (scanDigits rest).1, (scanDigits rest).2)
      | none => ([], c :: rest)

/-- A number that breaks off where a digit has to stand. Where the text ends
there, only one who reads the number takes that for its cause. -/
def brokenNumber (rest : List Char) : Token × List Char :=
  (.broken false ⟨if rest.isEmpty then .unfinished else .malformed, .malformed⟩, [])

/-- Reads an exponent behind its letter and sign. -/
def scanExponent (numeral : Numeral) (below : Bool) (input : List Char) : Token × List Char :=
  match scanDigits input with
  | ([], rest) => brokenNumber rest
  | (digits, rest) =>
      (.number { numeral with exponent := some (below, digits) }.value?, rest)

/-- Reads an exponent, if there is one. -/
def scanScale (numeral : Numeral) (input : List Char) : Token × List Char :=
  match input with
  | c :: rest =>
      if c = 'e' ∨ c = 'E' then
        match rest with
        | '+' :: rest => scanExponent numeral false rest
        | '-' :: rest => scanExponent numeral true rest
        | rest => scanExponent numeral false rest
      else
        (.number numeral.value?, input)
  | [] => (.number numeral.value?, [])

/-- Reads a fraction, if there is one, and what follows it. -/
def scanFraction (numeral : Numeral) : List Char → Token × List Char
  | '.' :: rest =>
      match scanDigits rest with
      | ([], rest) => brokenNumber rest
      | (digits, rest) => scanScale { numeral with fraction := some digits } rest
  | input => scanScale numeral input

/-- Reads a number behind its sign. A whole part does not begin with a zero
unless it is one. -/
def scanNumber (negative : Bool) (input : List Char) : Token × List Char :=
  match scanDigits input with
  | ([], rest) => brokenNumber rest
  | (0 :: _ :: _, _) => (.broken false (.both .malformed), [])
  | (digits, rest) => scanFraction ⟨negative, digits, none, none⟩ rest

/-! ## Tokens -/

/-- Reads the token that begins with `c`. -/
def scanFrom (c : Char) (rest : List Char) : Token × List Char :=
  match c with
  | '\x7b' => (openBrace, rest)
  | '\x7d' => (closeBrace, rest)
  | '[' => (openBracket, rest)
  | ']' => (closeBracket, rest)
  | ',' => (comma, rest)
  | ':' => (colon, rest)
  | '"' => scanText {} rest
  | 'n' => scanWord null ['u', 'l', 'l'] rest
  | 't' => scanWord (bool true) ['r', 'u', 'e'] rest
  | 'f' => scanWord (bool false) ['a', 'l', 's', 'e'] rest
  | '-' => scanNumber true rest
  | c =>
      if c.isDigit then scanNumber false (c :: rest)
      else (.broken false (.both .malformed), [])

/-- The tokens of a text, each found within `budget` steps of which every
character needs one. -/
def scanWithin : Nat → List Char → List Token
  | 0, _ => []
  | _ + 1, [] => []
  | budget + 1, c :: rest =>
      if isSpace c then scanWithin budget rest
      else
        match scanFrom c rest with
        | (token, rest) => token :: scanWithin budget rest

/-- The tokens of a text. -/
def scan (input : List Char) : List Token :=
  scanWithin input.length input

end Token

end MethodCodec.Json
