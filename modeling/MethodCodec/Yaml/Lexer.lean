import MethodCodec.Yaml.Property
import MethodCodec.Yaml.ScalarText

/-!
The tokens of a whole YAML text. Blocks are told by indentation, so the lexer
opens and closes them; and a key is known as one only when a colon is met behind
it, so the lexer remembers where a key may have begun and puts its token there.
-/

namespace MethodCodec.Yaml

/-- A place where a key may have begun. -/
structure KeyStart where
  /-- Whether nothing but a key can stand there. -/
  required : Bool
  /-- The number of tokens before it. -/
  position : Nat
  cursor : Cursor

/-- The state of the lexer. -/
structure Lexer where
  cursor : Cursor
  tokens : Array Token := #[]
  /-- Whether a key may begin here. -/
  keyAllowed : Bool := true
  /-- The key start of the block level, or of the innermost brackets. -/
  keyStart : Option KeyStart := none
  /-- The key starts of the levels around it, innermost first. -/
  outerStarts : List (Option KeyStart) := []
  /-- The column of the innermost block, or minus one outside all. -/
  indent : Int := -1
  /-- The columns of the blocks around it, innermost first. -/
  outerIndents : List Int := []

namespace Lexer

/-- Whether the place is between brackets or braces. -/
def inFlow (lexer : Lexer) : Bool :=
  !lexer.outerStarts.isEmpty

/-- Adds a token behind all others. -/
def emit (lexer : Lexer) (token : Token) : Lexer :=
  { lexer with tokens := lexer.tokens.push token }

/-- Puts a token in front of those that are there since a position. -/
def insertAt (lexer : Lexer) (position : Nat) (token : Token) : Lexer :=
  { lexer with tokens := lexer.tokens.insertIdxIfInBounds position token }

/-! ## Keys -/

/-- The longest stretch of text that a key may take. -/
def longestKey : Nat := 1024

/-- Whether a key that began somewhere cannot end here any more. -/
def isStale (lexer : Lexer) (start : KeyStart) : Bool :=
  decide (start.cursor.line < lexer.cursor.line)
    || decide (start.cursor.index + longestKey < lexer.cursor.index)

/-- Forgets a key start that is stale; fails if a key had to be there. -/
def refresh (lexer : Lexer) : Option KeyStart → Option (Option KeyStart)
  | some start =>
      if lexer.isStale start then (if start.required then none else some none)
      else some (some start)
  | none => some none

/-- Forgets all key starts that are stale. -/
def dropStale (lexer : Lexer) : Option Lexer :=
  match lexer.refresh lexer.keyStart, lexer.outerStarts.mapM lexer.refresh with
  | some keyStart, some outerStarts => some { lexer with keyStart, outerStarts }
  | _, _ => none

/-- Gives up the key start of this level; fails if a key had to be there. -/
def dropKeyStart (lexer : Lexer) : Option Lexer :=
  match lexer.keyStart with
  | some start => if start.required then none else some { lexer with keyStart := none }
  | none => some lexer

/-- Remembers that a key may begin here, if it may. -/
def markKeyStart (lexer : Lexer) : Option Lexer :=
  if lexer.keyAllowed then
    lexer.dropKeyStart.map fun lexer =>
      { lexer with
        keyStart := some
          { required := !lexer.inFlow && lexer.indent == (lexer.cursor.column : Int)
            position := lexer.tokens.size
            cursor := lexer.cursor } }
  else
    some lexer

/-! ## Blocks -/

/-- Opens a block at a column further in; its token goes to the given
position. -/
def openBlock (lexer : Lexer) (column position : Nat) (token : Token) : Lexer :=
  if !lexer.inFlow && decide (lexer.indent < (column : Int)) then
    { lexer.insertAt position token with
      outerIndents := lexer.indent :: lexer.outerIndents
      indent := column }
  else
    lexer

/-- Closes the blocks that lie further in than a column. -/
def closeBlocksFrom (column : Int) : List Int → Lexer → Lexer
  | outer :: rest, lexer =>
      if column < lexer.indent then
        closeBlocksFrom column rest
          { lexer.emit .blockEnd with indent := outer, outerIndents := rest }
      else
        lexer
  | [], lexer => lexer

/-- Closes blocks by indentation, which counts only outside brackets. -/
def closeBlocks (lexer : Lexer) (column : Int) : Lexer :=
  if lexer.inFlow then lexer else closeBlocksFrom column lexer.outerIndents lexer

/-! ## White space -/

/-- Passes white space and comments. Tabs do not count among it where a key may
begin in a block. -/
def passSpace : Nat → Lexer → Lexer
  | 0, lexer => lexer
  | budget + 1, lexer =>
      let tabs := lexer.inFlow || !lexer.keyAllowed
      let cursor :=
        (lexer.cursor.skipWhile fun c => c == ' ' || (tabs && c == '\t')).skipComment
      match cursor.rest with
      | c :: _ =>
          if isBreak c then
            passSpace budget
              { lexer with
                cursor := cursor.readBreak.2
                keyAllowed := lexer.keyAllowed || !lexer.inFlow }
          else
            { lexer with cursor }
      | [] => { lexer with cursor }

/-- Passes the byte order mark at the start of a text. -/
def passOrderMark (lexer : Lexer) : Lexer :=
  match lexer.cursor.index, lexer.cursor.rest with
  | 0, '\ufeff' :: _ => { lexer with cursor := lexer.cursor.skip 1 }
  | _, _ => lexer

/-! ## Single tokens -/

/-- A token of one character. -/
def single (lexer : Lexer) (token : Token) : Lexer :=
  { lexer with cursor := lexer.cursor.skip 1 }.emit token

/-- Goes on at a place behind a token. -/
def place (lexer : Lexer) (found : Option (Token × Cursor)) : Option Lexer :=
  found.map fun (token, cursor) => { lexer with cursor }.emit token

/-- Ends all blocks before something that concerns whole documents. -/
def leaveBlocks (lexer : Lexer) : Option Lexer :=
  (lexer.closeBlocks (-1)).dropKeyStart.map fun lexer => { lexer with keyAllowed := false }

/-- Reads a directive, which stands before a document. -/
def lexDirective (lexer : Lexer) : Option Lexer :=
  lexer.leaveBlocks.bind fun lexer => lexer.place (scanDirective lexer.cursor)

/-- Reads one of the marks between documents. -/
def lexMarker (lexer : Lexer) (token : Token) : Option Lexer :=
  lexer.leaveBlocks.map fun lexer =>
    { lexer with cursor := lexer.cursor.skip 3 }.emit token

/-- Reads an opening bracket or brace, which may begin a key. -/
def lexFlowStart (lexer : Lexer) (token : Token) : Option Lexer :=
  lexer.markKeyStart.map fun lexer =>
    { lexer with
      outerStarts := lexer.keyStart :: lexer.outerStarts
      keyStart := none
      keyAllowed := true }.single token

/-- Reads a closing bracket or brace. -/
def lexFlowEnd (lexer : Lexer) (token : Token) : Option Lexer :=
  lexer.dropKeyStart.map fun lexer =>
    match lexer.outerStarts with
    | keyStart :: outerStarts =>
        { lexer with keyStart, outerStarts, keyAllowed := false }.single token
    | [] => { lexer with keyAllowed := false }.single token

/-- Reads a comma, behind which a key may begin. -/
def lexFlowEntry (lexer : Lexer) : Option Lexer :=
  lexer.dropKeyStart.map fun lexer => { lexer with keyAllowed := true }.single .flowEntry

/-- Reads a dash, which opens a sequence if it is further in. -/
def lexBlockEntry (lexer : Lexer) : Option Lexer :=
  if lexer.inFlow || lexer.keyAllowed then
    (lexer.openBlock lexer.cursor.column lexer.tokens.size .blockSequenceStart).dropKeyStart.map
      fun lexer => { lexer with keyAllowed := true }.single .blockEntry
  else none

/-- Reads a question mark, which opens a mapping if it is further in. -/
def lexKey (lexer : Lexer) : Option Lexer :=
  if lexer.inFlow || lexer.keyAllowed then
    (lexer.openBlock lexer.cursor.column lexer.tokens.size .blockMappingStart).dropKeyStart.map
      fun lexer => { lexer with keyAllowed := !lexer.inFlow }.single .key
  else none

/-- A colon makes a key of what began at the key start of this level. Without
one it begins the value of an empty or marked key. -/
def lexValue (lexer : Lexer) : Option Lexer :=
  match lexer.keyStart with
  | some start =>
      let lexer :=
        (lexer.insertAt start.position .key).openBlock start.cursor.column start.position
          .blockMappingStart
      some ({ lexer with keyStart := none, keyAllowed := false }.single .value)
  | none =>
      if lexer.inFlow || lexer.keyAllowed then
        let lexer := lexer.openBlock lexer.cursor.column lexer.tokens.size .blockMappingStart
        some ({ lexer with keyAllowed := !lexer.inFlow }.single .value)
      else none

/-- Reads a token that a key can begin with. -/
def lexKeyLike (lexer : Lexer) (scanToken : Lexer → Option (Token × Cursor)) : Option Lexer :=
  lexer.markKeyStart.bind fun lexer =>
    let lexer := { lexer with keyAllowed := false }
    lexer.place (scanToken lexer)

/-- Reads a quoted scalar, between single quotes if `one` is set. -/
def lexQuoted (lexer : Lexer) (one : Bool) : Option Lexer :=
  lexer.lexKeyLike fun lexer =>
    (scanQuoted one lexer.cursor).map fun (text, cursor) =>
      (.scalar (if one then .singleQuoted else .doubleQuoted) text, cursor)

/-- Reads a plain scalar. A key may begin behind it if a line break stands between. -/
def lexPlain (lexer : Lexer) : Option Lexer :=
  lexer.markKeyStart.bind fun lexer =>
    (scanPlain lexer.inFlow (lexer.indent + 1) lexer.cursor).map fun result =>
      { lexer with cursor := result.cursor, keyAllowed := result.broken }.emit
        (.scalar .plain result.text)

/-- Reads a scalar that has lines of its own. -/
def lexBlockScalar (lexer : Lexer) (literal : Bool) : Option Lexer :=
  lexer.dropKeyStart.bind fun lexer =>
    let lexer := { lexer with keyAllowed := true }
    lexer.place ((scanBlock literal lexer.indent lexer.cursor).map fun (text, cursor) =>
      (.scalar (if literal then .literal else .folded) text, cursor))

/-- The indicators that no plain scalar begins with. -/
def isIndicator (c : Char) : Bool :=
  ['-', '?', ':', ',', '[', ']', '\x7b', '\x7d', '#', '&', '*', '!', '|', '>', '\'', '"', '%',
    '@', '`'].contains c

/-- Whether a plain scalar begins with `c`. A dash, and outside brackets a
question mark or colon, begins one if no white space follows it. -/
def beginsPlain (flow : Bool) (c : Char) (rest : List Char) : Bool :=
  !isIndicator c && !isBlankSpace c
    || c == '-' && !rest.head?.any isBlankSpace
    || !flow && (c == '?' || c == ':') && !endsWord rest

/-- Reads the token that begins with `c`. -/
def lexToken (lexer : Lexer) (c : Char) (rest : List Char) : Option Lexer :=
  let flow := lexer.inFlow
  if lexer.cursor.column = 0 ∧ c = '%' then lexer.lexDirective
  else if lexer.cursor.atMarker '-' then lexer.lexMarker .documentStart
  else if lexer.cursor.atMarker '.' then lexer.lexMarker .documentEnd
  else if c = '[' then lexer.lexFlowStart .flowSequenceStart
  else if c = '\x7b' then lexer.lexFlowStart .flowMappingStart
  else if c = ']' then lexer.lexFlowEnd .flowSequenceEnd
  else if c = '\x7d' then lexer.lexFlowEnd .flowMappingEnd
  else if c = ',' then lexer.lexFlowEntry
  else if c = '-' ∧ endsWord rest then lexer.lexBlockEntry
  else if c = '?' ∧ (flow ∨ endsWord rest) then lexer.lexKey
  else if c = ':' ∧ (flow ∨ endsWord rest) then lexer.lexValue
  else if c = '*' then
    lexer.lexKeyLike fun lexer =>
      (scanAnchorName lexer.cursor).map fun (name, cursor) => (.reference name, cursor)
  else if c = '&' then
    lexer.lexKeyLike fun lexer =>
      (scanAnchorName lexer.cursor).map fun (name, cursor) => (.anchor name, cursor)
  else if c = '!' then lexer.lexKeyLike fun lexer => scanTag lexer.inFlow lexer.cursor
  else if c = '|' ∧ !flow then lexer.lexBlockScalar true
  else if c = '>' ∧ !flow then lexer.lexBlockScalar false
  else if c = '\'' then lexer.lexQuoted true
  else if c = '"' then lexer.lexQuoted false
  else if beginsPlain flow c rest then lexer.lexPlain
  else none

/-- Ends the text: the line ends, and so do all blocks. -/
def lexEnd (lexer : Lexer) : Option Lexer :=
  let cursor := lexer.cursor
  let lines := if cursor.column = 0 then cursor.line else cursor.line + 1
  let ended := { cursor with line := lines, column := 0 }
  { lexer with cursor := ended }.leaveBlocks

/-- Reads tokens to the end of the text, each of which takes a character. -/
def run : Nat → Lexer → Option Lexer
  | 0, _ => none
  | budget + 1, lexer =>
      match (lexer.passOrderMark.passSpace (lexer.cursor.rest.length + 1)).dropStale with
      | none => none
      | some lexer =>
          let lexer := lexer.closeBlocks lexer.cursor.column
          match lexer.cursor.rest with
          | [] => lexer.lexEnd
          | c :: rest =>
              match lexer.lexToken c rest with
              | some lexer => run budget lexer
              | none => none

end Lexer

/-- The tokens of a text, if it has only characters and tokens that are
allowed. -/
def Token.scan (text : List Char) : Option (List Token) :=
  if text.all isAllowed then
    (Lexer.run (text.length + 1) { cursor := { rest := text } }).map fun lexer =>
      lexer.tokens.toList
  else none

end MethodCodec.Yaml
