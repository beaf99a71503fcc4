/-!
A place in a YAML text, and the character classes that YAML texts are made of.
-/

namespace MethodCodec.Yaml

/-! ## Characters -/

/-- The characters that a text may hold anywhere. -/
def isAllowed (c : Char) : Bool :=
  let code := c.toNat
  code == 0x09 || code == 0x0A || code == 0x0D || code == 0x85
    || (0x20 ≤ code && code ≤ 0x7E) || (0xA0 ≤ code && code ≤ 0xFFFD) || 0x10000 ≤ code

/-- The characters that end a line. -/
def isBreak (c : Char) : Bool :=
  c == '\n' || c == '\r' || c == '\u0085' || c == '\u2028' || c == '\u2029'

/-- A space or a tab. -/
def isBlankSpace (c : Char) : Bool :=
  c == ' ' || c == '\t'

/-- The characters of anchors, handles and directive names. -/
def isWordChar (c : Char) : Bool :=
  c.isAlphanum || c == '_' || c == '-'

/-- Whether a text goes on with white space or ends. -/
def endsWord : List Char → Bool
  | [] => true
  | c :: _ => isBlankSpace c || isBreak c

/-- Whether a text goes on with a line break or ends. -/
def endsLine : List Char → Bool
  | [] => true
  | c :: _ => isBreak c

/-! ## Places -/

/-- A place: what follows it, and where it is. -/
structure Cursor where
  rest : List Char
  index : Nat := 0
  line : Nat := 0
  column : Nat := 0

namespace Cursor

/-- Passes `count` characters that end no line. -/
def skip (cursor : Cursor) (count : Nat) : Cursor :=
  { cursor with
    rest := cursor.rest.drop count
    index := cursor.index + count
    column := cursor.column + count }

/-- Passes the characters of a class that ends no line. -/
def skipWhile (cursor : Cursor) (passes : Char → Bool) : Cursor :=
  cursor.skip (cursor.rest.takeWhile passes).length

/-- The characters of a class that ends no line, and the place behind them. -/
def readWhile (cursor : Cursor) (passes : Char → Bool) : List Char × Cursor :=
  let front := cursor.rest.takeWhile passes
  (front, cursor.skip front.length)

/-- The start of the next line, `count` characters on. -/
def nextLine (cursor : Cursor) (count : Nat) : Cursor where
  rest := cursor.rest.drop count
  index := cursor.index + count
  line := cursor.line + 1
  column := 0

/-- Passes a line break, if there is one, and gives the break that it stands
for: the separators of lines and paragraphs stand for themselves, all others
for a line feed. -/
def readBreak (cursor : Cursor) : List Char × Cursor :=
  match cursor.rest with
  | '\r' :: '\n' :: _ => (['\n'], cursor.nextLine 2)
  | c :: _ =>
      if c = '\u2028' ∨ c = '\u2029' then ([c], cursor.nextLine 1)
      else if isBreak c then (['\n'], cursor.nextLine 1)
      else ([], cursor)
  | [] => ([], cursor)

/-- Whether a marker of documents stands at the start of a line: three times
the given character, and white space behind. -/
def atMarker (cursor : Cursor) (mark : Char) : Bool :=
  cursor.column == 0 && cursor.rest.take 3 == [mark, mark, mark] && endsWord (cursor.rest.drop 3)

/-- Whether a document begins or ends here by a marker. -/
def atAnyMarker (cursor : Cursor) : Bool :=
  cursor.atMarker '-' || cursor.atMarker '.'

/-- Passes a comment, if one begins here. -/
def skipComment (cursor : Cursor) : Cursor :=
  match cursor.rest with
  | '#' :: _ => cursor.skipWhile fun c => !isBreak c
  | _ => cursor

/-- Passes blanks, a comment and the break at the end of a line; `none` if
something else is left on the line. -/
def skipLineEnd? (cursor : Cursor) : Option Cursor :=
  let cursor := (cursor.skipWhile isBlankSpace).skipComment
  if endsLine cursor.rest then some cursor.readBreak.2 else none

end Cursor

/-! ## Folding -/

/-- White space met inside a text: blanks on the line, or the first break and
the breaks behind it. -/
structure Gathered where
  blanks : List Char := []
  /-- Whether a break was met. -/
  broken : Bool := false
  firstBreak : List Char := []
  laterBreaks : List Char := []

namespace Gathered

/-- The text that the white space stands for: a single line feed becomes a
space, of several the first is dropped. -/
def fold (gathered : Gathered) : List Char :=
  if gathered.broken then
    if gathered.firstBreak = ['\n'] then
      if gathered.laterBreaks.isEmpty then [' '] else gathered.laterBreaks
    else
      gathered.firstBreak ++ gathered.laterBreaks
  else
    gathered.blanks

/-- Takes up the break at a place. -/
def addBreak (gathered : Gathered) (cursor : Cursor) : Gathered × Cursor :=
  let (lineBreak, cursor) := cursor.readBreak
  if gathered.broken then
    ({ gathered with laterBreaks := gathered.laterBreaks ++ lineBreak }, cursor)
  else
    ({ gathered with blanks := [], broken := true, firstBreak := lineBreak }, cursor)

/-- Takes up the blank at a place; blanks behind a break count for nothing. -/
def addBlank (gathered : Gathered) (c : Char) (cursor : Cursor) : Gathered × Cursor :=
  if gathered.broken then (gathered, cursor.skip 1)
  else ({ gathered with blanks := gathered.blanks ++ [c] }, cursor.skip 1)

end Gathered

end MethodCodec.Yaml
