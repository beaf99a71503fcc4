import MethodCodec.Text.Numeral
import MethodCodec.Yaml.Cursor
import MethodCodec.Yaml.Token

/-!
The text of scalars in each of their styles. Every loop has a budget of the
characters that are left, since each round passes one.
-/

namespace MethodCodec.Yaml

/-! ## Plain scalars -/

/-- The places between brackets and braces, where some characters mean more. -/
def isFlowIndicator (c : Char) : Bool :=
  c == ',' || c == '[' || c == ']' || c == '\x7b' || c == '\x7d'

/-- How the characters of a plain scalar go on. -/
inductive PlainStop
  /-- White space, or the end of the scalar. -/
  | here
  /-- A colon that stands in front of a flow indicator. -/
  | badColon

/-- The characters of a plain scalar up to white space, an indicator that ends
it, or a colon that it cannot hold. -/
def plainRun (flow : Bool) : List Char → List Char × PlainStop
  | [] => ([], .here)
  | c :: rest =>
      if endsWord (c :: rest) then ([], .here)
      else if flow && c == ':'
          && (rest.head?.any fun next => isFlowIndicator next || next == '?') then
        ([], .badColon)
      else if (c == ':' && endsWord rest) || (flow && isFlowIndicator c) then ([], .here)
      else
        match plainRun flow rest with
        | (run, stop) => (c :: run, stop)

/-- Passes white space behind a part of a plain scalar. A tab must not stand
where the scalar's indentation is still missing. -/
def gatherPlain (indent : Int) : Nat → Gathered → Cursor → Option (Gathered × Cursor)
  | 0, gathered, cursor => some (gathered, cursor)
  | budget + 1, gathered, cursor =>
      match cursor.rest with
      | c :: _ =>
          if isBlankSpace c then
            if gathered.broken && decide ((cursor.column : Int) < indent) && c == '\t' then none
            else
              match gathered.addBlank c cursor with
              | (gathered, cursor) => gatherPlain indent budget gathered cursor
          else if isBreak c then
            match gathered.addBreak cursor with
            | (gathered, cursor) => gatherPlain indent budget gathered cursor
          else
            some (gathered, cursor)
      | [] => some (gathered, cursor)

/-- What a scalar leaves behind: its text, whether a line break was passed
behind it, and the place. -/
structure PlainResult where
  text : List Char
  broken : Bool
  cursor : Cursor

/-- Reads a plain scalar on; `gathered` is the white space since its last
part. -/
def scanPlainFrom (flow : Bool) (indent : Int) :
    Nat → List Char → Gathered → Cursor → Option PlainResult
  | 0, _, _, _ => none
  | budget + 1, text, gathered, cursor =>
      let ended : PlainResult := ⟨text, gathered.broken, cursor⟩
      if cursor.atAnyMarker || cursor.rest.head? == some '#' then some ended
      else
        match plainRun flow cursor.rest with
        | (_, .badColon) => none
        | (run, .here) =>
            let next := cursor.skip run.length
            let text := if run.isEmpty then text else text ++ gathered.fold ++ run
            let gathered := if run.isEmpty then gathered else {}
            match next.rest with
            | c :: _ =>
                if isBlankSpace c || isBreak c then
                  match gatherPlain indent next.rest.length gathered next with
                  | none => none
                  | some (gathered, behind) =>
                      if !flow && decide ((behind.column : Int) < indent) then
                        some ⟨text, gathered.broken, behind⟩
                      else
                        scanPlainFrom flow indent budget text gathered behind
                else
                  some ⟨text, gathered.broken, next⟩
            | [] => some ⟨text, gathered.broken, next⟩

/-- Reads a plain scalar. -/
def scanPlain (flow : Bool) (indent : Int) (cursor : Cursor) : Option PlainResult :=
  scanPlainFrom flow indent (cursor.rest.length + 1) [] {} cursor

/-! ## Quoted scalars -/

/-- The character that a letter behind a backslash stands for. -/
def namedEscape? : Char → Option Char
  | '0' => some '\x00'
  | 'a' => some '\x07'
  | 'b' => some '\x08'
  | 't' => some '\t'
  | '\t' => some '\t'
  | 'n' => some '\n'
  | 'v' => some '\x0b'
  | 'f' => some '\x0c'
  | 'r' => some '\r'
  | 'e' => some '\x1b'
  | ' ' => some ' '
  | '"' => some '"'
  | '/' => some '/'
  | '\\' => some '\\'
  | 'N' => some '\u0085'
  | '_' => some '\u00a0'
  | 'L' => some '\u2028'
  | 'P' => some '\u2029'
  | _ => none

/-- How many hexadecimal digits follow a letter behind a backslash. -/
def escapeWidth? : Char → Option Nat
  | 'x' => some 2
  | 'u' => some 4
  | 'U' => some 8
  | _ => none

/-- The character of an escape, from behind its backslash, and the number of
characters that it takes there. -/
def readEscape? : List Char → Option (Char × Nat)
  | [] => none
  | letter :: rest =>
      match namedEscape? letter with
      | some c => some (c, 1)
      | none =>
          match escapeWidth? letter with
          | none => none
          | some width =>
              if rest.length < width then none
              else
                match Text.readNumeral? 16 (rest.take width) with
                | none => none
                | some code =>
                    if code.isValidChar then some (Char.ofNat code, width + 1) else none

/-- A part of a quoted scalar up to white space, an escaped line break or the
closing quote. -/
structure QuotedRun where
  text : List Char
  /-- Whether an escaped line break ended the part. -/
  escapedBreak : Bool
  cursor : Cursor

/-- Reads a part of a quoted scalar; the text is kept with its latest character
first. -/
def quotedRun (single : Bool) : Nat → List Char → Cursor → Option QuotedRun
  | 0, text, cursor => some ⟨text, false, cursor⟩
  | budget + 1, text, cursor =>
      match cursor.rest with
      | [] => some ⟨text, false, cursor⟩
      | c :: rest =>
          if isBlankSpace c || isBreak c then some ⟨text, false, cursor⟩
          else if single then
            if c = '\'' then
              match rest with
              | '\'' :: _ => quotedRun single budget ('\'' :: text) (cursor.skip 2)
              | _ => some ⟨text, false, cursor⟩
            else
              quotedRun single budget (c :: text) (cursor.skip 1)
          else if c = '"' then some ⟨text, false, cursor⟩
          else if c = '\\' then
            if rest.head?.any isBreak then some ⟨text, true, (cursor.skip 1).readBreak.2⟩
            else
              match readEscape? rest with
              | some (escaped, width) =>
                  quotedRun single budget (escaped :: text) (cursor.skip (width + 1))
              | none => none
          else
            quotedRun single budget (c :: text) (cursor.skip 1)

/-- Passes white space inside a quoted scalar. -/
def gatherQuoted : Nat → Gathered → Cursor → Gathered × Cursor
  | 0, gathered, cursor => (gathered, cursor)
  | budget + 1, gathered, cursor =>
      match cursor.rest with
      | c :: _ =>
          if isBlankSpace c then
            match gathered.addBlank c cursor with
            | (gathered, cursor) => gatherQuoted budget gathered cursor
          else if isBreak c then
            match gathered.addBreak cursor with
            | (gathered, cursor) => gatherQuoted budget gathered cursor
          else
            (gathered, cursor)
      | [] => (gathered, cursor)

/-- Reads a quoted scalar on from inside its quotes. The text must end before
no document does. -/
def scanQuotedFrom (single : Bool) : Nat → List Char → Cursor → Option (List Char × Cursor)
  | 0, _, _ => none
  | budget + 1, text, cursor =>
      if cursor.atAnyMarker || cursor.rest.isEmpty then none
      else
        match quotedRun single cursor.rest.length text cursor with
        | none => none
        | some run =>
            let closing := if single then '\'' else '"'
            if run.cursor.rest.head? == some closing then
              some (run.text.reverse, run.cursor.skip 1)
            else
              let gathered : Gathered := { broken := run.escapedBreak }
              match gatherQuoted run.cursor.rest.length gathered run.cursor with
              | (gathered, cursor) =>
                  scanQuotedFrom single budget (gathered.fold.reverse ++ run.text) cursor

/-- Reads a quoted scalar from its opening quote. -/
def scanQuoted (single : Bool) (cursor : Cursor) : Option (List Char × Cursor) :=
  scanQuotedFrom single (cursor.rest.length + 1) [] (cursor.skip 1)

/-! ## Block scalars -/

/-- What becomes of the line breaks at the end of a block scalar. -/
inductive Chomping
  | strip
  | clip
  | keep
  deriving DecidableEq

/-- Reads the chomping mark of a block scalar, if it has one. -/
def readChomping (cursor : Cursor) : Option (Chomping × Cursor) :=
  match cursor.rest with
  | '+' :: _ => some (.keep, cursor.skip 1)
  | '-' :: _ => some (.strip, cursor.skip 1)
  | _ => none

/-- Reads the indentation mark of a block scalar, if it has one; zero is not
allowed. -/
def readIndentMark (cursor : Cursor) : Option (Nat × Cursor) :=
  match cursor.rest with
  | c :: _ =>
      match Text.digitValue? 10 c with
      | some 0 => none
      | some digit => some (digit, cursor.skip 1)
      | none => some (0, cursor)
  | [] => some (0, cursor)

/-- Reads the marks of a block scalar, in either order. -/
def readBlockHeader (cursor : Cursor) : Option (Chomping × Nat × Cursor) :=
  match readChomping cursor with
  | some (chomping, cursor) =>
      (readIndentMark cursor).map fun (mark, cursor) => (chomping, mark, cursor)
  | none =>
      match readIndentMark cursor with
      | none => none
      | some (0, cursor) => some (.clip, 0, cursor)
      | some (mark, cursor) =>
          match readChomping cursor with
          | some (chomping, cursor) => some (chomping, mark, cursor)
          | none => some (.clip, mark, cursor)

/-- Empty lines and indentation inside a block scalar. While the indentation
is not known, it is zero here, and `deepest` is the deepest column met. -/
structure BlockGap where
  breaks : List Char
  deepest : Nat
  cursor : Cursor

/-- Passes empty lines and the indentation of the line after them. A tab must
not stand where indentation is still missing. -/
def passBlockGap (indent : Nat) : Nat → BlockGap → Option BlockGap
  | 0, gap => some gap
  | budget + 1, gap =>
      let spaces := (gap.cursor.rest.takeWhile (· == ' ')).length
      let missing := indent - gap.cursor.column
      let cursor := gap.cursor.skip (if indent = 0 then spaces else min spaces missing)
      let gap := { gap with deepest := max gap.deepest cursor.column, cursor }
      match cursor.rest with
      | c :: _ =>
          if c = '\t' ∧ (indent = 0 ∨ cursor.column < indent) then none
          else if isBreak c then
            match cursor.readBreak with
            | (lineBreak, cursor) =>
                passBlockGap indent budget { gap with breaks := gap.breaks ++ lineBreak, cursor }
          else
            some gap
      | [] => some gap

/-- A block scalar that is being read. -/
structure BlockState where
  text : List Char := []
  /-- The break at the end of the last line. -/
  lineBreak : List Char := []
  /-- Whether the last line begins with a blank. -/
  blankBefore : Bool := false

/-- Appends a line, the break before it, and the empty lines between. In folded
style a line feed between two lines that do not begin with a blank becomes a
space, or nothing if empty lines follow it. -/
def BlockState.addLine (state : BlockState) (literal : Bool) (emptyLines line : List Char)
    (lineBreak : List Char) : BlockState :=
  let blank := line.head?.any isBlankSpace
  let folds := !literal && state.lineBreak == ['\n'] && !state.blankBefore && !blank
  let joint :=
    if folds then (if emptyLines.isEmpty then [' '] else emptyLines)
    else state.lineBreak ++ emptyLines
  { text := state.text ++ joint ++ line, lineBreak, blankBefore := blank }

/-- Reads the lines of a block scalar; gives it with the empty lines behind
it. -/
def scanBlockLines (literal : Bool) (indent : Nat) :
    Nat → BlockState → BlockGap → Option (BlockState × BlockGap)
  | 0, state, gap => some (state, gap)
  | budget + 1, state, gap =>
      if gap.cursor.column = indent ∧ !gap.cursor.rest.isEmpty then
        match gap.cursor.readWhile fun c => !isBreak c with
        | (line, cursor) =>
            match cursor.readBreak with
            | (lineBreak, cursor) =>
                match passBlockGap indent (cursor.rest.length + 1) ⟨[], 0, cursor⟩ with
                | none => none
                | some next =>
                    scanBlockLines literal indent budget
                      (state.addLine literal gap.breaks line lineBreak) next
      else
        some (state, gap)

/-- Reads a block scalar from its indicator, inside a block of the given
indentation. -/
def scanBlock (literal : Bool) (outer : Int) (cursor : Cursor) : Option (List Char × Cursor) :=
  match readBlockHeader (cursor.skip 1) with
  | none => none
  | some (chomping, mark, cursor) =>
      match cursor.skipLineEnd? with
      | none => none
      | some cursor =>
          let given : Nat := if mark = 0 then 0 else (max outer 0).toNat + mark
          match passBlockGap given (cursor.rest.length + 1) ⟨[], 0, cursor⟩ with
          | none => none
          | some gap =>
              let indent := if given = 0 then max (max gap.deepest (outer + 1).toNat) 1 else given
              match scanBlockLines literal indent (cursor.rest.length + 1) {} gap with
              | none => none
              | some (state, gap) =>
                  let tail :=
                    match chomping with
                    | .strip => []
                    | .clip => state.lineBreak
                    | .keep => state.lineBreak ++ gap.breaks
                  some (state.text ++ tail, gap.cursor)

end MethodCodec.Yaml
