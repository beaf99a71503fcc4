import MethodCodec.Yaml.Lexer

/-!
YAML documents as trees. An alias stays a leaf of the tree and says the number
of its anchor; the document keeps the node that each number stands for.
-/

namespace MethodCodec.Yaml

/-- A node of a document. Tags of collections are not kept. -/
inductive Node
  | scalar (tag : Option (List Char)) (style : ScalarStyle) (text : List Char)
  | sequence (items : List Node)
  | mapping (members : List (Node × Node))
  | reference (anchor : Nat)

namespace Node

/-- What stands where a node is left out. -/
def omitted : Node :=
  scalar none .plain []

end Node

/-! ## Taking tokens -/

/-- The tokens not yet taken, and what those taken have declared. -/
structure NodeSource where
  tokens : List Token
  /-- What the handles of tags stand for. -/
  handles : List (List Char × List Char)
  /-- The number that each anchor name goes by, latest first. -/
  names : List (List Char × Nat) := []
  /-- For anchor numbers the places of their nodes among all anchored nodes,
  latest first. -/
  places : List (Nat × Nat) := []
  /-- The anchored nodes that are complete, by place. -/
  nodes : List (Nat × Node) := []
  /-- How much has been read: one for a leaf, two for a collection. -/
  size : Nat := 0

/-- Reads something off tokens, or fails. -/
abbrev NodeReader := StateT NodeSource Option

namespace NodeReader

/-- The next token. -/
def peek : NodeReader (Option Token) := do
  return (← get).tokens.head?

/-- Passes the next token. -/
def drop : NodeReader Unit :=
  modify fun source => { source with tokens := source.tokens.drop 1 }

/-- Whether the next token is one of a list. -/
def sees (tokens : List Token) : NodeReader Bool := do
  match ← peek with
  | some token => return tokens.contains token
  | none => return false

/-- Takes a token if it comes next. -/
def takes (token : Token) : NodeReader Bool := do
  if ← sees [token] then
    drop
    return true
  else
    return false

/-- Takes a token that has to come next. -/
def expect (token : Token) : NodeReader Unit := do
  guard (← takes token)

/-- Adds to the size of what has been read. -/
def count (size : Nat) : NodeReader Unit :=
  modify fun source => { source with size := source.size + size }

def leaf (node : Node) : NodeReader Node := do
  count 1
  return node

def omitted : NodeReader Node :=
  leaf .omitted

/-! ## Anchors and tags -/

/-- The number of distinct names that anchors have. -/
def distinctNames (names : List (List Char × Nat)) : Nat :=
  (names.map Prod.fst).eraseDups.length

/-- Declares an anchor name and gives the place of its node. The name goes by
the number of distinct names before it, so a name declared again may share its
number with another one, and the later node counts. -/
def declareAnchor (name : List Char) : NodeReader Nat := do
  let source ← get
  let number := distinctNames source.names
  let place := source.places.length
  set { source with
    names := (name, number) :: source.names
    places := (number, place) :: source.places }
  return place

/-- Reads a node that an anchor may stand before. -/
def anchored (anchor : Option (List Char)) (read : NodeReader Node) : NodeReader Node := do
  match anchor with
  | none => read
  | some name =>
      let place ← declareAnchor name
      let node ← read
      modify fun source => { source with nodes := (place, node) :: source.nodes }
      return node

/-- An alias of an anchor that has been declared. -/
def readAlias (name : List Char) : NodeReader Node := do
  match (← get).names.lookup name with
  | some number => leaf (.reference number)
  | none => failure

/-- The tag that a handle and a suffix stand for. -/
def resolveTag (handle suffix : List Char) : NodeReader (List Char) := do
  if handle.isEmpty then
    return suffix
  else
    match (← get).handles.lookup handle with
    | some front => return front ++ suffix
    | none => failure

/-- What may stand before a node. -/
structure Properties where
  anchor : Option (List Char) := none
  tag : Option (List Char) := none

def readAnchor : NodeReader (Option (List Char)) := do
  match ← peek with
  | some (.anchor name) =>
      drop
      return some name
  | _ => return none

def readTag : NodeReader (Option (List Char)) := do
  match ← peek with
  | some (.tag handle suffix) =>
      drop
      return some (← resolveTag handle suffix)
  | _ => return none

/-- Reads an anchor and a tag in either order, each of which may be missing. -/
def readProperties : NodeReader Properties := do
  match ← readAnchor with
  | some anchor => return { anchor := some anchor, tag := ← readTag }
  | none =>
      let tag ← readTag
      if tag.isSome then return { anchor := ← readAnchor, tag } else return {}

/-- A scalar's tag as far as it says anything. -/
def scalarTag (tag : Option (List Char)) : Option (List Char) :=
  if tag = some ['!'] then none else tag

/-! ## Nodes

Each function reads on by one token at least before it calls another one
again, or fails, so a budget in proportion to the tokens is enough. -/

mutual

/-- Reads a node. Only where `block` holds may it be a block collection, and
only where `bare` holds a sequence that is not further in than the mapping
around it. -/
def readNode (block bare : Bool) : Nat → NodeReader Node
  | 0 => failure
  | budget + 1 => do
      match ← peek with
      | some (.reference name) =>
          drop
          readAlias name
      | _ =>
          let properties ← readProperties
          anchored properties.anchor do
            match ← peek with
            | some (.scalar style text) =>
                drop
                leaf (.scalar (scalarTag properties.tag) style text)
            | some .flowSequenceStart =>
                drop
                count 2
                return .sequence (← readFlowItems true budget)
            | some .flowMappingStart =>
                drop
                count 2
                return .mapping (← readFlowMembers true budget)
            | token =>
                if bare ∧ token = some .blockEntry then
                  count 2
                  return .sequence (← readBareItems budget)
                else if block ∧ token = some .blockSequenceStart then
                  drop
                  count 2
                  return .sequence (← readBlockItems budget)
                else if block ∧ token = some .blockMappingStart then
                  drop
                  count 2
                  return .mapping (← readBlockMembers budget)
                else if properties.anchor.isSome ∨ properties.tag.isSome then
                  leaf (.scalar properties.tag .plain [])
                else
                  failure

/-- Reads a node unless one of the given tokens shows that it is left out. -/
def readUnless (ends : List Token) (block bare : Bool) : Nat → NodeReader Node
  | 0 => failure
  | budget + 1 => do
      if ← sees ends then omitted else readNode block bare budget

/-- Reads the items of a block sequence to its end. -/
def readBlockItems : Nat → NodeReader (List Node)
  | 0 => failure
  | budget + 1 => do
      if ← takes .blockEntry then
        let item ← readUnless [.blockEntry, .blockEnd] true false budget
        return item :: (← readBlockItems budget)
      else
        expect .blockEnd
        return []

/-- Reads the items of a sequence that is not further in than the mapping
around it, and ends where no item follows. -/
def readBareItems : Nat → NodeReader (List Node)
  | 0 => failure
  | budget + 1 => do
      if ← takes .blockEntry then
        let item ← readUnless [.blockEntry, .key, .value, .blockEnd] true false budget
        return item :: (← readBareItems budget)
      else
        return []

/-- Reads the members of a block mapping to its end. -/
def readBlockMembers : Nat → NodeReader (List (Node × Node))
  | 0 => failure
  | budget + 1 => do
      if ← takes .key then
        let key ← readUnless [.key, .value, .blockEnd] true true budget
        let value ← readOptional [.key, .value, .blockEnd] true budget
        return (key, value) :: (← readBlockMembers budget)
      else
        expect .blockEnd
        return []

/-- Reads a colon and the node behind it, either of which may be left out. -/
def readOptional (ends : List Token) (block : Bool) : Nat → NodeReader Node
  | 0 => failure
  | budget + 1 => do
      if ← takes .value then readUnless ends block block budget else omitted

/-- Reads the items between brackets to the closing one. An item with a key is
a mapping of one member. -/
def readFlowItems (first : Bool) : Nat → NodeReader (List Node)
  | 0 => failure
  | budget + 1 => do
      if ← takes .flowSequenceEnd then
        return []
      else
        unless first do expect .flowEntry
        if ← takes .key then
          count 2
          let item ← readFlowPair budget
          return item :: (← readFlowItems false budget)
        else if ← takes .flowSequenceEnd then
          return []
        else
          let item ← readNode false false budget
          return item :: (← readFlowItems false budget)

/-- Reads a mapping of one member between brackets. Where the key is left out,
the token behind it is passed over. -/
def readFlowPair : Nat → NodeReader Node
  | 0 => failure
  | budget + 1 => do
      if ← sees [.value, .flowEntry, .flowSequenceEnd] then
        drop
        let key ← omitted
        let value ← readOptional [.flowEntry, .flowSequenceEnd] false budget
        return .mapping [(key, value)]
      else
        let key ← readNode false false budget
        let value ← readOptional [.flowEntry, .flowSequenceEnd] false budget
        return .mapping [(key, value)]

/-- Reads the members between braces to the closing one. A node without a key
mark is a key without a value. -/
def readFlowMembers (first : Bool) : Nat → NodeReader (List (Node × Node))
  | 0 => failure
  | budget + 1 => do
      if ← takes .flowMappingEnd then
        return []
      else
        unless first do expect .flowEntry
        if ← takes .key then
          let key ← readUnless [.value, .flowEntry, .flowMappingEnd] false false budget
          let value ← readOptional [.flowEntry, .flowMappingEnd] false budget
          return (key, value) :: (← readFlowMembers false budget)
        else if ← takes .flowMappingEnd then
          return []
        else
          let key ← readNode false false budget
          let value ← omitted
          return (key, value) :: (← readFlowMembers false budget)

end

end NodeReader

/-! ## Documents -/

/-- A document: its root, the nodes that anchor numbers stand for, and the
number of its nodes, where collections count twice. -/
structure Document where
  root : Node
  anchors : List (Nat × Node)
  size : Nat

namespace Document

/-- The document of a text that holds nothing. -/
def blank : Document where
  root := .omitted
  anchors := []
  size := 1

/-- The handles that every document knows. -/
def commonHandles : List (List Char × List Char) :=
  [(['!'], ['!']), (['!', '!'], "tag:yaml.org,2002:".toList)]

/-- Takes the directives at the start of a document and gives the handles that
they declare. The version is declared once at most, and so is each handle. -/
def readDirectives (versioned : Bool) (handles : List (List Char × List Char)) :
    List Token → Option (List (List Char × List Char) × List Token)
  | .versionDirective major minor :: rest =>
      if !versioned && major == 1 && (minor == 1 || minor == 2) then
        readDirectives true handles rest
      else none
  | .tagDirective handle front :: rest =>
      if (handles.lookup handle).isSome then none
      else readDirectives versioned ((handle, front) :: handles) rest
  | tokens => some (handles, tokens)

/-- Whether a document goes on without content. -/
def lacksContent : List Token → Bool
  | [] => true
  | .versionDirective .. :: _ | .tagDirective .. :: _ => true
  | .documentStart :: _ | .documentEnd :: _ => true
  | _ => false

/-- The document of tokens that follow its start. Nothing but markers of its
end may come behind it. -/
def ofContent? (handles : List (List Char × List Char)) (tokens : List Token) :
    Option Document :=
  let read : NodeReader Node :=
    if lacksContent tokens then NodeReader.omitted
    else NodeReader.readNode true false (4 * tokens.length + 16)
  match read.run { tokens, handles := handles ++ commonHandles } with
  | some (root, source) =>
      if source.tokens.all fun token => token == .documentEnd then
        some {
          root
          anchors := source.places.filterMap fun (number, place) =>
            (source.nodes.lookup place).map fun node => (number, node)
          size := source.size }
      else none
  | none => none

/-- The only document of a text. Its start is marked if directives stand
before it. -/
def ofTokens? (tokens : List Token) : Option Document :=
  match tokens with
  | [] => some blank
  | .documentEnd :: _ => none
  | _ =>
      match readDirectives false [] tokens with
      | some (handles, .documentStart :: rest) => ofContent? handles rest
      | some (handles, rest) =>
          if rest.length = tokens.length then ofContent? handles rest else none
      | none => none

def ofText? (text : String) : Option Document :=
  (Token.scan text.toList).bind ofTokens?

end Document

end MethodCodec.Yaml
