/-!
The closed set of value kinds that a method argument can have, with the
spelling that protocol documents use for each.
-/

namespace MethodCodec

/-- The kinds of value that travel in a method payload. -/
inductive WireType
  | octet
  | short
  | long
  | longLong
  | bit
  | shortString
  | longString
  | table
  | timestamp
  deriving DecidableEq

namespace WireType

/-- Every kind once, in the order in which kinds are listed to a reader. -/
def all : List WireType :=
  [octet, short, long, longLong, bit, shortString, longString, table, timestamp]

/-- The word that a protocol document writes for a kind. -/
def spelling : WireType → String
  | octet => "octet"
  | short => "short"
  | long => "long"
  | longLong => "longlong"
  | bit => "bit"
  | shortString => "shortstr"
  | longString => "longstr"
  | table => "table"
  | timestamp => "timestamp"

/-- The kind that is written `word`; spellings are case-sensitive. -/
def ofSpelling? (word : String) : Option WireType :=
  all.find? fun kind => kind.spelling == word

/-- Flags are the one kind that shares bytes with its neighbours. -/
def isFlag : WireType → Bool
  | bit => true
  | _ => false

/-- Encoded width in bytes, for the kinds whose width does not depend on the
value and is a whole number of bytes. -/
def width? : WireType → Option Nat
  | octet => some 1
  | short => some 2
  | long => some 4
  | longLong | timestamp => some 8
  | bit | shortString | longString | table => none

theorem spelling_injective {left right : WireType}
    (equality : left.spelling = right.spelling) : left = right := by
  cases left <;> cases right <;> simp [spelling] at equality ⊢

@[simp]
theorem ofSpelling?_spelling (kind : WireType) :
    ofSpelling? kind.spelling = some kind := by
  cases kind <;> simp [ofSpelling?, all, spelling]

end WireType

end MethodCodec
