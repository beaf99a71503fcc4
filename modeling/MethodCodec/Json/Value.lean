import MethodCodec.Json.Token

/-!
JSON texts as trees. A text that goes wrong still has a tree: everything up to
the failing place, and a gap there. Containers that the gap lies in remember it,
so that skipping them finds it without looking inside.
-/

namespace MethodCodec.Json

/-- A value, as far as the text has it. -/
inductive Value
  | null
  | bool (value : Bool)
  /-- A number; `none` if it is out of the range of doubles. -/
  | number (value : Option Number)
  /-- A text; `none` if it holds half of a surrogate pair. -/
  | text (value : Option String)
  /-- Items, and the gap if the array is not closed. -/
  | array (items : List Value) (gap : Option Gap)
  /-- Members in the order of the text, and the gap if the object is not
  closed. -/
  | object (members : List (Option String × Value)) (gap : Option Gap)
  /-- The place where the text fails. -/
  | absent (gap : Gap)

namespace Value

/-- How a value fails one who skips it. -/
def skipLapse? : Value → Option Lapse
  | absent gap => some gap.skip
  | array _ (some gap) => some gap.skip
  | object _ (some gap) => some gap.skip
  | _ => none

/-! ## Building trees -/

/-- A container that is open, with what it holds so far, latest first. -/
inductive Frame
  | array (items : List Value)
  /-- An object whose latest key waits for its value. -/
  | object (members : List (Option String × Value)) (key : Option String)

/-- What the next token has to be. -/
inductive Expectation
  | value
  /-- The first item of an array, or its end. -/
  | firstItem
  /-- A comma or the end of the container that is open. -/
  | separator
  /-- The first key of an object, or its end. -/
  | firstKey
  | key (members : List (Option String × Value))
  | colon (members : List (Option String × Value)) (key : Option String)

/-- Puts a value into the container that waits for it. -/
def Frame.put (value : Value) : Frame → Frame
  | .array items => .array (value :: items)
  | .object members key => .object ((key, value) :: members) none

/-- The container as a value. -/
def Frame.close (gap : Option Gap) : Frame → Value
  | .array items => Value.array items.reverse gap
  | .object members _ => Value.object members.reverse gap

/-- Ends all open containers at a gap. -/
def abandon (gap : Gap) (value : Value) : List Frame → Value
  | [] => value
  | frame :: frames => abandon gap ((frame.put value).close (some gap)) frames

/-- Where building a tree has got to. -/
inductive Progress
  /-- The tokens have to go on as expected, inside the open containers. -/
  | pending (expectation : Expectation) (frames : List Frame)
  | finished (value : Value)
  /-- A gap was met; nothing behind it counts. -/
  | failed (value : Value)

/-- Ends at a gap where a value should stand. -/
def missing (gap : Gap) (frames : List Frame) : Value :=
  abandon gap (.absent gap) frames

/-- Ends at a gap where the innermost container should go on or end. -/
def unclosed (gap : Gap) (container : Frame) (frames : List Frame) : Value :=
  abandon gap (container.close (some gap)) frames

/-- Goes on behind a value: it is the answer, or belongs to an open
container. -/
def complete (value : Value) : List Frame → Progress
  | [] => .finished value
  | frame :: frames => .pending .separator (frame.put value :: frames)

/-- Takes up the token with which a value begins. -/
def beginValue (frames : List Frame) : Token → Progress
  | .null => complete .null frames
  | .bool value => complete (.bool value) frames
  | .number value => complete (.number value) frames
  | .text value => complete (.text value) frames
  | .openBracket => .pending .firstItem frames
  | .openBrace => .pending .firstKey frames
  | .broken _ gap => .failed (missing gap frames)
  | _ => .failed (missing (.both .malformed) frames)

/-- Takes up a key; other tokens do not go on an object with these members. -/
def beginMember (members : List (Option String × Value)) (frames : List Frame) :
    Token → Progress
  | .text key => .pending (.colon members key) frames
  | .broken true gap => .failed (unclosed gap (.object members none) frames)
  | _ => .failed (unclosed (.both .malformed) (.object members none) frames)

/-- Takes up a token behind a value. -/
def separate (token : Token) : List Frame → Progress
  | [] => .failed (.absent (.both .malformed))
  | frame :: frames =>
      match token, frame with
      | .comma, .array items => .pending .value (.array items :: frames)
      | .comma, .object members _ => .pending (.key members) frames
      | .closeBracket, .array items => complete (.array items.reverse none) frames
      | .closeBrace, .object members _ => complete (.object members.reverse none) frames
      | _, frame => .failed (unclosed (.both .malformed) frame frames)

/-- Takes up one token. -/
def advance (expectation : Expectation) (frames : List Frame) (token : Token) : Progress :=
  match expectation with
  | .value => beginValue frames token
  | .firstItem =>
      match token with
      | .closeBracket => complete (.array [] none) frames
      | token => beginValue (.array [] :: frames) token
  | .separator => separate token frames
  | .firstKey =>
      match token with
      | .closeBrace => complete (.object [] none) frames
      | token => beginMember [] frames token
  | .key members => beginMember members frames token
  | .colon members key =>
      match token with
      | .colon => .pending .value (.object members key :: frames)
      | _ => .failed (missing (.both .malformed) (.object members key :: frames))

/-- The tree of a text that ends too early. -/
def runOut (expectation : Expectation) (frames : List Frame) : Value :=
  let gap := Gap.both .unfinished
  match expectation, frames with
  | .value, frames => missing gap frames
  | .firstItem, frames => unclosed gap (.array []) frames
  | .separator, frame :: frames => unclosed gap frame frames
  | .separator, [] => .absent gap
  | .firstKey, frames => unclosed gap (.object [] none) frames
  | .key members, frames => unclosed gap (.object members none) frames
  | .colon members key, frames => missing gap (.object members key :: frames)

/-- Builds a value from tokens, and gives the tokens after it. -/
def build (expectation : Expectation) (frames : List Frame) :
    List Token → Value × List Token
  | [] => (runOut expectation frames, [])
  | token :: rest =>
      match advance expectation frames token with
      | .pending expectation frames => build expectation frames rest
      | .finished value => (value, rest)
      | .failed value => (value, [])

end Value

/-- A value and whether the text goes on behind it. -/
structure Document where
  value : Value
  trailing : Bool

/-- The tree of a text. -/
def Document.ofText (input : List Char) : Document :=
  match Value.build .value [] (Token.scan input) with
  | (value, rest) => ⟨value, !rest.isEmpty⟩

end MethodCodec.Json
