import MethodCodec.Json.Value
import MethodCodec.Spec.Format
import MethodCodec.Text.Quoted

/-!
Reading records off JSON trees. The first problem in the order of the text is
the one that is reported, so a value of the wrong kind can be found before a
gap, and a field is missing only once its object is closed.
-/

namespace MethodCodec.Json

/-! ## Problems -/

/-- A value that a reader did not expect. -/
inductive Found
  | null
  | bool (value : Bool)
  | number (value : Number)
  | text (value : String)
  | array
  | object

/-- How a text that is right so far fails to be what is read off it. -/
inductive Fault
  | missingField (key : String)
  | repeatedField (key : String)
  | invalidType (found : Found) (expected : String)
  | invalidValue (found : Found) (expected : String)
  | invalidLength (length : Nat) (expected : String)

/-- Why nothing can be read off a text. -/
inductive Problem
  | data (fault : Fault)
  | lapse (lapse : Lapse)

/-- A number as messages name it. -/
def Number.describe : Number → String
  | .natural value => "integer `" ++ Text.decimal value ++ "`"
  | .negative value => "integer `-" ++ Text.decimal value ++ "`"
  | .real value =>
      "floating point `" ++ String.ofList (realLayout.doubleText value) ++ "`"

/-- A value as messages name it. -/
def Found.describe : Found → String
  | .null => "null"
  | .bool value => if value then "boolean `true`" else "boolean `false`"
  | .number value => value.describe
  | .text value => "string " ++ Text.quote value
  | .array => "sequence"
  | .object => "map"

/-- The wording of a fault. -/
def Fault.message : Fault → String
  | .missingField key => "missing field `" ++ key ++ "`"
  | .repeatedField key => "duplicate field `" ++ key ++ "`"
  | .invalidType found expected => "invalid type: " ++ found.describe ++ ", expected " ++ expected
  | .invalidValue found expected =>
      "invalid value: " ++ found.describe ++ ", expected " ++ expected
  | .invalidLength length expected =>
      "invalid length " ++ Text.decimal length ++ ", expected " ++ expected

/-! ## Values -/

/-- What a reader gives. -/
abbrev Reading := Except Problem

/-- Fails because of a value of the wrong kind, or of what is wrong with the
value itself. -/
def unexpected {α : Type} (expected : String) : Value → Reading α
  | .null => .error (.data (.invalidType .null expected))
  | .bool value => .error (.data (.invalidType (.bool value) expected))
  | .number (some value) => .error (.data (.invalidType (.number value) expected))
  | .number none => .error (.lapse .malformed)
  | .text (some value) => .error (.data (.invalidType (.text value) expected))
  | .text none => .error (.lapse .malformed)
  | .array _ _ => .error (.data (.invalidType .array expected))
  | .object _ _ => .error (.data (.invalidType .object expected))
  | .absent gap => .error (.lapse gap.read)

/-- Reads a text. -/
def readText : Value → Reading String
  | .text (some value) => .ok value
  | value => unexpected "a string" value

/-- Reads a flag. -/
def readFlag : Value → Reading Bool
  | .bool value => .ok value
  | value => unexpected "a boolean" value

/-- Reads a whole number up to a limit. A negative number has the right type, but no
value of it. -/
def readNatural (typeName : String) (limit : Nat) : Value → Reading Nat
  | .number (some (.natural number)) =>
      if number ≤ limit then .ok number
      else .error (.data (.invalidValue (.number (.natural number)) typeName))
  | .number (some (.negative number)) =>
      .error (.data (.invalidValue (.number (.negative number)) typeName))
  | value => unexpected typeName value

/-- Reads a value where there may be none, which is written as null. -/
def readOptional {α : Type} (read : Value → Reading α) : Value → Reading (Option α)
  | .null => .ok none
  | value => (read value).map some

/-- Fails if a container is not closed. -/
def readEnd : Option Gap → Reading Unit
  | none => .ok ()
  | some gap => .error (.lapse gap.read)

/-- Reads the items of an array. -/
def readList {α : Type} (read : Value → Reading α) : Value → Reading (List α)
  | .array items gap => do
      let items ← items.mapM read
      readEnd gap
      return items
  | value => unexpected "a sequence" value

/-- What a reader of pairs expects. -/
def pairExpected : String := "a tuple of size 2"

/-- Reads an array of two items. -/
def readPair {α β : Type} (readFirst : Value → Reading α) (readSecond : Value → Reading β) :
    Value → Reading (α × β)
  | .array items gap =>
      match items with
      | [] => do
          readEnd gap
          .error (.data (.invalidLength 0 pairExpected))
      | first :: rest => do
          let first ← readFirst first
          match rest with
          | [] =>
              readEnd gap
              .error (.data (.invalidLength 1 pairExpected))
          | second :: rest =>
              let second ← readSecond second
              match rest with
              | [] =>
                  readEnd gap
                  return (first, second)
              | _ => .error (.lapse .malformed)
  | value => unexpected pairExpected value

/-! ## Records -/

/-- Skips a value that no field asks for. -/
def skip (value : Value) : Reading Unit :=
  match value.skipLapse? with
  | some lapse => .error (.lapse lapse)
  | none => .ok ()

/-- Takes up a member of an object. Members that no slot has the key of are
skipped, even repeated ones. -/
def fillMember {δ : Type} (slots : List (Slot Value Reading δ)) (draft : δ) :
    Option String × Value → Reading δ
  | (none, _) => .error (.lapse .malformed)
  | (some key, value) =>
      match slots.find? fun slot => slot.key == key with
      | none => do
          skip value
          return draft
      | some slot =>
          if slot.isFilled draft then .error (.data (.repeatedField key))
          else slot.fill value draft

/-- The record of a draft, if no required field is open. -/
def finishRecord {δ α : Type} (finish : δ → Except String α) (draft : δ) : Reading α :=
  match finish draft with
  | .ok record => .ok record
  | .error key => .error (.data (.missingField key))

/-- Fills slots in turn from the items of an array; `index` slots are filled
already. Slots at the end need no item unless they are required. -/
def fillInTurn {δ : Type} (expected : String) (gap : Option Gap) (index : Nat) (draft : δ) :
    List (Slot Value Reading δ) → List Value → Reading δ
  | [], [] => do
      readEnd gap
      return draft
  | [], _ :: _ => .error (.lapse .malformed)
  | slot :: slots, [] => do
      readEnd gap
      if slot.required then .error (.data (.invalidLength index expected))
      else fillInTurn expected gap (index + 1) draft slots []
  | slot :: slots, item :: items => do
      let draft ← slot.fill item draft
      fillInTurn expected gap (index + 1) draft slots items

/-- A record is written as an object, or as an array of its fields in the order
of the slots. -/
def readRecord {δ α : Type} (name : String) (slots : List (Slot Value Reading δ)) (start : δ)
    (finish : δ → Except String α) : Value → Reading α
  | .object members gap => do
      let draft ← members.foldlM (fillMember slots) start
      readEnd gap
      finishRecord finish draft
  | .array items gap => do
      let expected :=
        "struct " ++ name ++ " with " ++ Text.decimal slots.length ++ " elements"
      let draft ← fillInTurn expected gap 0 start slots items
      finishRecord finish draft
  | value => unexpected ("struct " ++ name) value

/-- JSON as a document format. -/
def format : Format Value Reading where
  text := readText
  flag := readFlag
  natural := readNatural
  optional := readOptional
  list := readList
  pair := readPair
  record := readRecord

/-! ## Documents -/

/-- Reads a whole document; nothing but white space may follow the value. -/
def Document.read {α : Type} (read : Value → Reading α) (document : Document) : Reading α := do
  let answer ← read document.value
  if document.trailing then .error (.lapse .malformed) else return answer

/-- The content of a protocol document. -/
def specOfText (input : String) : Reading Spec :=
  (Document.ofText input.toList).read format.spec

end MethodCodec.Json
