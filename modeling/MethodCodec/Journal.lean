import MethodCodec.Text.Numeral
import MethodCodec.Wire.Type

/-!
The events that resolving a document and generating source leave behind, and
computations that carry them. The events of a computation that fails are those
up to the failure.
-/

namespace MethodCodec

/-! ## Events -/

/-- How much an event matters. -/
inductive Level
  | debug
  | info
  | warn
  deriving DecidableEq

/-- Something worth telling about a run. -/
inductive Event
  | domainResolved (domain : String) (type : WireType)
  | classOpened (name : String) (id : UInt16)
  | classEmpty (name : String)
  | methodResolved (className name : String) (id : UInt16) (fields nodes : Nat)
  | protocolResolved (domains classes methods : Nat)
  | classEmitted (name : String) (methods : Nat)
  | sourceGenerated (classes methods bytes : Nat)
  deriving DecidableEq

namespace Event

/-- Progress in detail is for debugging, results are information, and only a class
without methods is a warning. -/
def level : Event → Level
  | domainResolved .. | classOpened .. | methodResolved .. | classEmitted .. => .debug
  | protocolResolved .. | sourceGenerated .. => .info
  | classEmpty .. => .warn

/-- The wording of an event. -/
def message : Event → String
  | domainResolved domain type => "domain " ++ domain ++ " -> " ++ type.spelling
  | classOpened name id => "class " ++ name ++ " (" ++ Text.decimal id.toNat ++ ")"
  | classEmpty name => "class `" ++ name ++ "` declares no methods"
  | methodResolved className name id fields nodes =>
      "method " ++ className ++ "." ++ name ++ " (" ++ Text.decimal id.toNat ++ "): "
        ++ Text.decimal fields ++ " fields, " ++ Text.decimal nodes ++ " layout nodes"
  | protocolResolved domains classes methods =>
      "resolved " ++ Text.decimal domains ++ " domains, " ++ Text.decimal classes
        ++ " classes, " ++ Text.decimal methods ++ " methods"
  | classEmitted name methods =>
      "emitting class " ++ name ++ " (" ++ Text.decimal methods ++ " methods)"
  | sourceGenerated classes methods bytes =>
      "generated " ++ Text.decimal classes ++ " classes, " ++ Text.decimal methods
        ++ " methods (" ++ Text.decimal bytes ++ " bytes)"

end Event

/-! ## Computations with events -/

/-- The events of a computation and how it ended. -/
structure Traced (ε α : Type) where
  events : List Event
  outcome : Except ε α

namespace Traced

/-- Ends with a value and no event. -/
def done {ε α : Type} (value : α) : Traced ε α where
  events := []
  outcome := .ok value

/-- Ends in failure and leaves no event. -/
def fail {ε α : Type} (error : ε) : Traced ε α where
  events := []
  outcome := .error error

/-- Leaves one event. -/
def note {ε : Type} (event : Event) : Traced ε Unit where
  events := [event]
  outcome := .ok ()

/-- Goes on with the value of a computation, unless it failed. -/
def andThen {ε α β : Type} (run : Traced ε α) (next : α → Traced ε β) : Traced ε β :=
  match run.outcome with
  | .ok value =>
      match next value with
      | ⟨events, outcome⟩ => ⟨run.events ++ events, outcome⟩
  | .error error => ⟨run.events, .error error⟩

/-- Takes over an answer that left no events. -/
def ofExcept {ε α : Type} (outcome : Except ε α) : Traced ε α where
  events := []
  outcome := outcome

/-- Sees a failure as one of another kind. -/
def mapError {ε δ α : Type} (change : ε → δ) (run : Traced ε α) : Traced δ α where
  events := run.events
  outcome := run.outcome.mapError change

instance {ε : Type} : Monad (Traced ε) where
  pure := done
  bind := andThen

end Traced

end MethodCodec
