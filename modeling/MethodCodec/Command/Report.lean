import MethodCodec.Text.Numeral

/-!
What a command leaves behind: its two outputs and an exit code. A failure is
told with its causes, nearest first.
-/

namespace MethodCodec

/-- The outcome of a command. -/
structure Report where
  output : String := ""
  /-- Messages about the run, apart from its output. -/
  messages : String := ""
  exitCode : UInt8 := 0
  deriving DecidableEq

/-- Why a command fails. -/
structure Failure where
  message : String
  causes : List String := []
  deriving DecidableEq

namespace Failure

/-- Puts a message in front of a failure, which becomes its cause. -/
def within (message : String) (failure : Failure) : Failure where
  message := message
  causes := failure.message :: failure.causes

/-- A text whose later lines are set in by a number of columns. -/
def setIn (width : Nat) (text : String) : String :=
  String.ofList (text.toList.flatMap fun c =>
    if c = '\n' then '\n' :: List.replicate width ' ' else [c])

/-- The number of a cause, at the right of five columns. -/
def ordinal (number : Nat) : String :=
  let digits := Text.numeral 10 number
  String.ofList (List.replicate (5 - digits.length) ' ' ++ digits)

/-- Causes with their numbers. -/
def numberedCauses (number : Nat) : List String → String
  | [] => ""
  | cause :: rest =>
      "\n" ++ ordinal number ++ ": " ++ setIn 7 cause ++ numberedCauses (number + 1) rest

/-- The causes below a message; a single one has no number. -/
def causesText : List String → String
  | [] => ""
  | [cause] => "\n\nCaused by:\n    " ++ setIn 4 cause
  | causes => "\n\nCaused by:" ++ numberedCauses 0 causes

/-- A failure and its causes as they are shown. -/
def text (failure : Failure) : String :=
  "Error: " ++ failure.message ++ causesText failure.causes ++ "\n"

end Failure

namespace Report

/-- A failed run after the given output and messages. -/
def failed (failure : Failure) (output messages : String) : Report where
  output := output
  messages := messages ++ failure.text
  exitCode := 1

/-- A run that fails before it says anything else. -/
def ofFailure (failure : Failure) : Report :=
  failed failure "" ""

end Report

end MethodCodec
