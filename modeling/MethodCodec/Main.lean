import MethodCodec.Command.Run

/-!
The program: its arguments name a command, which works on the files around it.
-/

namespace MethodCodec

/-- What a failed operation on real files comes to. -/
def faultOf : IO.Error → FileFault
  | .noFileOrDirectory .. => .missing
  | .alreadyExists .. => .taken
  | .inappropriateType .. => .isFolder
  | error => .other (toString error)

/-- The answer of an operation on real files. -/
def attempt {α : Type} (operation : IO α) : IO (Except FileFault α) := do
  try
    return .ok (← operation)
  catch error =>
    return .error (faultOf error)

/-- The directory that the program runs in. -/
def currentDirectory : Workspace IO where
  holds := fun path => do
    match ← attempt (IO.FS.realPath path) with
    | .ok _ => return true
    | .error _ => return false
  readBytes := fun path => attempt do
    return (← IO.FS.readBinFile path).toList
  makeFolders := fun path => attempt (IO.FS.createDirAll path)
  writeBytes := fun path content => attempt (IO.FS.writeBinFile path ⟨content.toArray⟩)

end MethodCodec

/-- Prints the report of a command and exits with its code. -/
def main (arguments : List String) : IO UInt32 := do
  let report ← MethodCodec.Command.runArguments MethodCodec.currentDirectory arguments
  (← IO.getStdout).putStr report.output
  (← IO.getStderr).putStr report.messages
  return report.exitCode.toUInt32
