import MethodCodec.Text.Utf8

/-!
The files that a command can reach, through the few operations it needs.
-/

namespace MethodCodec

/-- Why an operation on files fails. -/
inductive FileFault
  | missing
  /-- There is something already. -/
  | taken
  | notFolder
  | isFolder
  /-- The content of a file is not a text. -/
  | notText
  /-- A name or a whole path has too many bytes. -/
  | tooLong
  /-- A path with a null character in it. -/
  | nullCharacter
  /-- Something else, in words. -/
  | other (reason : String)
  deriving DecidableEq

/-- The wording of a fault. -/
def FileFault.message : FileFault → String
  | missing => "No such file or directory (os error 2)"
  | taken => "File exists (os error 17)"
  | notFolder => "Not a directory (os error 20)"
  | isFolder => "Is a directory (os error 21)"
  | notText => "stream did not contain valid UTF-8"
  | tooLong => "File name too long (os error 36)"
  | nullCharacter => "file name contained an unexpected NUL byte"
  | other reason => reason

/-- The operations on files, each with its effect in `m`. -/
structure Workspace (m : Type → Type) where
  /-- Whether there is a file or a folder at a path. -/
  holds : (path : String) → m Bool
  readBytes : (path : String) → m (Except FileFault (List UInt8))
  /-- Makes a folder and those that it is in, as far as they are missing. Those
  made before something goes wrong stay. -/
  makeFolders : (path : String) → m (Except FileFault Unit)
  /-- Makes a file with the given content, in place of the one that is there. -/
  writeBytes : (path : String) → List UInt8 → m (Except FileFault Unit)

namespace Workspace

variable {m : Type → Type} [Monad m] (workspace : Workspace m)

/-- The content of a file as text. -/
def readText (path : String) : m (Except FileFault String) := do
  match ← workspace.readBytes path with
  | .error fault => return .error fault
  | .ok bytes =>
      match Utf8.decode? bytes with
      | some text => return .ok (String.ofList text)
      | none => return .error .notText

def writeText (path text : String) : m (Except FileFault Unit) :=
  workspace.writeBytes path (Utf8.bytes text)

end Workspace

end MethodCodec
