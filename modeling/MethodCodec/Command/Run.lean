import MethodCodec.Command.Arguments
import MethodCodec.Command.Report
import MethodCodec.Outline.Json
import MethodCodec.Outline.Yaml
import MethodCodec.Protocol.Outline
import MethodCodec.Source.File
import MethodCodec.Spec.Document
import MethodCodec.Wire.Codec
import MethodCodec.Wire.Payload
import MethodCodec.Workspace.Basic
import MethodCodec.Workspace.Path
import MethodCodec.Workspace.Settings

/-!
What each command does. A command reads what it needs, works out its report,
and only then writes.
-/

namespace MethodCodec

/-- The version of this program. -/
def programVersion : String := "amqpgen 0.3.0"

/-! ## Failures -/

/-- A file fault has no cause of its own. -/
def FileFault.failure (fault : FileFault) : Failure where
  message := fault.message

/-- Behind the failure to read a JSON text stands the problem in it. -/
def DocumentFault.failure (fault : DocumentFault) : Failure where
  message := fault.message
  causes :=
    match fault with
    | .json problem => [problem.message]
    | .yaml => []
    | .violates _ => []

/-- Behind the failure to resolve stands the rule that the document breaks or the
fault of a type, if it is one of these. -/
def ResolutionFault.failure (fault : ResolutionFault) : Failure where
  message := fault.message
  causes :=
    match fault with
    | .violates violation => [malformedPrefix ++ violation.message]
    | .unresolved reason => [reason.message]
    | .untyped .. | .collides _ => []

/-- A generation fails for the reasons of a resolution or on its own. -/
def GenerationFault.failure : GenerationFault → Failure
  | .unresolved fault => fault.failure
  | .misplanned fault => { message := (GenerationFault.misplanned fault).message }

/-- A codec fault has no cause of its own. -/
def CodecFault.failure (fault : CodecFault) : Failure where
  message := fault.message

/-- A fault of digits has no cause of its own. -/
def Hex.Fault.failure (fault : Hex.Fault) : Failure where
  message := fault.message

namespace Command

/-! ## From content to reports -/

/-- The protocol of the document at a path. -/
def resolveAt (path : String) (spec : Spec) : Except Failure Protocol :=
  spec.resolve.outcome.mapError fun fault => fault.failure.within ("failed to resolve " ++ path)

/-- The protocol of the document at a path and the source of it. -/
def generateAt (path : String) (settings : SourceSettings) (spec : Spec) :
    Except Failure (Protocol × String) := do
  let protocol ← resolveAt path spec
  let text ← (protocol.generate settings).outcome.mapError GenerationFault.failure
  return (protocol, text)

/-- A line of messages. -/
def line (text : String) : String :=
  text ++ "\n"

/-- What a document calls itself, or its path if it has no name. -/
def label (path : String) (spec : Spec) : String :=
  match spec.name, spec.version? with
  | some name, some numbers => name ++ " " ++ versionText numbers
  | some name, none => name
  | none, _ => path

/-- The runs of flags in all layouts of a protocol. -/
def flagRunCount (protocol : Protocol) : Nat :=
  let layouts := protocol.classes.flatMap fun cls => cls.methods.flatMap Method.layout
  layouts.countP fun node =>
    match node with
    | .flags _ => true
    | .field _ => false

/-- The report on a document that can be read: it is told of before it is
resolved. -/
def validateReport (path : String) (spec : Spec) : Report :=
  let told :=
    line ("Valid protocol spec: " ++ label path spec)
      ++ line ("  Domains: " ++ Text.decimal spec.domains.length)
      ++ line ("  Classes: " ++ Text.decimal spec.classes.length)
  match spec.resolve.outcome with
  | .error fault => .failed fault.failure "" told
  | .ok protocol =>
      { messages :=
          told
            ++ line ("  Methods: " ++ Text.decimal protocol.methods.length)
            ++ line ("  Bit groups: " ++ Text.decimal (flagRunCount protocol))
            ++ line "Validation successful." }

/-- The lines of an outline in a format. -/
def outlineLines (outline : Outline) : DataFormat → String
  | .json => line outline.toJson
  | .yaml => outline.toYaml

/-- The protocol of a document, shown in a format. -/
def inspectReport (path : String) (format : DataFormat) (spec : Spec) : Report :=
  match resolveAt path spec with
  | .error failure => .ofFailure failure
  | .ok protocol =>
      match protocol.outline with
      | .error fault => .ofFailure { message := fault.message }
      | .ok outline => { output := outlineLines outline format }

/-- A line for each argument of a method with its value. -/
def valueLines (fields : List Field) (values : List Value) : String :=
  String.join ((fields.zip values).map fun (field, value) =>
    line ("  " ++ field.name.written ++ " (" ++ field.type.spelling ++ ") = " ++ value.display))

/-- The values that a payload carries. The payload is looked at before the method
is looked up, and the name of a pair without a method is told all the same. -/
def decodeReport (path : String) (classId methodId : UInt16) (payload : String) (spec : Spec) :
    Report :=
  match resolveAt path spec with
  | .error failure => .ofFailure failure
  | .ok protocol =>
      match Payload.read payload with
      | .error fault => .ofFailure (fault.failure.within Payload.invalidMessage)
      | .ok bytes =>
          let name := protocol.nameOf classId methodId
          match protocol.readFrame classId methodId bytes with
          | .error fault => .ofFailure (fault.failure.within ("failed to decode " ++ name))
          | .ok none =>
              .failed
                { message :=
                    "no method declared for class " ++ Text.decimal classId.toNat ++ ", method "
                      ++ Text.decimal methodId.toNat }
                (line name) ""
          | .ok (some (method, values)) =>
              { output := line method.qualifiedName ++ valueLines method.fields values }

/-! ## Reading and writing -/

section

variable {m : Type → Type} [Monad m] (workspace : Workspace m)

/-- Reads the document at a path. -/
def openSpec (path : String) : m (Except Failure Spec) := do
  match ← workspace.readText path with
  | .error fault => return .error (fault.failure.within ("failed to read " ++ path))
  | .ok text => return (Spec.read (Path.dataFormat path) text).mapError DocumentFault.failure

/-- A report on the document at a path, or on why it cannot be read. -/
def reportOn (path : String) (report : Spec → Report) : m Report := do
  match ← openSpec workspace path with
  | .error failure => return .ofFailure failure
  | .ok spec => return report spec

/-- Reads the settings of the project; without a settings file all are as they
are by default. -/
def readSettings : m (Except Failure ProjectSettings) := do
  if ← workspace.holds settingsFile then
    match ← workspace.readText settingsFile with
    | .error fault =>
        return .error
          { message := "failed to read config " ++ settingsFile ++ ": " ++ fault.message }
    | .ok text =>
        match ProjectSettings.read? text with
        | some settings => return .ok settings
        | none =>
            return .error
              { message := "failed to parse config " ++ settingsFile ++ ": not settings" }
  else
    return .ok {}

/-- Makes the folder that a file is to be in. -/
def makeFolderFor (path : String) : m (Except Failure Unit) := do
  match Path.parent? path with
  | none | some "" => return .ok ()
  | some parent =>
      return (← workspace.makeFolders parent).mapError fun fault =>
        fault.failure.within ("failed to create directory " ++ parent)

/-- Writes a file, in a folder that is made if it is missing. -/
def save (path text : String) : m (Except Failure Unit) := do
  match ← makeFolderFor workspace path with
  | .error failure => return .error failure
  | .ok _ =>
      return (← workspace.writeText path text).mapError fun fault =>
        fault.failure.within ("failed to write " ++ path)

/-- The message on a source that has been written. -/
def generatedMessage (protocol : Protocol) (path : String) : String :=
  line ("Generated " ++ Text.decimal protocol.classes.length ++ " classes, "
    ++ Text.decimal protocol.methods.length ++ " methods → " ++ path)

/-- Prints the source of a protocol or writes it to a path. -/
def deliver (output : Option String) (protocol : Protocol) (text : String) : m Report := do
  match output with
  | none => return { output := text }
  | some path =>
      match ← save workspace path text with
      | .error failure => return .ofFailure failure
      | .ok _ => return { messages := generatedMessage protocol path }

/-- Generates source. Paths given with the command go before those of the settings. -/
def runGenerate (input output : Option String) : m Report := do
  match ← readSettings workspace with
  | .error failure => return .ofFailure failure
  | .ok settings =>
      let path := input.getD settings.input
      match ← openSpec workspace path with
      | .error failure => return .ofFailure failure
      | .ok spec =>
          match generateAt path settings.source spec with
          | .error failure => return .ofFailure failure
          | .ok (protocol, text) => deliver workspace (output <|> settings.output) protocol text

/-- Starts a project. A settings file that is there is kept unless told otherwise. -/
def runInit (force : Bool) : m Report := do
  let started ← workspace.holds settingsFile
  if started && !force then
    return .ofFailure
      { message := settingsFile ++ " already exists. Use --force to overwrite." }
  else
    match ← workspace.writeText settingsFile initialSettings with
    | .error fault => return .ofFailure fault.failure
    | .ok _ => return { messages := line ("Created " ++ settingsFile) }

/-- Carries out a command. -/
def run : Command → m Report
  | .generate input output => runGenerate workspace input output
  | .validate input => reportOn workspace input (validateReport input)
  | .inspect input format => reportOn workspace input (inspectReport input format)
  | .decode input classId methodId payload =>
      reportOn workspace input (decodeReport input classId methodId payload)
  | .init force => runInit workspace force
  | .version => return { output := line programVersion }

/-- The report on arguments that spell no command. -/
def usageReport : Report where
  messages := line "Usage: amqpgen <generate|validate|inspect|decode|init> [OPTIONS]"
  exitCode := 2

/-- Carries out the command that arguments spell. -/
def runArguments (arguments : List String) : m Report :=
  match Command.ofArguments? arguments with
  | some command => run workspace command
  | none => return usageReport

end

end Command

end MethodCodec
