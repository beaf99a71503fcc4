import MethodCodec.Source.Settings
import MethodCodec.Yaml.Format

/-!
The settings of a project, which a file in its directory may give.
-/

namespace MethodCodec

/-- What a project generates from, and where to. -/
structure ProjectSettings where
  /-- The path of the document. -/
  input : String := "amqp0-9-1.json"
  /-- The path of the generated source; without one it is printed. -/
  output : Option String := none
  source : SourceSettings := {}
  deriving DecidableEq

/-- The file that holds the settings. -/
def settingsFile : String := ".amqpgen.yaml"

/-- The settings file that a new project starts with. -/
def initialSettings : String :=
  "# amqpgen configuration\n"
    ++ "input: amqp0-9-1.json\n"
    ++ "# output: src/protocol.rs   # omit to print to stdout\n"
    ++ "\n"
    ++ "rust:\n"
    ++ "  table_module: crate::table   # must export Table, decode_table, encode_table\n"
    ++ "  table_type: Table\n"
    ++ "  derives: [Debug, Clone, PartialEq]\n"
    ++ "  header: true\n"

/-! ## Reading -/

/-- The source settings that have been met. -/
structure SourceSettingsDraft where
  tableModule : Option String := none
  tableType : Option String := none
  derives : Option (List String) := none
  header : Option Bool := none

/-- What a draft leaves open is as it is by default. -/
def SourceSettingsDraft.finish (draft : SourceSettingsDraft) : Except String SourceSettings :=
  let byDefault : SourceSettings := {}
  .ok {
    tableModule := draft.tableModule.getD byDefault.tableModule
    tableType := draft.tableType.getD byDefault.tableType
    derives := draft.derives.getD byDefault.derives
    header := draft.header.getD byDefault.header }

/-- The project settings that have been met. -/
structure ProjectSettingsDraft where
  input : Option String := none
  output : Option (Option String) := none
  source : Option SourceSettings := none

/-- What a draft leaves open is as it is by default. -/
def ProjectSettingsDraft.finish (draft : ProjectSettingsDraft) :
    Except String ProjectSettings :=
  let byDefault : ProjectSettings := {}
  .ok {
    input := draft.input.getD byDefault.input
    output := draft.output.getD byDefault.output
    source := draft.source.getD byDefault.source }

namespace Format

variable {ν : Type} {m : Type → Type} [Monad m] (format : Format ν m)

/-- The settings of the source. -/
def sourceSlots : List (Slot ν m SourceSettingsDraft) :=
  [.ofField "table_module" false format.text (·.tableModule)
      fun value draft => { draft with tableModule := some value },
    .ofField "table_type" false format.text (·.tableType)
      fun value draft => { draft with tableType := some value },
    .ofField "derives" false (format.list format.text) (·.derives)
      fun value draft => { draft with derives := some value },
    .ofField "header" false format.flag (·.header)
      fun value draft => { draft with header := some value }]

/-- The record of source settings. -/
def sourceSettings : ν → m SourceSettings :=
  format.record "source settings" format.sourceSlots {} SourceSettingsDraft.finish

/-- The settings of a project. -/
def projectSlots : List (Slot ν m ProjectSettingsDraft) :=
  [.ofField "input" false format.text (·.input)
      fun value draft => { draft with input := some value },
    .ofField "output" false (format.optional format.text) (·.output)
      fun value draft => { draft with output := some value },
    .ofField "rust" false format.sourceSettings (·.source)
      fun value draft => { draft with source := some value }]

/-- The record of project settings. -/
def projectSettings : ν → m ProjectSettings :=
  format.record "project settings" format.projectSlots {} ProjectSettingsDraft.finish

end Format

/-- The settings that a YAML text gives. -/
def ProjectSettings.read? : String → Option ProjectSettings :=
  Yaml.readRoot Format.projectSettings

end MethodCodec
