import Mathlib
import MethodCodec.Proofs.Delivery
import MethodCodec.Proofs.Validation

/-!
# Sessions

Commands are carried out one after another in a directory, each on what those
before it left there.  A command that only reads leaves everything as it is, and
so does one that is refused; the others write one file, wherever in the tree its
path leads.
-/

namespace MethodCodec.Command

open Directory

/-! ## Commands that only read -/

/-- A computation that leaves every directory as it is. -/
def Reads {α : Type} (computation : StateM Directory α) : Prop :=
  ∀ directory, (computation directory).2 = directory

section

variable {α β : Type}

@[simp]
theorem bind_apply (first : StateM Directory α) (next : α → StateM Directory β)
    (directory : Directory) :
    (first >>= next) directory = next (first directory).1 (first directory).2 :=
  rfl

theorem reads_pure (value : α) : Reads (pure value) :=
  fun _ => rfl

theorem Reads.bind
    {first : StateM Directory α} {next : α → StateM Directory β}
    (reads : Reads first) (reads_next : ∀ value, Reads (next value)) :
    Reads (first >>= next) := by
  intro directory
  rw [bind_apply, reads_next, reads]

end

theorem reads_readText (path : String) : Reads (Directory.workspace.readText path) := by
  refine .bind (fun _ => rfl) fun bytes => ?_
  cases bytes with
  | error fault => exact reads_pure _
  | ok bytes =>
      dsimp only
      cases Utf8.decode? bytes <;> exact reads_pure _

theorem reads_openSpec (path : String) : Reads (openSpec Directory.workspace path) := by
  refine .bind (reads_readText path) fun text => ?_
  cases text <;> exact reads_pure _

theorem reads_reportOn (path : String) (report : Spec → Report) :
    Reads (reportOn Directory.workspace path report) := by
  refine .bind (reads_openSpec path) fun spec => ?_
  cases spec <;> exact reads_pure _

/-! ## The settings file -/

/-- Where the settings of a directory are. -/
def settingsPlace (directory : Directory) : Location :=
  directory.here ++ [settingsFile]

theorem locate_settingsFile (directory : Directory) :
    directory.locate settingsFile = .ok ⟨settingsPlace directory, false⟩ := by
  have sound : pathFault? settingsFile = none := by
    decide +kernel
  have parts : Path.parts settingsFile = [settingsFile] := by
    decide +kernel
  have named :
      ¬ Path.isIdle settingsFile = true ∧ settingsFile ≠ ".." ∧
        ¬ isTooLong settingsFile = true := by
    decide +kernel
  rw [locate_eq_ok_iff, parts]
  refine ⟨sound, by decide, ?_⟩
  rw [follow, if_neg named.1, if_neg named.2.1, if_neg named.2.2]
  rfl

theorem destination_settingsFile (directory : Directory) :
    directory.destination settingsFile = settingsPlace directory :=
  (location_of_locate (locate_settingsFile directory)).symm

theorem holds_settingsFile (directory : Directory) :
    directory.holds settingsFile = (directory.find? (settingsPlace directory)).isSome := by
  rw [holds, locate_settingsFile]
  dsimp only
  rcases directory.find? (settingsPlace directory) with _ | content | _ <;> rfl

/-- Only a folder keeps the settings file from being written. -/
theorem folder_of_writeBytes_settingsFile
    {directory : Directory} {content : List UInt8} {fault : FileFault}
    (refused : directory.writeBytes settingsFile content = .error fault) :
    directory.find? (settingsPlace directory) = some .folder := by
  rw [writeBytes, locate_settingsFile] at refused
  dsimp only at refused
  rw [if_neg (by decide)] at refused
  split at refused
  next folder => exact folder
  next => cases refused
  next => cases refused

/-- The settings that the file in a directory gives: those by default without a
file, and none from a folder, from what is no text or from a text of something
else. -/
def settingsIn (directory : Directory) : Except Failure ProjectSettings :=
  match directory.find? (settingsPlace directory) with
  | none => .ok {}
  | some .folder =>
      .error
        { message := "failed to read config .amqpgen.yaml: Is a directory (os error 21)" }
  | some (.file content) =>
      match Utf8.decode? content with
      | none =>
          .error
            { message :=
                "failed to read config .amqpgen.yaml: stream did not contain valid UTF-8" }
      | some text =>
          match ProjectSettings.read? (String.ofList text) with
          | none =>
              .error { message := "failed to parse config .amqpgen.yaml: not settings" }
          | some settings => .ok settings

/-- The text of a file, or why there is none. -/
def textOf : Entry → Except FileFault String
  | .folder => .error .isFolder
  | .file content =>
      match Utf8.decode? content with
      | none => .error .notText
      | some text => .ok (String.ofList text)

theorem readText_settingsFile {directory : Directory} {entry : Entry}
    (found : directory.find? (settingsPlace directory) = some entry) :
    Directory.workspace.readText settingsFile directory = (textOf entry, directory) := by
  have content :
      Directory.workspace.readBytes settingsFile directory =
        (directory.readBytes settingsFile, directory) := rfl
  rw [Workspace.readText, bind_apply, content, readBytes, locate_settingsFile]
  dsimp only
  rw [found]
  cases entry with
  | folder => rfl
  | file content =>
      dsimp only [textOf]
      rw [if_neg (by decide)]
      dsimp only
      cases Utf8.decode? content <;> rfl

theorem readSettings_eq (directory : Directory) :
    readSettings Directory.workspace directory = (settingsIn directory, directory) := by
  have there :
      Directory.workspace.holds settingsFile directory =
        (directory.holds settingsFile, directory) := rfl
  rw [readSettings, bind_apply, there, holds_settingsFile, settingsIn]
  dsimp only
  cases found : directory.find? (settingsPlace directory) with
  | none => rfl
  | some entry =>
      rw [Option.isSome_some, if_pos rfl, bind_apply, readText_settingsFile found]
      cases entry with
      | folder => rfl
      | file content =>
          rw [textOf]
          dsimp only
          cases Utf8.decode? content with
          | none => rfl
          | some text =>
              dsimp only
              cases ProjectSettings.read? (String.ofList text) <;> rfl

/-! ## Stages of a generation -/

/-- The settings, the protocol and the source of a generation: the settings are
loaded, the document is read, the protocol is resolved and the source generated. The
first of these that fails is reported. -/
def sourceIn (directory : Directory) (input : Option String) :
    Except Failure (ProjectSettings × Protocol × String) := do
  let settings ← settingsIn directory
  let path := input.getD settings.input
  let spec ← readDocument directory path
  let protocol ← spec.resolve.outcome.mapError fun fault =>
    fault.failure.within ("failed to resolve " ++ path)
  let text ← (protocol.generate settings.source).outcome.mapError GenerationFault.failure
  return (settings, protocol, text)

/-- Nothing is written before all stages are passed. -/
theorem runGenerate_eq (directory : Directory) (input output : Option String) :
    runGenerate Directory.workspace input output directory =
      match sourceIn directory input with
      | .error failure => (.ofFailure failure, directory)
      | .ok (settings, protocol, text) =>
          deliver Directory.workspace (output <|> settings.output) protocol text
            directory := by
  rw [runGenerate, bind_apply, readSettings_eq, sourceIn]
  cases settingsIn directory with
  | error failure => rfl
  | ok settings =>
      dsimp only
      rw [bind_apply, openSpec_eq, bind, Except.instMonad]
      dsimp only [Except.bind]
      cases readDocument directory (input.getD settings.input) with
      | error failure => rfl
      | ok spec =>
          dsimp only
          rw [generateAt, resolveAt]
          cases spec.resolve.outcome with
          | error fault => rfl
          | ok protocol =>
              dsimp only [Except.mapError, bind, Except.bind]
              cases (protocol.generate settings.source).outcome <;> rfl

/-! ## Writing -/

theorem writeText_eq (path text : String) (before : Directory) :
    (∃ after, before.writeBytes path (Utf8.bytes text) = .ok after ∧
        Directory.workspace.writeText path text before = (.ok (), after)) ∨
      ∃ fault, before.writeBytes path (Utf8.bytes text) = .error fault ∧
        Directory.workspace.writeText path text before = (.error fault, before) := by
  rw [Workspace.writeText, Directory.workspace]
  dsimp only
  cases before.writeBytes path (Utf8.bytes text) with
  | ok after => exact .inl ⟨after, rfl, rfl⟩
  | error fault => exact .inr ⟨fault, rfl, rfl⟩

theorem makeFolderFor_of_parent? {path parent : String} (before : Directory)
    (found : Path.parent? path = some parent) (nonempty : parent ≠ "") :
    makeFolderFor Directory.workspace path before =
      ((before.makeFolders parent).1.mapError fun fault =>
          fault.failure.within ("failed to create directory " ++ parent),
        (before.makeFolders parent).2) := by
  rw [makeFolderFor, found]
  simp only
  rfl

/-- Nothing but folders of a path is made, all of them unless something is in the
way. -/
theorem makeFolderFor_eq (path : String) (before : Directory) :
    ∃ made after,
      makeFolderFor Directory.workspace path before = (made, after) ∧
        MakesFolders (before.parents path) before after ∧
        (made = .ok () ∧
            (∀ folder ∈ before.parents path, after.find? folder = some .folder) ∨
          ∃ failure, made = .error failure ∧ Hindered before path) := by
  cases found : Path.parent? path with
  | none =>
      simp only [makeFolderFor, parents, found]
      exact ⟨.ok (), before, rfl, .refl _ _, .inl ⟨rfl, by simp⟩⟩
  | some parent =>
      by_cases empty : parent = ""
      · subst empty
        simp only [makeFolderFor, parents, found]
        exact ⟨.ok (), before, rfl, .refl _ _, .inl ⟨rfl, by simp⟩⟩
      · rw [makeFolderFor_of_parent? before found empty,
          parents_of_parent? found empty]
        refine ⟨_, _, rfl, makesFolders_makeFolders before parent, ?_⟩
        cases made : (before.makeFolders parent).1 with
        | ok _ => exact .inl ⟨rfl, folders_of_makeFolders made⟩
        | error fault =>
            exact .inr ⟨_, rfl, hindered_of_makeFolders found empty made⟩

/-- A file is saved with the folders that it is in, or something is in the way and
some of these are all that is new. -/
theorem save_eq (path text : String) (before : Directory) :
    (∃ after, save Directory.workspace path text before = (.ok (), after) ∧
        WritesFile (before.destination path) (Utf8.bytes text) (before.parents path)
          before after ∧
        after.readBytes path = .ok (Utf8.bytes text)) ∨
      ∃ failure after,
        save Directory.workspace path text before = (.error failure, after) ∧
          Hindered before path ∧ MakesFolders (before.parents path) before after := by
  obtain ⟨made, middle, ran, onlyFolders, outcome⟩ := makeFolderFor_eq path before
  rw [save, bind_apply, ran]
  rcases outcome with ⟨rfl, folders⟩ | ⟨failure, rfl, hindered⟩
  · dsimp only
    rw [bind_apply]
    rcases writeText_eq path text middle with
      ⟨after, written, changed⟩ | ⟨fault, blocked, changed⟩
    · rw [changed]
      exact .inl ⟨after, rfl, onlyFolders.writesFile folders written,
        readBytes_of_writeBytes written⟩
    · rw [changed]
      have hindered := hindered_of_writeBytes onlyFolders folders blocked
      exact .inr ⟨_, middle, rfl, hindered, onlyFolders⟩
  · exact .inr ⟨failure, middle, rfl, hindered, onlyFolders⟩

/-! ## What a run does -/

/-- What comes of a generation: it is refused at one of its stages, or the source
is printed, written, or kept from being written by what is in the way. -/
inductive Generated (input output : Option String) (before after : Directory)
    (report : Report) : Prop
  | refused {failure : Failure} (stage : sourceIn before input = .error failure)
      (exitCode : report.exitCode = 1) (silent : report.output = "")
      (unchanged : after = before)
  | printed {settings : ProjectSettings} {protocol : Protocol} {text : String}
      (source : sourceIn before input = .ok (settings, protocol, text))
      (noPath : (output <|> settings.output) = none)
      (exitCode : report.exitCode = 0) (prints : report.output = text)
      (unchanged : after = before)
      -- It is the text that is written where a path is given.
      (asWritten :
        ∀ path report' after',
          runGenerate Directory.workspace input (some path) before =
              (report', after') →
            report'.exitCode = 0 →
              after'.readBytes path = .ok (Utf8.bytes report.output))
  | written {settings : ProjectSettings} {protocol : Protocol} {text path : String}
      (source : sourceIn before input = .ok (settings, protocol, text))
      (givenPath : (output <|> settings.output) = some path)
      (exitCode : report.exitCode = 0) (silent : report.output = "")
      (readBack : after.readBytes path = .ok (Utf8.bytes text))
      (writes :
        WritesFile (before.destination path) (Utf8.bytes text) (before.parents path)
          before after)
  | undelivered {settings : ProjectSettings} {protocol : Protocol}
      {text path : String}
      (source : sourceIn before input = .ok (settings, protocol, text))
      (givenPath : (output <|> settings.output) = some path)
      (hindered : Hindered before path)
      (exitCode : report.exitCode = 1) (silent : report.output = "")
      (onlyFolders : MakesFolders (before.parents path) before after)

/-- What comes of the start of a project: settings that are there are kept, or
those of a new project are written, unless a folder is in the way. -/
inductive Initialized (force : Bool) (before after : Directory)
    (report : Report) : Prop
  | kept (there : before.find? (settingsPlace before) ≠ none) (notForced : force = false)
      (exitCode : report.exitCode = 1) (unchanged : after = before)
  | started (allowed : before.find? (settingsPlace before) = none ∨ force = true)
      (exitCode : report.exitCode = 0)
      (writes :
        WritesFile (settingsPlace before) (Utf8.bytes initialSettings) [] before after)
  | blocked (allowed : force = true)
      (folder : before.find? (settingsPlace before) = some .folder)
      (exitCode : report.exitCode = 1) (unchanged : after = before)

/-- A command carried out in a directory, with what it reports and leaves. -/
structure Step where
  before : Directory
  arguments : List String
  report : Report
  after : Directory

namespace Step

/-- The step by the given arguments. -/
def ofArguments (directory : Directory) (arguments : List String) : Step where
  before := directory
  arguments := arguments
  report := (runArguments Directory.workspace arguments directory).1
  after := (runArguments Directory.workspace arguments directory).2

/-- What a step does: it reads only, or what comes of its command. -/
def Lawful (step : Step) : Prop :=
  match Command.ofArguments? step.arguments with
  | none | some (.validate _) | some (.inspect _ _) | some (.decode _ _ _ _)
  | some .version =>
      step.after = step.before
  | some (.init force) => Initialized force step.before step.after step.report
  | some (.generate input output) =>
      Generated input output step.before step.after step.report

/-- The locations at which a step can change anything: its own file, and the
folders that this is in. -/
def reach (step : Step) : List Location :=
  match Command.ofArguments? step.arguments with
  | some (.init _) => [settingsPlace step.before]
  | some (.generate input output) =>
      match sourceIn step.before input with
      | .error _ => []
      | .ok (settings, _, _) =>
          match output <|> settings.output with
          | none => []
          | some path => step.before.destination path :: step.before.parents path
  | _ => []

end Step

theorem initialized_runInit (force : Bool) (before : Directory) :
    Initialized force before (runInit Directory.workspace force before).2
      (runInit Directory.workspace force before).1 := by
  have there :
      Directory.workspace.holds settingsFile before =
        (before.holds settingsFile, before) := rfl
  rw [runInit, bind_apply, there, holds_settingsFile]
  dsimp only
  split_ifs with refused
  · rw [Bool.and_eq_true, Bool.not_eq_true', Option.isSome_iff_ne_none] at refused
    exact .kept refused.1 refused.2 rfl rfl
  · have allowed : before.find? (settingsPlace before) = none ∨ force = true := by
      rw [Bool.and_eq_true, Bool.not_eq_true', Option.isSome_iff_ne_none] at refused
      by_contra forbidden
      rw [not_or, Bool.not_eq_true] at forbidden
      exact refused forbidden
    rw [bind_apply]
    rcases writeText_eq settingsFile initialSettings before with
      ⟨after, written, changed⟩ | ⟨fault, blocked, changed⟩
    · rw [changed]
      have writes :=
        (MakesFolders.refl [] before).writesFile (by simp) written
      rw [destination_settingsFile] at writes
      exact .started allowed rfl writes
    · have folder := folder_of_writeBytes_settingsFile blocked
      rw [changed]
      refine .blocked ?_ folder rfl rfl
      simpa [folder] using allowed

section

variable {input output : Option String} {before : Directory}
  {settings : ProjectSettings} {protocol : Protocol} {text path : String}

/-- With a path, the source is written there unless something is in the way. -/
theorem runGenerate_of_path
    (source : sourceIn before input = .ok (settings, protocol, text))
    (givenPath : (output <|> settings.output) = some path) :
    (∃ after,
      runGenerate Directory.workspace input output before =
          ({ messages := generatedMessage protocol path }, after) ∧
        WritesFile (before.destination path) (Utf8.bytes text) (before.parents path)
          before after ∧
        after.readBytes path = .ok (Utf8.bytes text)) ∨
      ∃ failure after,
        runGenerate Directory.workspace input output before =
            (.ofFailure failure, after) ∧
          Hindered before path ∧ MakesFolders (before.parents path) before after := by
  rw [runGenerate_eq, source]
  dsimp only
  rw [givenPath, deliver, bind_apply]
  rcases save_eq path text before with
    ⟨after, saved, writes, readBack⟩ | ⟨failure, after, refused, notSaved⟩
  · rw [saved]
    exact .inl ⟨after, rfl, writes, readBack⟩
  · rw [refused]
    exact .inr ⟨failure, after, rfl, notSaved⟩

/-- A run with a path that succeeds writes the source that its stages make. -/
theorem readBytes_of_runGenerate
    (source : sourceIn before input = .ok (settings, protocol, text))
    {report : Report} {after : Directory}
    (ran :
      runGenerate Directory.workspace input (some path) before = (report, after))
    (succeeded : report.exitCode = 0) :
    after.readBytes path = .ok (Utf8.bytes text) := by
  have givenPath : (some path <|> settings.output) = some path := rfl
  rcases runGenerate_of_path source givenPath with
    ⟨other, ranSo, _, readBack⟩ | ⟨failure, other, ranSo, _⟩
  · rw [ranSo] at ran
    cases ran
    exact readBack
  · rw [ranSo] at ran
    cases ran
    cases succeeded

end

theorem generated_runGenerate (input output : Option String) (before : Directory) :
    Generated input output before
      (runGenerate Directory.workspace input output before).2
      (runGenerate Directory.workspace input output before).1 := by
  cases source : sourceIn before input with
  | error failure =>
      rw [runGenerate_eq, source]
      exact .refused source rfl rfl rfl
  | ok made =>
      obtain ⟨settings, protocol, text⟩ := made
      cases givenPath : output <|> settings.output with
      | none =>
          rw [runGenerate_eq, source]
          dsimp only
          rw [givenPath, deliver]
          exact .printed source givenPath rfl rfl rfl
            fun path report after => readBytes_of_runGenerate source
      | some path =>
          rcases runGenerate_of_path source givenPath with
            ⟨after, ran, writes, readBack⟩ |
              ⟨failure, after, ran, hindered, onlyFolders⟩
          · rw [ran]
            exact .written source givenPath rfl rfl readBack writes
          · rw [ran]
            exact .undelivered source givenPath hindered rfl rfl onlyFolders

namespace Step

theorem lawful_ofArguments (directory : Directory) (arguments : List String) :
    (ofArguments directory arguments).Lawful := by
  rw [Lawful, ofArguments]
  dsimp only
  rw [runArguments]
  cases Command.ofArguments? arguments with
  | none => rfl
  | some command =>
      cases command with
      | generate input output => exact generated_runGenerate input output directory
      | validate input => exact reads_reportOn input _ directory
      | inspect input format => exact reads_reportOn input _ directory
      | decode input classId methodId payload => exact reads_reportOn input _ directory
      | init force => exact initialized_runInit force directory
      | version => rfl

/-- A lawful step spares everything out of its reach. -/
theorem Lawful.spares {step : Step} (lawful : step.Lawful) :
    Spares step.reach step.before step.after := by
  have kept (same : step.after = step.before) :
      Spares step.reach step.before step.after :=
    same ▸ Spares.refl _ _
  rw [Lawful] at lawful
  split at lawful
  next => exact kept lawful
  next => exact kept lawful
  next => exact kept lawful
  next => exact kept lawful
  next => exact kept lawful
  next force command =>
    cases lawful with
    | kept _ _ _ unchanged => exact kept unchanged
    | blocked _ _ _ unchanged => exact kept unchanged
    | started _ _ writes =>
        rw [reach, command]
        exact writes.spares
  next input output command =>
    cases lawful with
    | refused _ _ _ unchanged => exact kept unchanged
    | printed _ _ _ _ unchanged => exact kept unchanged
    | written source givenPath _ _ _ writes =>
        rw [reach, command]
        dsimp only
        rw [source]
        dsimp only
        rw [givenPath]
        exact writes.spares
    | undelivered source givenPath _ _ _ onlyFolders =>
        rw [reach, command]
        dsimp only
        rw [source]
        dsimp only
        rw [givenPath]
        exact onlyFolders.spares.mono (List.subset_cons_self ..)

end Step

/-! ## Sessions -/

/-- The steps by the given arguments, each in what the one before it leaves. -/
def session (directory : Directory) : List (List String) → List Step
  | [] => []
  | arguments :: rest =>
      let step := Step.ofArguments directory arguments
      step :: session step.after rest

/-- What a session leaves. -/
def afterSession (directory : Directory) : List (List String) → Directory
  | [] => directory
  | arguments :: rest =>
      afterSession (Step.ofArguments directory arguments).after rest

theorem lawful_of_mem_session
    {directory : Directory} {runs : List (List String)} {step : Step}
    (member : step ∈ session directory runs) : step.Lawful := by
  induction runs generalizing directory with
  | nil => cases member
  | cons arguments runs inductionHypothesis =>
      rcases List.mem_cons.mp member with rfl | later
      · exact Step.lawful_ofArguments directory arguments
      · exact inductionHypothesis later

theorem spares_session (directory : Directory) (runs : List (List String)) :
    Spares ((session directory runs).flatMap Step.reach) directory
      (afterSession directory runs) := by
  induction runs generalizing directory with
  | nil => exact .refl _ directory
  | cons arguments runs inductionHypothesis =>
      rw [session, afterSession, List.flatMap_cons]
      exact (Step.lawful_ofArguments directory arguments).spares.trans
        (inductionHypothesis _)

/-- Whatever is in the directory and whatever runs follow each other, every run
leaves all as it is or writes its own file, and all of them leave what is out of
their reach. -/
theorem lawful_session (directory : Directory) (runs : List (List String)) :
    (∀ step ∈ session directory runs, step.Lawful) ∧
      Spares ((session directory runs).flatMap Step.reach) directory
        (afterSession directory runs) :=
  ⟨fun _ member => lawful_of_mem_session member, spares_session directory runs⟩

/-- A working directory in a tree, with a document beside it. -/
def besideDocument : Directory where
  here := ["home", "work"]
  entries :=
    [(["home", "spec.json"], .file (Utf8.bytes "\x7b\"domains\":[],\"classes\":[]\x7d"))]

example :
    (session besideDocument
        [["generate", "-i", "../spec.json", "-o", "/out/gen.rs"],
          ["generate", "-i", "../spec.json", "-o", "out/../../gen.rs"],
          ["init"], ["init"]]).map
        (fun step => (step.report.exitCode, step.reach)) =
      [(0, [["out", "gen.rs"], ["out"]]),
        (0, [["home", "gen.rs"], ["home", "work", "out"]]),
        (0, [["home", "work", settingsFile]]),
        (1, [["home", "work", settingsFile]])] := by
  decide +kernel

end MethodCodec.Command
