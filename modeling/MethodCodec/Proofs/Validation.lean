import Mathlib
import MethodCodec.Command.Run
import MethodCodec.Proofs.FileScope
import MethodCodec.Workspace.Directory

/-!
# Validating and generating

In a directory without settings, two commands on one path.  Validation tells
that a document is valid as soon as it keeps its format and the structural
rules, and succeeds if the document resolves too.  Generation succeeds if,
besides, no structure goes by the name of the table type, which is a matter of
the target and not of the document.
-/

namespace MethodCodec

/-! ## Arguments -/

namespace Arguments

/-- A text that is taken for the path behind an option. -/
def TakenForPath (path : String) : Prop :=
  isValue path = true ∧ path ≠ ""

theorem readOptions?_input (specs : List OptionSpec)
    (known : parseOption? specs "-i" = some (inputOption, none)) (path : String) :
    readOptions? specs [] ["-i", path] =
      if isValue path then some [("input", path)] else none := by
  rw [readOptions?, known]
  · simp only [List.lookup_nil, inputOption]
    rfl
  · simp

theorem path?_input {path : String} (nonempty : path ≠ "") :
    path? [("input", path)] "input" = some (some path) := by
  rw [path?, List.lookup_cons_self]
  split
  next empty => cases empty
  next empty => exact absurd (Option.some.inj empty) nonempty
  next same => rw [Option.some.inj same]

@[simp]
theorem path?_output (path : String) :
    path? [("input", path)] "output" = some none := by
  rw [path?, List.lookup_cons]
  rfl

end Arguments

open Arguments

namespace Command

section Arguments

variable {path : String}

theorem ofArguments?_validate (taken : TakenForPath path) :
    ofArguments? ["validate", "-i", path] = some (.validate path) := by
  have options := readOptions?_input [inputOption] rfl path
  rw [if_pos taken.1] at options
  change validate? ["-i", path] = _
  rw [validate?, options]
  simp only [Option.bind_eq_bind, Option.bind_some, requiredPath?,
    path?_input taken.2, id_eq]
  rfl

theorem ofArguments?_generate (taken : TakenForPath path) :
    ofArguments? ["generate", "-i", path] =
      some (.generate (some path) none) := by
  have options :=
    readOptions?_input [inputOption, outputOption] rfl path
  rw [if_pos taken.1] at options
  change generate? ["-i", path] = _
  rw [generate?, options]
  simp only [Option.bind_eq_bind, Option.bind_some, path?_input taken.2,
    path?_output]
  rfl

theorem ofArguments?_of_not_taken (refused : ¬ TakenForPath path) :
    ofArguments? ["validate", "-i", path] = none ∧
      ofArguments? ["generate", "-i", path] = none := by
  have validateOptions := readOptions?_input [inputOption] rfl path
  have generateOptions :=
    readOptions?_input [inputOption, outputOption] rfl path
  change validate? ["-i", path] = none ∧ generate? ["-i", path] = none
  rw [validate?, generate?, validateOptions, generateOptions]
  by_cases value : isValue path = true
  · have empty : path = "" := by
      by_contra nonempty
      exact refused ⟨value, nonempty⟩
    subst empty
    decide
  · rw [if_neg value]
    exact ⟨rfl, rfl⟩

end Arguments

/-! ## Reports -/

/-- The document of the file at a path, as a command reads it. -/
def Opens (directory : Directory) (path : String) (spec : Spec) : Prop :=
  TakenForPath path ∧
    ∃ bytes text,
      directory.readBytes path = .ok bytes ∧
        Utf8.decode? bytes = some text ∧
        Spec.read (Path.dataFormat path) (String.ofList text) = .ok spec

/-- A report that begins by telling that a document is valid. -/
def Affirms (report : Report) : Prop :=
  "Valid protocol spec: ".toList <+: report.messages.toList

/-- What a command reports in a directory. -/
def reportIn (directory : Directory) (arguments : List String) : Report :=
  (runArguments Directory.workspace arguments directory).1

section Reports

variable {directory : Directory} {path : String}

/-- The document at a path, or why it cannot be read. -/
def readDocument (directory : Directory) (path : String) : Except Failure Spec :=
  match directory.readBytes path with
  | .error fault => .error (fault.failure.within ("failed to read " ++ path))
  | .ok bytes =>
      match Utf8.decode? bytes with
      | none =>
          .error (FileFault.notText.failure.within ("failed to read " ++ path))
      | some text =>
          (Spec.read (Path.dataFormat path) (String.ofList text)).mapError
            DocumentFault.failure

theorem openSpec_eq (directory : Directory) (path : String) :
    openSpec Directory.workspace path directory =
      (readDocument directory path, directory) := by
  simp only [openSpec, Workspace.readText, Directory.workspace, readDocument,
    bind, StateT.bind, pure]
  cases directory.readBytes path with
  | error fault => rfl
  | ok bytes =>
      dsimp only
      cases Utf8.decode? bytes <;> rfl

theorem opens_iff {spec : Spec} :
    Opens directory path spec ↔
      TakenForPath path ∧ readDocument directory path = .ok spec := by
  refine and_congr_right fun _ => ?_
  rw [readDocument]
  cases directory.readBytes path with
  | error fault => simp
  | ok bytes =>
      cases decoded : Utf8.decode? bytes with
      | none => simp [decoded]
      | some text =>
          cases read : Spec.read (Path.dataFormat path) (String.ofList text) with
          | error fault => simp [decoded, read, Except.mapError]
          | ok other => simp [decoded, read, Except.mapError]

theorem reportIn_validate (taken : TakenForPath path) :
    reportIn directory ["validate", "-i", path] =
      match readDocument directory path with
      | .error failure => .ofFailure failure
      | .ok spec => validateReport path spec := by
  rw [reportIn, runArguments, ofArguments?_validate taken]
  simp only [run, reportOn, bind, StateT.bind, openSpec_eq]
  cases readDocument directory path <;> rfl

theorem reportIn_generate (taken : TakenForPath path)
    (noSettings : directory.holds settingsFile = false) :
    reportIn directory ["generate", "-i", path] =
      match readDocument directory path with
      | .error failure => .ofFailure failure
      | .ok spec =>
          match generateAt path {} spec with
          | .error failure => .ofFailure failure
          | .ok (_, text) => { output := text } := by
  have settings :
      readSettings Directory.workspace directory = (.ok {}, directory) := by
    simp only [readSettings, Directory.workspace, bind, StateT.bind, noSettings]
    rfl
  rw [reportIn, runArguments, ofArguments?_generate taken]
  simp only [run, runGenerate, bind, StateT.bind, settings, Option.getD_some,
    openSpec_eq]
  cases readDocument directory path with
  | error failure => rfl
  | ok spec =>
      dsimp only
      cases generateAt path {} spec <;> rfl

theorem reportIn_of_not_taken (refused : ¬ TakenForPath path) :
    reportIn directory ["validate", "-i", path] = usageReport ∧
      reportIn directory ["generate", "-i", path] = usageReport := by
  obtain ⟨validate, generate⟩ := ofArguments?_of_not_taken refused
  rw [reportIn, reportIn, runArguments, runArguments, validate, generate]
  exact ⟨rfl, rfl⟩

theorem not_affirms_usageReport : ¬ Affirms usageReport := by
  rw [Affirms]
  decide

theorem not_affirms_ofFailure (failure : Failure) :
    ¬ Affirms (.ofFailure failure) := by
  rintro ⟨rest, same⟩
  have first := congrArg List.head? same
  simp [Report.ofFailure, Report.failed, Failure.text] at first

theorem affirms_validateReport (path : String) (spec : Spec) :
    Affirms (validateReport path spec) := by
  rw [Affirms, validateReport]
  cases spec.resolve.outcome <;>
    simp [Report.failed, line, List.append_assoc]

theorem exitCode_validateReport_eq_zero_iff {spec : Spec} :
    (validateReport path spec).exitCode = 0 ↔
      ∃ protocol, spec.resolve.outcome = .ok protocol := by
  rw [validateReport]
  cases spec.resolve.outcome with
  | error fault => simp [Report.failed]
  | ok protocol => simp

/-- Besides the resolution nothing stops generation but a structure by the name
of the table type. -/
theorem exists_generateAt_iff {settings : SourceSettings} {spec : Spec} :
    (∃ result, generateAt path settings spec = .ok result) ↔
      ∃ protocol, spec.resolve.outcome = .ok protocol ∧
        protocol.importCollision? settings.tableType = none := by
  rw [generateAt, resolveAt]
  cases spec.resolve.outcome with
  | error fault => simp [Except.mapError, bind, Except.bind]
  | ok protocol =>
      simp only [Protocol.generate_eq, Except.mapError, bind, Except.bind,
        Except.ok.injEq, exists_eq_left']
      cases protocol.importCollision? settings.tableType with
      | some collision => simp [Traced.fail]
      | none => simp [pure, Except.pure]

end Reports

end Command

/-- The names of structures are those that the document gives methods. -/
theorem Spec.Resolves.importCollision?_eq_none_iff
    {spec : Spec} {protocol : Protocol} (resolves : spec.Resolves protocol)
    {typeName : String} :
    protocol.importCollision? typeName = none ↔
      ∀ cls ∈ spec.classes, ∀ method ∈ cls.methods,
        Name.pascalCase method.name ≠ typeName := by
  rw [Protocol.importCollision?_eq_none_iff]
  refine (forall_iff_of_forall₂ resolves.classes fun cls resolved resolves => ?_).symm
  refine forall_iff_of_forall₂ resolves.methods fun method resolved resolves => ?_
  rw [resolves.name]
  rfl

namespace Command

/-- Validation affirms every document that it can read, and succeeds if the
document resolves as well.  Generation succeeds where validation does and no
method's structure goes by the name of the table type. -/
theorem validate_generate_agree
    {directory : Directory} (noSettings : directory.holds settingsFile = false)
    (path : String) :
    (Affirms (reportIn directory ["validate", "-i", path]) ↔
        ∃ spec, Opens directory path spec) ∧
      ((reportIn directory ["validate", "-i", path]).exitCode = 0 ↔
        Affirms (reportIn directory ["validate", "-i", path]) ∧
          ∀ spec, Opens directory path spec →
            ∃ protocol, spec.resolve.outcome = .ok protocol) ∧
      ((reportIn directory ["generate", "-i", path]).exitCode = 0 ↔
        (reportIn directory ["validate", "-i", path]).exitCode = 0 ∧
          ∀ spec, Opens directory path spec →
            ∀ cls ∈ spec.classes, ∀ method ∈ cls.methods,
              Name.pascalCase method.name ≠ "Table") := by
  by_cases taken : TakenForPath path
  case neg =>
    obtain ⟨validated, generated⟩ := reportIn_of_not_taken taken
    have refused : usageReport.exitCode ≠ 0 := by decide
    rw [validated, generated]
    simp [opens_iff, taken, not_affirms_usageReport, refused]
  rw [reportIn_validate taken, reportIn_generate taken noSettings]
  simp only [opens_iff, taken, true_and]
  cases readDocument directory path with
  | error failure =>
      have affirmed := not_affirms_ofFailure failure
      have refused : (Report.ofFailure failure).exitCode ≠ 0 := by
        simp [Report.ofFailure, Report.failed]
      simp [affirmed, refused]
  | ok spec =>
      have affirmed := affirms_validateReport path spec
      have free :
          (∃ result, generateAt path {} spec = .ok result) ↔
            (∃ protocol, spec.resolve.outcome = .ok protocol) ∧
              ∀ cls ∈ spec.classes, ∀ method ∈ cls.methods,
                Name.pascalCase method.name ≠ "Table" := by
        rw [exists_generateAt_iff]
        constructor
        · rintro ⟨protocol, accepted, free⟩
          have resolves := (Spec.resolves_of_resolve accepted).2.1
          exact ⟨⟨protocol, accepted⟩,
            resolves.importCollision?_eq_none_iff.mp free⟩
        · rintro ⟨⟨protocol, accepted⟩, free⟩
          have resolves := (Spec.resolves_of_resolve accepted).2.1
          exact ⟨protocol, accepted,
            resolves.importCollision?_eq_none_iff.mpr free⟩
      simp only [Except.ok.injEq, exists_eq', affirmed, true_and, forall_eq',
        exitCode_validateReport_eq_zero_iff, ← free]
      cases generateAt path {} spec with
      | error failure => simp [Report.ofFailure, Report.failed]
      | ok result => simp

/-- Three documents without settings: one of a method that generation accepts,
one of a method by the name of the table type, and one of a domain whose type is
unknown. -/
def threeDocuments : Directory where
  entries :=
    [(["open.json"], .file (Utf8.bytes
        ("\x7b\"domains\":[],\"classes\":[\x7b\"id\":1,\"name\":\"c\",\"methods\":" ++
          "[\x7b\"id\":1,\"name\":\"open\",\"arguments\":[]\x7d]\x7d]\x7d"))),
      (["table.json"], .file (Utf8.bytes
        ("\x7b\"domains\":[],\"classes\":[\x7b\"id\":1,\"name\":\"c\",\"methods\":" ++
          "[\x7b\"id\":1,\"name\":\"table\",\"arguments\":[]\x7d]\x7d]\x7d"))),
      (["domain.json"], .file (Utf8.bytes
        "\x7b\"domains\":[[\"d\",\"x\"]],\"classes\":[]\x7d"))]

/-- A document of one method without arguments. -/
def oneMethod (name : String) : Spec where
  name := none
  majorVersion := none
  minorVersion := none
  revision := none
  tcpPort := none
  domains := []
  classes := [⟨1, "c", [⟨1, name, none, []⟩]⟩]

theorem validate_generate_agree_open :
    threeDocuments.holds settingsFile = false ∧
      Affirms (reportIn threeDocuments ["validate", "-i", "open.json"]) ∧
      (reportIn threeDocuments ["validate", "-i", "open.json"]).exitCode = 0 ∧
      (reportIn threeDocuments ["generate", "-i", "open.json"]).exitCode = 0 := by
  have noSettings : threeDocuments.holds settingsFile = false := by
    decide +kernel
  have read : readDocument threeDocuments "open.json" = .ok (oneMethod "open") := by
    decide +kernel
  have opens (spec : Spec) :
      Opens threeDocuments "open.json" spec ↔ oneMethod "open" = spec := by
    rw [opens_iff, read, Except.ok.injEq]
    exact and_iff_right ⟨by decide, by decide⟩
  have resolved : ∃ protocol, (oneMethod "open").resolve.outcome = .ok protocol :=
    ⟨⟨⟨none, none, none⟩, [],
      [⟨1, Name.ofText "c", [⟨1, 1, Name.ofText "open", "c.open", false, []⟩]⟩]⟩,
      by decide +kernel⟩
  obtain ⟨affirms, validates, generates⟩ :=
    validate_generate_agree noSettings "open.json"
  simp only [opens, exists_eq', forall_eq'] at affirms validates generates
  have affirmed := affirms.mpr trivial
  have validated := validates.mpr ⟨affirmed, resolved⟩
  have generated := generates.mpr ⟨validated, by decide +kernel⟩
  exact ⟨noSettings, affirmed, validated, generated⟩

/-- A method by the name of the table type stops generation only, and a domain
whose type is unknown stops validation after it has affirmed the document. -/
theorem validate_generate_differ :
    threeDocuments.holds settingsFile = false ∧
      (reportIn threeDocuments ["validate", "-i", "table.json"]).exitCode = 0 ∧
      (reportIn threeDocuments ["generate", "-i", "table.json"]).exitCode = 1 ∧
      Affirms (reportIn threeDocuments ["validate", "-i", "domain.json"]) ∧
      (reportIn threeDocuments ["validate", "-i", "domain.json"]).exitCode = 1 := by
  have noSettings : threeDocuments.holds settingsFile = false := by
    decide +kernel
  have readTable :
      readDocument threeDocuments "table.json" = .ok (oneMethod "table") := by
    decide +kernel
  have readDomain :
      readDocument threeDocuments "domain.json" =
        .ok ⟨none, none, none, none, none, [("d", "x")], []⟩ := by
    decide +kernel
  have taken : TakenForPath "table.json" ∧ TakenForPath "domain.json" :=
    ⟨⟨by decide, by decide⟩, ⟨by decide, by decide⟩⟩
  rw [reportIn_validate taken.1, reportIn_generate taken.1 noSettings,
    reportIn_validate taken.2, readTable, readDomain]
  refine ⟨noSettings, ?_, ?_, affirms_validateReport _ _, ?_⟩ <;>
    decide +kernel

end Command

end MethodCodec
