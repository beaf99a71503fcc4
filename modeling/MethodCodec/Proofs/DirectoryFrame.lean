import Mathlib
import MethodCodec.Workspace.Directory

/-!
# What operations on files leave as it is

A path leads through some locations to one.  Making folders makes them at these
locations and where nothing is, as far as it gets; writing a file puts it at the
last of them, which is no folder.  Nothing else in the tree changes, nothing is
taken away, and the working directory stays where it is.
-/

namespace MethodCodec.Directory

/-! ## Where paths lead -/

/-- The location that the parts of a path lead to from a folder, whatever stands
on the way. -/
def goto (folder : Location) : List String → Location
  | [] => folder
  | part :: rest =>
      if Path.isIdle part then goto folder rest
      else if part = ".." then goto folder.dropLast rest
      else goto (folder ++ [part]) rest

/-- The locations that the parts of a path lead through, the last included. -/
def passed (folder : Location) : List String → List Location
  | [] => []
  | part :: rest =>
      if Path.isIdle part then passed folder rest
      else if part = ".." then passed folder.dropLast rest
      else (folder ++ [part]) :: passed (folder ++ [part]) rest

/-- The location that a path leads to. -/
def destination (directory : Directory) (path : String) : Location :=
  goto (directory.start path) (Path.parts path)

/-- The locations of the folders that the last part of a path is in. -/
def parents (directory : Directory) (path : String) : List Location :=
  match Path.parent? path with
  | none | some "" => []
  | some parent => passed (directory.start parent) (Path.parts parent)

theorem goto_of_blank {rest : List String} (blank : rest.all (· == "") = true)
    (folder : Location) :
    goto folder rest = folder := by
  induction rest with
  | nil => rfl
  | cons part rest inductionHypothesis =>
      rw [List.all_cons, Bool.and_eq_true, beq_iff_eq] at blank
      obtain ⟨rfl, blank⟩ := blank
      rw [goto, if_pos (by decide), inductionHypothesis blank]

variable {directory before middle after : Directory}

theorem start_eq (same : after.here = before.here) (path : String) :
    after.start path = before.start path := by
  rw [start, start, same]

theorem destination_eq (same : after.here = before.here) (path : String) :
    after.destination path = before.destination path := by
  rw [destination, destination, start_eq same]

/-- A path that can be followed leads where it says. -/
theorem location_of_follow
    {folder : Location} {parts : List String} {place : Place}
    (followed : directory.follow folder parts = .ok place) :
    place.location = goto folder parts := by
  induction parts generalizing folder with
  | nil =>
      rw [follow, Except.ok.injEq] at followed
      rw [← followed, goto]
  | cons part rest inductionHypothesis =>
      rw [follow] at followed
      rw [goto]
      split_ifs at followed ⊢ with idle up long blank
      · exact inductionHypothesis followed
      · exact inductionHypothesis followed
      · rw [Except.ok.injEq] at followed
        rw [← followed, goto_of_blank blank]
      · split at followed
        · cases followed
        · cases followed
        · exact inductionHypothesis followed

/-- A path that leads somewhere is followed from where it starts. -/
theorem locate_eq_ok_iff {path : String} {place : Place} :
    directory.locate path = .ok place ↔
      pathFault? path = none ∧ path ≠ "" ∧
        directory.follow (directory.start path) (Path.parts path) = .ok place := by
  rw [locate]
  cases pathFault? path with
  | some fault => simp
  | none =>
      by_cases empty : path = "" <;> simp [empty]

theorem location_of_locate
    {path : String} {place : Place} (located : directory.locate path = .ok place) :
    place.location = directory.destination path :=
  location_of_follow (locate_eq_ok_iff.mp located).2.2

/-- A path is followed as before when something is put where it leads, unless a
folder stood there. -/
theorem follow_put
    {location : Location} (notFolder : directory.find? location ≠ some .folder)
    (entry : Entry) {folder : Location} {parts : List String} {asFolder : Bool}
    (followed : directory.follow folder parts = .ok ⟨location, asFolder⟩) :
    (directory.put location entry).follow folder parts =
      .ok ⟨location, asFolder⟩ := by
  induction parts generalizing folder with
  | nil => exact followed
  | cons part rest inductionHypothesis =>
      rw [follow] at followed ⊢
      split_ifs at followed ⊢ with idle up long blank
      · exact inductionHypothesis followed
      · exact inductionHypothesis followed
      · exact followed
      · cases found : directory.find? (folder ++ [part]) with
        | none =>
            rw [found] at followed
            cases followed
        | some passedEntry =>
            cases passedEntry with
            | file content =>
                rw [found] at followed
                cases followed
            | folder =>
                -- A folder on the way is not the location itself.
                rw [found] at followed
                have apart : folder ++ [part] ≠ location := by
                  rintro rfl
                  exact notFolder found
                rw [find?_put_of_ne directory entry apart, found]
                exact inductionHypothesis followed

/-! ## Making folders -/

/-- Some of the given folders are made where nothing was, and that is all. -/
structure MakesFolders (folders : List Location) (before after : Directory) : Prop where
  here : after.here = before.here
  places :
    ∀ location,
      after.find? location = before.find? location ∨
        location ∈ folders ∧ before.find? location = none ∧
          after.find? location = some .folder

variable {folders : List Location}

theorem MakesFolders.refl (folders : List Location) (directory : Directory) :
    MakesFolders folders directory directory :=
  ⟨rfl, fun _ => .inl rfl⟩

theorem MakesFolders.trans
    (first : MakesFolders folders before middle)
    (second : MakesFolders folders middle after) :
    MakesFolders folders before after where
  here := second.here.trans first.here
  places := by
    intro location
    rcases second.places location with same | ⟨member, empty, made⟩
    · rw [same]
      exact first.places location
    · rcases first.places location with same | ⟨_, _, madeBefore⟩
      · rw [same] at empty
        exact .inr ⟨member, empty, made⟩
      · rw [madeBefore] at empty
        cases empty

theorem MakesFolders.mono
    (made : MakesFolders folders before after) {more : List Location}
    (subset : folders ⊆ more) :
    MakesFolders more before after where
  here := made.here
  places := by
    intro location
    refine (made.places location).imp_right ?_
    rintro ⟨member, change⟩
    exact ⟨subset member, change⟩

/-- What is there stays. -/
theorem MakesFolders.find?_of_some
    (made : MakesFolders folders before after) {location : Location} {entry : Entry}
    (found : before.find? location = some entry) :
    after.find? location = some entry := by
  rcases made.places location with same | ⟨_, empty, _⟩
  · rw [same, found]
  · rw [found] at empty
    cases empty

/-- A file that is there has been there. -/
theorem MakesFolders.find?_file
    (made : MakesFolders folders before after) {location : Location}
    {content : List UInt8} (found : after.find? location = some (.file content)) :
    before.find? location = some (.file content) := by
  rcases made.places location with same | ⟨_, _, folder⟩
  · rw [← same, found]
  · rw [folder] at found
    cases found

theorem makesFolders_put
    {location : Location} (empty : directory.find? location = none) :
    MakesFolders [location] directory (directory.put location .folder) where
  here := rfl
  places := by
    intro other
    by_cases same : other = location
    · subst same
      have notFolder : directory.find? other ≠ some .folder := by simp [empty]
      exact .inr ⟨List.mem_singleton_self _, empty,
        find?_put_self directory .folder notFolder⟩
    · exact .inl (find?_put_of_ne directory .folder same)

/-- What keeps folders from being made: a file is in the place of one of them, or a
name is too long. -/
inductive Barred (directory : Directory) (folder : Location) (parts : List String) : Prop
  | file {location : Location} {content : List UInt8}
      (member : location ∈ passed folder parts)
      (found : directory.find? location = some (.file content))
  | tooLong {part : String} (member : part ∈ parts) (long : isTooLong part = true)

/-- What bars the way after some folders are made has barred it before. -/
theorem MakesFolders.barred
    (made : MakesFolders folders before after) {folder : Location} {parts : List String}
    (barred : Barred after folder parts) :
    Barred before folder parts := by
  cases barred with
  | file member found => exact .file member (made.find?_file found)
  | tooLong member long => exact .tooLong member long

/-- What bars the way from a folder bars it from the one that it is passed from. -/
theorem Barred.cons
    {folder next : Location} {part : String} {rest : List String}
    (barred : Barred directory next rest)
    (subset : passed next rest ⊆ passed folder (part :: rest)) :
    Barred directory folder (part :: rest) := by
  cases barred with
  | file member found => exact .file (subset member) found
  | tooLong member long => exact .tooLong (List.mem_cons_of_mem _ member) long

/-- Only folders that are passed are made; either all of them are folders then, or
something bars the way. -/
structure PassesFolders (folder : Location) (parts : List String) (before : Directory)
    (result : Except FileFault Unit × Directory) : Prop where
  makes : MakesFolders (passed folder parts) before result.2
  all_or_barred :
    (result.1 = .ok () ∧
        ∀ location ∈ passed folder parts, result.2.find? location = some .folder) ∨
      ∃ fault, result.1 = .error fault ∧ Barred before folder parts

/-- One part leads on to a folder, which may have to be made. -/
theorem PassesFolders.cons
    {folder next : Location} {part : String} {rest : List String}
    {result : Except FileFault Unit × Directory}
    (passes : PassesFolders next rest middle result)
    {new : List Location} (made : MakesFolders new before middle)
    (there : ∀ location ∈ new, middle.find? location = some .folder)
    (split : passed folder (part :: rest) = new ++ passed next rest) :
    PassesFolders folder (part :: rest) before result where
  makes := by
    rw [split]
    exact (made.mono (List.subset_append_left _ _)).trans
      (passes.makes.mono (List.subset_append_right _ _))
  all_or_barred := by
    rcases passes.all_or_barred with ⟨succeeded, all⟩ | ⟨fault, refused, barred⟩
    · refine .inl ⟨succeeded, ?_⟩
      rw [split]
      intro location member
      rcases List.mem_append.mp member with first | later
      · exact passes.makes.find?_of_some (there location first)
      · exact all location later
    · refine .inr ⟨fault, refused, (made.barred barred).cons ?_⟩
      rw [split]
      exact List.subset_append_right _ _

theorem passesFolders_makeFoldersFrom
    (before : Directory) (folder : Location) (oneByOne : Bool) (parts : List String) :
    PassesFolders folder parts before
      (before.makeFoldersFrom folder oneByOne parts) := by
  induction parts generalizing before folder oneByOne with
  | nil => exact ⟨.refl _ _, .inl ⟨rfl, by simp [passed]⟩⟩
  | cons part rest inductionHypothesis =>
      have nothing : ∀ location ∈ [], before.find? location = some .folder := by simp
      rw [makeFoldersFrom]
      by_cases idle : Path.isIdle part = true
      · rw [if_pos idle]
        exact (inductionHypothesis before folder oneByOne).cons (.refl [] _) nothing
          (by rw [passed, if_pos idle, List.nil_append])
      rw [if_neg idle]
      by_cases up : part = ".."
      · rw [if_pos up]
        exact (inductionHypothesis before folder.dropLast oneByOne).cons (.refl [] _)
          nothing (by rw [passed, if_neg idle, if_pos up, List.nil_append])
      rw [if_neg up]
      by_cases long : isTooLong part = true
      · rw [if_pos long]
        exact ⟨.refl _ _, .inr ⟨_, rfl, .tooLong (List.mem_cons_self ..) long⟩⟩
      rw [if_neg long]
      dsimp only
      have split :
          passed folder (part :: rest) =
            [folder ++ [part]] ++ passed (folder ++ [part]) rest := by
        rw [passed, if_neg idle, if_neg up, List.singleton_append]
      cases found : before.find? (folder ++ [part]) with
      | none =>
          have notFolder : before.find? (folder ++ [part]) ≠ some .folder := by
            simp [found]
          have there := find?_put_self before .folder notFolder
          exact (inductionHypothesis _ _ true).cons (makesFolders_put found)
            (by simpa using there) split
      | some entry =>
          cases entry with
          | folder =>
              exact (inductionHypothesis before _ oneByOne).cons (.refl _ _)
                (by simpa using found) split
          | file content =>
              refine ⟨.refl _ _, .inr ⟨_, rfl, .file ?_ found⟩⟩
              rw [split]
              exact List.mem_append_left _ (List.mem_singleton_self _)

/-! ## Writing files -/

/-- A file is put where no folder is, the folders that it is in are made where
they are missing, and that is all. -/
structure WritesFile (file : Location) (content : List UInt8)
    (folders : List Location) (before after : Directory) : Prop where
  here : after.here = before.here
  written : after.find? file = some (.file content)
  noFolder : before.find? file ≠ some .folder
  inFolders : ∀ folder ∈ folders, after.find? folder = some .folder
  elsewhere :
    ∀ location, location ≠ file →
      after.find? location = before.find? location ∨
        location ∈ folders ∧ before.find? location = none ∧
          after.find? location = some .folder

/-- A write that succeeds puts the file at a location that was no folder. -/
theorem put_of_writeBytes
    {path : String} {content : List UInt8}
    (written : before.writeBytes path content = .ok after) :
    before.locate path = .ok ⟨before.destination path, false⟩ ∧
      before.find? (before.destination path) ≠ some .folder ∧
      after = before.put (before.destination path) (.file content) := by
  rw [writeBytes] at written
  cases located : before.locate path with
  | error fault =>
      rw [located] at written
      cases written
  | ok place =>
      obtain ⟨location, asFolder⟩ := place
      obtain rfl : location = before.destination path := location_of_locate located
      rw [located] at written
      dsimp only at written
      cases asFolder with
      | true => cases written
      | false =>
          rw [if_neg (by decide)] at written
          split at written
          next => cases written
          next old found =>
            cases written
            exact ⟨rfl, by simp [found], rfl⟩
          next empty =>
            cases written
            exact ⟨rfl, by simp [empty], rfl⟩

/-- Folders that were made on the way to a file are around it. -/
theorem MakesFolders.writesFile
    (made : MakesFolders folders before middle)
    (all : ∀ folder ∈ folders, middle.find? folder = some .folder)
    {path : String} {content : List UInt8}
    (written : middle.writeBytes path content = .ok after) :
    WritesFile (before.destination path) content folders before after := by
  obtain ⟨_, noFolder, rfl⟩ := put_of_writeBytes written
  rw [destination_eq made.here] at noFolder ⊢
  have elsewhere {location : Location} (apart : location ≠ before.destination path) :
      (middle.put (before.destination path) (.file content)).find? location =
        middle.find? location :=
    find?_put_of_ne middle _ apart
  refine ⟨made.here, find?_put_self middle _ noFolder,
    mt made.find?_of_some noFolder, ?_, ?_⟩
  · intro folder member
    have apart : folder ≠ before.destination path := by
      rintro rfl
      exact noFolder (all _ member)
    rw [elsewhere apart, all folder member]
  · intro location apart
    rw [elsewhere apart]
    exact made.places location

/-- What has been written at a path is read there. -/
theorem readBytes_of_writeBytes
    {path : String} {content : List UInt8}
    (written : before.writeBytes path content = .ok after) :
    after.readBytes path = .ok content := by
  obtain ⟨located, noFolder, rfl⟩ := put_of_writeBytes written
  obtain ⟨sound, nonempty, followed⟩ := locate_eq_ok_iff.mp located
  have relocated :
      (before.put (before.destination path) (.file content)).locate path =
        .ok ⟨before.destination path, false⟩ :=
    locate_eq_ok_iff.mpr ⟨sound, nonempty, follow_put noFolder _ followed⟩
  rw [readBytes, relocated]
  dsimp only
  rw [find?_put_self before _ noFolder]
  rfl

/-! ## What is spared -/

/-- Nothing changes but at the given locations, and nothing is taken away there:
a folder stays one, and so does a file, whatever it holds. -/
structure Spares (locations : List Location) (before after : Directory) : Prop where
  here : after.here = before.here
  elsewhere :
    ∀ location, location ∉ locations →
      after.find? location = before.find? location
  folders :
    ∀ location, before.find? location = some .folder →
      after.find? location = some .folder
  files :
    ∀ location content, before.find? location = some (.file content) →
      ∃ other, after.find? location = some (.file other)

theorem Spares.refl (locations : List Location) (directory : Directory) :
    Spares locations directory directory :=
  ⟨rfl, fun _ _ => rfl, fun _ found => found, fun _ content found => ⟨content, found⟩⟩

theorem Spares.trans
    {locations more : List Location} (first : Spares locations before middle)
    (second : Spares more middle after) :
    Spares (locations ++ more) before after where
  here := second.here.trans first.here
  elsewhere := by
    intro location outside
    rw [List.mem_append, not_or] at outside
    rw [second.elsewhere location outside.2, first.elsewhere location outside.1]
  folders := fun location found =>
    second.folders location (first.folders location found)
  files := by
    intro location content found
    obtain ⟨other, found⟩ := first.files location content found
    exact second.files location other found

theorem Spares.mono
    {locations more : List Location} (spares : Spares locations before after)
    (subset : locations ⊆ more) :
    Spares more before after :=
  ⟨spares.here,
    fun location outside => spares.elsewhere location (mt (@subset location) outside),
    spares.folders, spares.files⟩

theorem MakesFolders.spares
    (made : MakesFolders folders before after) :
    Spares folders before after where
  here := made.here
  elsewhere := fun location outside =>
    (made.places location).resolve_right fun change => outside change.1
  folders := fun _ found => made.find?_of_some found
  files := fun _ content found => ⟨content, made.find?_of_some found⟩

theorem WritesFile.spares
    {file : Location} {content : List UInt8}
    (writes : WritesFile file content folders before after) :
    Spares (file :: folders) before after where
  here := writes.here
  elsewhere := by
    intro location outside
    rw [List.mem_cons, not_or] at outside
    exact (writes.elsewhere location outside.1).resolve_right fun change =>
      outside.2 change.1
  folders := by
    intro location found
    have apart : location ≠ file := by
      rintro rfl
      exact writes.noFolder found
    rcases writes.elsewhere location apart with same | ⟨_, empty, _⟩
    · rw [same, found]
    · rw [found] at empty
      cases empty
  files := by
    intro location old found
    by_cases same : location = file
    · exact ⟨content, same ▸ writes.written⟩
    · rcases writes.elsewhere location same with unchanged | ⟨_, empty, _⟩
      · exact ⟨old, unchanged.trans found⟩
      · rw [found] at empty
        cases empty

end MethodCodec.Directory
