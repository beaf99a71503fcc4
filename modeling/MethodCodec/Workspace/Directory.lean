import MethodCodec.Workspace.Basic
import MethodCodec.Workspace.Path

/-!
Files and folders as data, around the directory that a program works in: what
stands at each location of one tree.  A path is followed part by part, from the
working directory, or from the outermost folder if it begins with a slash; two dots
lead to the folder that a folder is in.

There are no links and no devices in the tree, and whoever works in it has every
right and enough room.
-/

namespace MethodCodec

/-- The names that lead from the outermost folder to a file or folder. -/
abbrev Location := List String

inductive Entry
  | file (content : List UInt8)
  | folder
  deriving DecidableEq

/-- A working directory, and the files and folders of the tree that it is in. -/
structure Directory where
  /-- Where the working directory is. -/
  here : Location := []
  /-- What was put at each location, latest first. -/
  entries : List (Location × Entry) := []
  deriving DecidableEq

namespace Directory

/-- What stands at a location. The working directory and those around it are
folders. -/
def find? (directory : Directory) (location : Location) : Option Entry :=
  if location.isPrefixOf directory.here then some .folder
  else directory.entries.lookup location

/-- Puts a file or folder at a location, in place of what is there. -/
def put (directory : Directory) (location : Location) (entry : Entry) : Directory :=
  { directory with entries := (location, entry) :: directory.entries }

@[simp]
theorem here_put (directory : Directory) (location : Location) (entry : Entry) :
    (directory.put location entry).here = directory.here :=
  rfl

theorem find?_put_self (directory : Directory) {location : Location} (entry : Entry)
    (notFolder : directory.find? location ≠ some .folder) :
    (directory.put location entry).find? location = some entry := by
  have outside : ¬ location.isPrefixOf directory.here = true := by
    intro around
    exact notFolder (if_pos around)
  rw [find?, here_put, if_neg outside, put, List.lookup_cons_self]

theorem find?_put_of_ne (directory : Directory) {location other : Location} (entry : Entry)
    (different : other ≠ location) :
    (directory.put location entry).find? other = directory.find? other := by
  have unequal : (other == location) = false := by simpa using different
  simp [find?, put, List.lookup_cons, unequal]

/-! ## Paths -/

/-- How many bytes a name has at most. -/
def nameLimit : Nat := 255

/-- How many bytes a path has at most. -/
def pathLimit : Nat := 4095

/-- Whether a name is too long for a file or folder. -/
def isTooLong (name : String) : Bool :=
  nameLimit < (Utf8.bytes name).length

/-- Why a path is refused whatever there is. -/
def pathFault? (path : String) : Option FileFault :=
  if path.toList.contains '\x00' then some .nullCharacter
  else if pathLimit < (Utf8.bytes path).length then some .tooLong
  else none

/-- The folder that a path is followed from. -/
def start (directory : Directory) (path : String) : Location :=
  if Path.isAbsolute path then [] else directory.here

/-- Where a path leads. -/
structure Place where
  location : Location
  /-- Whether the path ends in a slash, so that only a folder can be meant. -/
  asFolder : Bool
  deriving DecidableEq

/-- Follows the parts of a path from a folder. All but the last name have to be
folders, and around the outermost folder there is none but itself. -/
def follow (directory : Directory) (folder : Location) : List String → Except FileFault Place
  | [] => .ok ⟨folder, true⟩
  | part :: rest =>
      if Path.isIdle part then directory.follow folder rest
      else if part = ".." then directory.follow folder.dropLast rest
      else if isTooLong part then .error .tooLong
      else if rest.all (· == "") then .ok ⟨folder ++ [part], !rest.isEmpty⟩
      else
        match directory.find? (folder ++ [part]) with
        | none => .error .missing
        | some (.file _) => .error .notFolder
        | some .folder => directory.follow (folder ++ [part]) rest

/-- Where a path leads. An empty path leads nowhere. -/
def locate (directory : Directory) (path : String) : Except FileFault Place :=
  match pathFault? path with
  | some fault => .error fault
  | none =>
      if path = "" then .error .missing
      else directory.follow (directory.start path) (Path.parts path)

/-! ## Operations -/

/-- Whether there is a file or a folder at a path. -/
def holds (directory : Directory) (path : String) : Bool :=
  match directory.locate path with
  | .error _ => false
  | .ok place =>
      match directory.find? place.location with
      | none => false
      | some .folder => true
      | some (.file _) => !place.asFolder

/-- The content of the file at a path. -/
def readBytes (directory : Directory) (path : String) : Except FileFault (List UInt8) :=
  match directory.locate path with
  | .error fault => .error fault
  | .ok place =>
      match directory.find? place.location with
      | none => .error .missing
      | some .folder => .error .isFolder
      | some (.file content) => if place.asFolder then .error .notFolder else .ok content

/-- Makes the folders that the parts of a path lead through, as far as they are
missing. The path is tried as a whole first, where a file on the way is just no
folder. Once something is missing they are made one by one, and a file is then in
the place of one of them. -/
def makeFoldersFrom (directory : Directory) (folder : Location) (oneByOne : Bool) :
    List String → Except FileFault Unit × Directory
  | [] => (.ok (), directory)
  | part :: rest =>
      if Path.isIdle part then directory.makeFoldersFrom folder oneByOne rest
      else if part = ".." then directory.makeFoldersFrom folder.dropLast oneByOne rest
      else if isTooLong part then (.error .tooLong, directory)
      else
        let location := folder ++ [part]
        match directory.find? location with
        | none => (directory.put location .folder).makeFoldersFrom location true rest
        | some .folder => directory.makeFoldersFrom location oneByOne rest
        | some (.file _) =>
            (.error (if oneByOne || rest.all Path.isIdle then .taken else .notFolder), directory)

/-- Makes a folder and those that it is in, as far as they are missing. -/
def makeFolders (directory : Directory) (path : String) : Except FileFault Unit × Directory :=
  match pathFault? path with
  | some fault => (.error fault, directory)
  | none => directory.makeFoldersFrom (directory.start path) false (Path.parts path)

/-- Makes a file, in place of the one that is there. -/
def writeBytes (directory : Directory) (path : String) (content : List UInt8) :
    Except FileFault Directory :=
  match directory.locate path with
  | .error fault => .error fault
  | .ok place =>
      -- A path that ends in a slash is taken for a folder, also where a file is.
      if place.asFolder then .error .isFolder
      else
        match directory.find? place.location with
        | some .folder => .error .isFolder
        | some (.file _) | none => .ok (directory.put place.location (.file content))

/-- A directory as a workspace. -/
def workspace : Workspace (StateM Directory) where
  holds := fun path directory => (directory.holds path, directory)
  readBytes := fun path directory => (directory.readBytes path, directory)
  makeFolders := fun path directory => directory.makeFolders path
  writeBytes := fun path content directory =>
    match directory.writeBytes path content with
    | .ok changed => (.ok (), changed)
    | .error fault => (.error fault, directory)

/-- Adds a file at a path with the folders that it is in; what cannot be added
is left out. -/
def addFile (directory : Directory) (path : String) (content : List UInt8) : Directory :=
  let folders : Except FileFault Unit × Directory :=
    match Path.parent? path with
    | none | some "" => (.ok (), directory)
    | some parent => directory.makeFolders parent
  match folders.1.bind fun _ => folders.2.writeBytes path content with
  | .ok added => added
  | .error _ => directory

/-- A working directory in a folder of its own, with files at the given paths. -/
def ofFiles (files : List (String × List UInt8)) : Directory :=
  files.foldl (fun directory (path, content) => directory.addFile path content)
    { here := ["work"] }

end Directory

end MethodCodec
