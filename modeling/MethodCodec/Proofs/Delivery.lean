import Mathlib
import MethodCodec.Proofs.DirectoryFrame

/-!
# What keeps a file from being made

A path whose last part is a name leads to that name in the folder that its other
parts lead to, from the working directory or from the outermost folder.  When the
folders on the way are there, a file can be made at the path, unless a folder
stands where it leads.
-/

namespace MethodCodec.Path

/-! ## Parts of a path -/

@[simp]
theorem splitParts_ne_nil (chars : List Char) : splitParts chars ≠ [] := by
  cases chars with
  | nil => simp [splitParts]
  | cons char rest =>
      rw [splitParts]
      split
      · simp
      · split <;> simp

theorem splitParts_cons_of_ne
    {char : Char} (other : char ≠ '/') {rest part : List Char}
    {parts : List (List Char)} (split : splitParts rest = part :: parts) :
    splitParts (char :: rest) = (char :: part) :: parts := by
  rw [splitParts, split]
  exact if_neg other

@[simp]
theorem splitParts_cons_slash (rest : List Char) :
    splitParts ('/' :: rest) = [] :: splitParts rest := by
  cases split : splitParts rest with
  | nil => exact absurd split (splitParts_ne_nil rest)
  | cons part parts =>
      rw [splitParts, split]
      exact if_pos rfl

theorem splitParts_of_noSlash {part : List Char} (noSlash : '/' ∉ part) :
    splitParts part = [part] := by
  induction part with
  | nil => rfl
  | cons char rest inductionHypothesis =>
      rw [List.mem_cons, not_or] at noSlash
      exact splitParts_cons_of_ne (Ne.symm noSlash.1) (inductionHypothesis noSlash.2)

theorem splitParts_append_slash {part : List Char} (noSlash : '/' ∉ part)
    (rest : List Char) :
    splitParts (part ++ '/' :: rest) = part :: splitParts rest := by
  induction part with
  | nil => exact splitParts_cons_slash rest
  | cons char part inductionHypothesis =>
      rw [List.mem_cons, not_or] at noSlash
      exact splitParts_cons_of_ne (Ne.symm noSlash.1) (inductionHypothesis noSlash.2)

theorem noSlash_of_mem_splitParts {chars part : List Char}
    (member : part ∈ splitParts chars) : '/' ∉ part := by
  induction chars generalizing part with
  | nil =>
      rw [splitParts, List.mem_singleton] at member
      simp [member]
  | cons char rest inductionHypothesis =>
      by_cases slash : char = '/'
      · subst slash
        rw [splitParts_cons_slash, List.mem_cons] at member
        rcases member with rfl | later
        · simp
        · exact inductionHypothesis later
      · cases split : splitParts rest with
        | nil => exact absurd split (splitParts_ne_nil rest)
        | cons first parts =>
            rw [split] at inductionHypothesis
            rw [splitParts_cons_of_ne slash split, List.mem_cons] at member
            rcases member with rfl | later
            · rw [List.mem_cons, not_or]
              exact ⟨Ne.symm slash, inductionHypothesis (List.mem_cons_self ..)⟩
            · exact inductionHypothesis (List.mem_cons_of_mem _ later)

@[simp]
theorem parts_ne_nil (path : String) : parts path ≠ [] := by
  rw [parts, ne_eq, List.map_eq_nil_iff]
  exact splitParts_ne_nil _

theorem noSlash_of_mem_parts {path part : String} (member : part ∈ parts path) :
    '/' ∉ part.toList := by
  rw [parts, List.mem_map] at member
  obtain ⟨chars, member, rfl⟩ := member
  rw [String.toList_ofList]
  exact noSlash_of_mem_splitParts member

/-- A joined path has the parts that it is joined from. -/
theorem parts_joinParts
    {pieces : List String} (nonempty : pieces ≠ [])
    (noSlash : ∀ part ∈ pieces, '/' ∉ part.toList) :
    parts (joinParts pieces) = pieces := by
  induction pieces with
  | nil => exact absurd rfl nonempty
  | cons part rest inductionHypothesis =>
      rw [List.forall_mem_cons] at noSlash
      cases rest with
      | nil => simp [joinParts, parts, splitParts_of_noSlash noSlash.1]
      | cons next rest =>
          have further := inductionHypothesis (List.cons_ne_nil _ _) noSlash.2
          rw [parts] at further
          simp [joinParts, parts, splitParts_append_slash noSlash.1, further]

theorem joinParts_map_splitParts (chars : List Char) :
    (joinParts ((splitParts chars).map String.ofList)).toList = chars := by
  induction chars with
  | nil => rfl
  | cons char rest inductionHypothesis =>
      obtain ⟨part, parts, split⟩ := List.exists_cons_of_ne_nil (splitParts_ne_nil rest)
      rw [split, List.map_cons] at inductionHypothesis
      by_cases slash : char = '/'
      · subst slash
        rw [splitParts_cons_slash, split, List.map_cons, List.map_cons, joinParts,
          String.toList_append, inductionHypothesis]
        · rfl
        · simp
      · rw [splitParts_cons_of_ne slash split, List.map_cons]
        cases parts with
        | nil =>
            simp only [List.map_nil, joinParts, String.toList_ofList]
              at inductionHypothesis ⊢
            rw [inductionHypothesis]
        | cons next parts =>
            simp only [List.map_cons, joinParts, String.toList_append,
              String.toList_ofList, List.cons_append] at inductionHypothesis ⊢
            rw [inductionHypothesis]

/-- A path is joined from its parts. -/
@[simp]
theorem joinParts_parts (path : String) : joinParts (parts path) = path :=
  String.toList_inj.mp (joinParts_map_splitParts path.toList)

@[simp]
theorem parts_empty : parts "" = [""] :=
  rfl

/-- The first parts of a joined path begin it. -/
theorem joinParts_append_begins (front rest : List String) :
    (joinParts front).toList <+: (joinParts (front ++ rest)).toList := by
  induction front with
  | nil => exact List.nil_prefix
  | cons part front inductionHypothesis =>
      cases front with
      | nil =>
          cases rest with
          | nil => rw [List.append_nil]
          | cons next rest =>
              simp only [List.singleton_append, joinParts, String.toList_append,
                List.append_assoc]
              exact List.prefix_append _ _
      | cons next front =>
          simp only [List.cons_append, joinParts, String.toList_append] at inductionHypothesis ⊢
          exact (List.prefix_append_right_inj _).mpr inductionHypothesis

/-- The first part of an absolute path is empty. -/
theorem isAbsolute_iff {path : String} :
    isAbsolute path = true ↔ path ≠ "" ∧ (parts path).head? = some "" := by
  rw [isAbsolute, beq_iff_eq, parts, List.head?_map, ne_eq,
    ← String.toList_eq_nil_iff]
  cases path.toList with
  | nil => simp
  | cons char rest =>
      by_cases slash : char = '/'
      · subst slash
        simp [splitParts_cons_slash]
      · obtain ⟨part, parts, split⟩ :=
          List.exists_cons_of_ne_nil (splitParts_ne_nil rest)
        simp [splitParts_cons_of_ne slash split, slash]

/-! ## The folder of a path -/

theorem trimEnd_cons (first : String) (rest : List String) :
    trimEnd (first :: rest) = first :: rest.rdropWhile isIdle :=
  rfl

/-- A path that ends in a name, with the parts before it. -/
structure EndsIn (path : String) (front : List String) (name : String) : Prop where
  split : parts path = front ++ [name]
  notIdle : ¬ isIdle name = true
  notUp : name ≠ ".."

variable {path name : String} {front : List String}

theorem EndsIn.path_ne (ending : EndsIn path front name) : path ≠ "" := by
  rintro rfl
  have last := congrArg List.getLast? ending.split
  rw [parts_empty, List.getLast?_concat, List.getLast?_singleton, Option.some.injEq] at last
  exact ending.notIdle (last ▸ rfl)

theorem EndsIn.parent?_of_nil (ending : EndsIn path [] name) : parent? path = some "" := by
  have unblank : name ≠ "" := by
    rintro rfl
    exact ending.notIdle rfl
  rw [parent?, ending.split, List.nil_append, trimEnd_cons, List.rdropWhile_nil]
  split
  next none => cases none
  next blank => exact absurd (List.cons.inj blank).1 unblank
  next => rfl
  next more whole => exact (more (List.cons.inj whole).2.symm).elim

variable {first : String} {rest : List String}

/-- The folder of a path has the parts before the last, without idle ones at the
end, and is the outermost one if nothing else is left than where it starts. -/
theorem EndsIn.parent?_of_cons (ending : EndsIn path (first :: rest) name) :
    parent? path =
      some (if first :: rest.rdropWhile isIdle = [""] then "/"
        else joinParts (first :: rest.rdropWhile isIdle)) := by
  obtain ⟨second, more, others⟩ := List.exists_cons_of_ne_nil
    (List.concat_ne_nil name rest)
  have trimmed : trimEnd (parts path) = first :: second :: more := by
    rw [ending.split, List.cons_append, trimEnd_cons,
      List.rdropWhile_concat_neg _ _ _ ending.notIdle, others]
  have front_eq : (first :: second :: more).dropLast = first :: rest := by
    rw [← others, ← List.cons_append, List.dropLast_concat]
  rw [parent?, trimmed]
  split
  next none => cases none
  next blank => cases (List.cons.inj blank).2
  next one => cases (List.cons.inj one).2
  next whole =>
    rw [← whole, front_eq, trimEnd_cons]
    split
    next root => rw [if_pos root]
    next inner => rw [if_neg inner]

end MethodCodec.Path

namespace MethodCodec.Directory

/-! ## Folders on the way -/

theorem passed_append (folder : Location) (front rest : List String) :
    passed folder (front ++ rest) =
      passed folder front ++ passed (goto folder front) rest := by
  induction front generalizing folder with
  | nil => rfl
  | cons part front inductionHypothesis =>
      rw [List.cons_append, passed, passed, goto]
      split_ifs
      · exact inductionHypothesis folder
      · exact inductionHypothesis folder.dropLast
      · rw [inductionHypothesis, List.cons_append]

/-- Idle parts at the end lead through nothing more. -/
theorem passed_rdropWhile (folder : Location) (parts : List String) :
    passed folder (parts.rdropWhile Path.isIdle) = passed folder parts := by
  induction parts using List.reverseRecOn with
  | nil => rfl
  | append_singleton parts part inductionHypothesis =>
      by_cases idle : Path.isIdle part = true
      · rw [List.rdropWhile_concat_pos _ _ _ idle, inductionHypothesis, passed_append,
          passed, if_pos idle, passed, List.append_nil]
      · rw [List.rdropWhile_concat_neg _ _ _ idle]

variable {path parent name first : String} {front rest : List String}

/-- The path of the folder that a path is in: it begins the path, is followed from
the same folder, and leads through what the path leads through before its name. -/
structure FolderPath (path parent : String) (front : List String) : Prop where
  nonempty : parent ≠ ""
  begins : parent.toList <+: path.toList
  start : Path.isAbsolute parent = Path.isAbsolute path
  subset : Path.parts parent ⊆ Path.parts path
  passes : ∀ folder, passed folder (Path.parts parent) = passed folder front

theorem isAbsolute_of_endsIn (ending : Path.EndsIn path (first :: rest) name) :
    Path.isAbsolute path = true ↔ first = "" := by
  rw [Path.isAbsolute_iff, ending.split, List.cons_append, List.head?_cons,
    Option.some.injEq, and_iff_right ending.path_ne]

theorem passed_cons_rdropWhile (folder : Location) (first : String)
    (rest : List String) :
    passed folder (first :: rest.rdropWhile Path.isIdle) =
      passed folder (first :: rest) := by
  rw [← List.singleton_append, passed_append, passed_rdropWhile, ← passed_append,
    List.singleton_append]

/-- An absolute path with idle parts before its name is in the outermost folder. -/
theorem folderPath_root (ending : Path.EndsIn path ("" :: rest) name)
    (root : "" :: rest.rdropWhile Path.isIdle = [""]) :
    FolderPath path "/" ("" :: rest) := by
  have absolute : Path.isAbsolute path = true := (isAbsolute_of_endsIn ending).mpr rfl
  have parts : Path.parts "/" = ["", ""] := rfl
  refine ⟨by decide, ?_, absolute ▸ rfl, ?_, ?_⟩
  · rw [Path.isAbsolute, beq_iff_eq, List.head?_eq_some_iff] at absolute
    obtain ⟨chars, whole⟩ := absolute
    exact whole ▸ ⟨chars, rfl⟩
  · rw [parts, ending.split]
    simp
  · intro folder
    have same := passed_cons_rdropWhile folder "" rest
    rw [root] at same
    rw [parts, ← same]
    rfl

theorem folderPath_joinParts (ending : Path.EndsIn path (first :: rest) name)
    (notRoot : first :: rest.rdropWhile Path.isIdle ≠ [""]) :
    FolderPath path (Path.joinParts (first :: rest.rdropWhile Path.isIdle))
      (first :: rest) := by
  obtain ⟨dropped, kept⟩ := List.rdropWhile_prefix Path.isIdle rest
  have whole :
      Path.parts path =
        (first :: rest.rdropWhile Path.isIdle) ++ (dropped ++ [name]) := by
    rw [ending.split, List.cons_append, List.cons_append, ← List.append_assoc, kept]
  have parts :
      Path.parts (Path.joinParts (first :: rest.rdropWhile Path.isIdle)) =
        first :: rest.rdropWhile Path.isIdle := by
    refine Path.parts_joinParts (List.cons_ne_nil _ _) fun part member => ?_
    have inPath : part ∈ Path.parts path := by
      rw [whole]
      exact List.mem_append_left _ member
    exact Path.noSlash_of_mem_parts inPath
  have nonempty : Path.joinParts (first :: rest.rdropWhile Path.isIdle) ≠ "" := by
    intro empty
    rw [empty, Path.parts_empty] at parts
    exact notRoot parts.symm
  refine ⟨nonempty, ?_, ?_, ?_, ?_⟩
  · have begins := Path.joinParts_append_begins
      (first :: rest.rdropWhile Path.isIdle) (dropped ++ [name])
    rwa [← whole, Path.joinParts_parts] at begins
  · rw [Bool.eq_iff_iff, isAbsolute_of_endsIn ending, Path.isAbsolute_iff, parts,
      List.head?_cons, Option.some.injEq, and_iff_right nonempty]
  · rw [parts, whole]
    exact List.subset_append_left _ _
  · intro folder
    rw [parts, passed_cons_rdropWhile]

theorem exists_folderPath (ending : Path.EndsIn path (first :: rest) name) :
    ∃ parent,
      Path.parent? path = some parent ∧ FolderPath path parent (first :: rest) := by
  refine ⟨_, ending.parent?_of_cons, ?_⟩
  split_ifs with root
  · obtain rfl : first = "" := (List.cons.inj root).1
    exact folderPath_root ending root
  · exact folderPath_joinParts ending root

variable {directory before middle : Directory} {folder : Location} {fault : FileFault}

theorem parents_of_parent? (found : Path.parent? path = some parent)
    (nonempty : parent ≠ "") :
    directory.parents path =
      passed (directory.start parent) (Path.parts parent) := by
  rw [parents, found]
  split
  next none => cases none
  next blank => exact absurd (Option.some.inj blank) nonempty
  next same => rw [Option.some.inj same]

/-- The folders that a path is in are those that its parts before the name lead
through. -/
theorem parents_eq (ending : Path.EndsIn path front name) :
    directory.parents path = passed (directory.start path) front := by
  cases front with
  | nil =>
      rw [parents, ending.parent?_of_nil]
      rfl
  | cons first rest =>
      obtain ⟨parent, found, folderPath⟩ := exists_folderPath ending
      rw [parents_of_parent? found folderPath.nonempty, folderPath.passes, start, start,
        folderPath.start]

/-- Through folders a path is followed to its name. -/
theorem follow_of_folders
    (folders : ∀ location ∈ passed folder front,
      directory.find? location = some .folder)
    (short : ∀ part ∈ front ++ [name], ¬ isTooLong part = true)
    (notIdle : ¬ Path.isIdle name = true) (notUp : name ≠ "..") :
    directory.follow folder (front ++ [name]) =
      .ok ⟨goto folder front ++ [name], false⟩ := by
  have unblank : name ≠ "" := by
    rintro rfl
    exact notIdle rfl
  induction front generalizing folder with
  | nil =>
      have fits := short name (List.mem_singleton_self _)
      rw [List.nil_append, follow, if_neg notIdle, if_neg notUp, if_neg fits,
        if_pos (by rfl)]
      rfl
  | cons part front inductionHypothesis =>
      rw [List.cons_append, List.forall_mem_cons] at short
      rw [passed] at folders
      rw [List.cons_append, follow, goto]
      split_ifs at folders ⊢ with idle up long blank
      · exact inductionHypothesis folders short.2
      · exact inductionHypothesis folders short.2
      · exact absurd long short.1
      · simp [unblank] at blank
      · rw [List.forall_mem_cons] at folders
        rw [folders.1]
        exact inductionHypothesis folders.2 short.2

/-! ## Paths that are refused -/

theorem pathFault?_eq_none_iff :
    pathFault? path = none ↔
      '\x00' ∉ path.toList ∧ (Utf8.bytes path).length ≤ pathLimit := by
  rw [pathFault?]
  split_ifs with null long <;> simp_all

/-- What begins a path that is not refused is not refused either. -/
theorem pathFault?_of_begins (begins : parent.toList <+: path.toList)
    (sound : pathFault? path = none) : pathFault? parent = none := by
  rw [pathFault?_eq_none_iff] at sound ⊢
  refine ⟨fun null => sound.1 (begins.subset null), le_trans ?_ sound.2⟩
  obtain ⟨more, whole⟩ := begins
  rw [Utf8.bytes, Utf8.bytes, Utf8.encode, Utf8.encode, ← whole, List.flatMap_append,
    List.length_append]
  exact Nat.le_add_right _ _

/-! ## Making the folders of a path -/

/-- Whether or not the folders of a path can be made, nothing but them is. -/
theorem makesFolders_makeFolders (before : Directory) (path : String) :
    MakesFolders (passed (before.start path) (Path.parts path)) before
      (before.makeFolders path).2 := by
  rw [makeFolders]
  cases pathFault? path with
  | some fault => exact .refl _ _
  | none => exact (passesFolders_makeFoldersFrom before _ _ _).makes

theorem folders_of_makeFolders (made : (before.makeFolders path).1 = .ok ()) :
    ∀ location ∈ passed (before.start path) (Path.parts path),
      (before.makeFolders path).2.find? location = some .folder := by
  rw [makeFolders] at made ⊢
  cases sound : pathFault? path with
  | some fault =>
      rw [sound] at made
      cases made
  | none =>
      rw [sound] at made
      rcases (passesFolders_makeFoldersFrom before (before.start path) false
        (Path.parts path)).all_or_barred with ⟨_, all⟩ | ⟨fault, refused, _⟩
      · exact all
      · dsimp only at made
        rw [refused] at made
        cases made

theorem barred_of_makeFolders (sound : pathFault? path = none)
    (refused : (before.makeFolders path).1 = .error fault) :
    Barred before (before.start path) (Path.parts path) := by
  rw [makeFolders, sound] at refused
  rcases (passesFolders_makeFoldersFrom before (before.start path) false
    (Path.parts path)).all_or_barred with ⟨succeeded, _⟩ | ⟨_, _, barred⟩
  · dsimp only at refused
    rw [succeeded] at refused
    cases refused
  · exact barred

/-! ## What is in the way -/

/-- Why a file cannot be made at a path, with the folders that it is in: the path is
refused as it is, has a part that is too long or ends in no name, a file is where a
folder has to be, or a folder where the file has to be. -/
inductive Hindered (directory : Directory) (path : String) : Prop
  | refused {fault : FileFault} (unsound : pathFault? path = some fault)
  | tooLong {part : String} (member : part ∈ Path.parts path)
      (long : isTooLong part = true)
  | unnamed {part : String} (last : (Path.parts path).getLast? = some part)
      (noName : Path.isIdle part = true ∨ part = "..")
  | barred {location : Location} {content : List UInt8}
      (around : location ∈ directory.parents path)
      (found : directory.find? location = some (.file content))
  | folder
      (there : directory.find? (directory.destination path) = some .folder ∨
        directory.destination path ∈ directory.parents path)

/-- A path at which nothing but what stands in a directory can keep a file from
being made. -/
structure Usable (path : String) (front : List String) (name : String) : Prop
    extends Path.EndsIn path front name where
  sound : pathFault? path = none
  short : ∀ part ∈ Path.parts path, ¬ isTooLong part = true

theorem hindered_or_usable (directory : Directory) (path : String) :
    Hindered directory path ∨ ∃ front name, Usable path front name := by
  cases sound : pathFault? path with
  | some fault => exact .inl (.refused sound)
  | none =>
      by_cases long : ∃ part ∈ Path.parts path, isTooLong part = true
      · obtain ⟨part, member, long⟩ := long
        exact .inl (.tooLong member long)
      · have short : ∀ part ∈ Path.parts path, ¬ isTooLong part = true :=
          fun part member tooLong => long ⟨part, member, tooLong⟩
        obtain ⟨front, name, split⟩ :=
          (List.eq_nil_or_concat' (Path.parts path)).resolve_left (Path.parts_ne_nil path)
        have last : (Path.parts path).getLast? = some name := by
          rw [split, List.getLast?_concat]
        by_cases idle : Path.isIdle name = true
        · exact .inl (.unnamed last (.inl idle))
        · by_cases up : name = ".."
          · exact .inl (.unnamed last (.inr up))
          · exact .inr ⟨front, name, ⟨split, idle, up⟩, sound, short⟩

theorem hindered_of_makeFolders
    (found : Path.parent? path = some parent) (nonempty : parent ≠ "")
    (refused : (before.makeFolders parent).1 = .error fault) :
    Hindered before path := by
  rcases hindered_or_usable before path with hindered | ⟨front, name, usable⟩
  · exact hindered
  · cases front with
    | nil =>
        rw [usable.parent?_of_nil, Option.some.injEq] at found
        exact absurd found.symm nonempty
    | cons first rest =>
        obtain ⟨other, foundSo, folderPath⟩ := exists_folderPath usable.toEndsIn
        obtain rfl : other = parent := Option.some.inj (foundSo.symm.trans found)
        have sound := pathFault?_of_begins folderPath.begins usable.sound
        cases barred_of_makeFolders sound refused with
        | file member file =>
            rw [← parents_of_parent? found nonempty] at member
            exact .barred member file
        | tooLong member long => exact .tooLong (folderPath.subset member) long

theorem hindered_of_writeBytes {content : List UInt8}
    (made : MakesFolders (before.parents path) before middle)
    (folders : ∀ location ∈ before.parents path, middle.find? location = some .folder)
    (refused : middle.writeBytes path content = .error fault) :
    Hindered before path := by
  rcases hindered_or_usable before path with hindered | ⟨front, name, usable⟩
  · exact hindered
  · rw [parents_eq usable.toEndsIn, ← start_eq made.here] at folders
    have followed :
        middle.follow (middle.start path) (Path.parts path) =
          .ok ⟨goto (middle.start path) front ++ [name], false⟩ := by
      have short := usable.short
      rw [usable.split] at short ⊢
      exact follow_of_folders folders short usable.notIdle usable.notUp
    have located := locate_eq_ok_iff.mpr ⟨usable.sound, usable.path_ne, followed⟩
    have there := location_of_locate located
    rw [destination_eq made.here] at there
    rw [writeBytes, located] at refused
    dsimp only at there refused
    rw [there, if_neg (by decide)] at refused
    split at refused
    next found =>
      refine .folder ?_
      rcases made.places (before.destination path) with same | ⟨member, _, _⟩
      · exact .inl (same ▸ found)
      · exact .inr member
    next => cases refused
    next => cases refused

end MethodCodec.Directory
