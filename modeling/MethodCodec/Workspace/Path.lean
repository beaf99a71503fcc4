import MethodCodec.DataFormat

/-!
Paths as texts: parts between slashes, where empty parts and single dots behind
the first part say nothing about the place.
-/

namespace MethodCodec.Path

/-- The texts between slashes. -/
def splitParts : List Char → List (List Char)
  | [] => [[]]
  | c :: rest =>
      match splitParts rest with
      | [] => [[c]]
      | part :: parts => if c = '/' then [] :: part :: parts else (c :: part) :: parts

def parts (path : String) : List String :=
  (splitParts path.toList).map String.ofList

/-- The parts with slashes between them. -/
def joinParts : List String → String
  | [] => ""
  | [part] => part
  | part :: rest => part ++ "/" ++ joinParts rest

/-- Whether a part says nothing about the place. -/
def isIdle (part : String) : Bool :=
  part == "" || part == "."

/-- Whether a path is followed from the outermost folder. -/
def isAbsolute (path : String) : Bool :=
  path.toList.head? == some '/'

/-- The parts of a path without idle ones at its end, except the first. -/
def trimEnd (parts : List String) : List String :=
  match parts with
  | [] => []
  | first :: rest => first :: (rest.reverse.dropWhile isIdle).reverse

/-- The path of the folder that a path's last part is in: the text before the
last part, or nothing for a path of one part. -/
def parent? (path : String) : Option String :=
  match trimEnd (parts path) with
  | [] | [""] => none
  | [_] => some ""
  | first :: rest =>
      match trimEnd ((first :: rest).dropLast) with
      | [""] => some "/"
      | front => some (joinParts front)

/-- The last part of a path that names something. -/
def fileName? (path : String) : Option String :=
  match (trimEnd (parts path)).getLast? with
  | some part => if isIdle part || part == ".." then none else some part
  | none => none

/-- The text behind the last dot of a file name. A dot at its start does not
count. -/
def extension? (path : String) : Option String :=
  match fileName? path with
  | none => none
  | some name =>
      let front := name.toList.reverse.dropWhile (· != '.')
      match front with
      | [] | ['.'] => none
      | _ => some (String.ofList (name.toList.reverse.takeWhile (· != '.')).reverse)

/-- The format of the document at a path. Without an extension it is JSON, and
with one that is not JSON's it is YAML. -/
def dataFormat (path : String) : DataFormat :=
  if (extension? path).getD DataFormat.json.name = DataFormat.json.name then .json else .yaml

end MethodCodec.Path
