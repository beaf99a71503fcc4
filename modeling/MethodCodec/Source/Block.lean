/-!
Source text as a list of lines, with blocks between braces one step further in.
-/

namespace MethodCodec.Source

/-- A line one step further in. -/
def indent (line : String) : String :=
  if line.isEmpty then line else "    " ++ line

/-- Lines between a head with an opening brace and a given closing line. -/
def blockUntil (closing head : String) (body : List String) : List String :=
  (head ++ " \x7b") :: body.map indent ++ [closing]

/-- Lines between braces. -/
def block (head : String) (body : List String) : List String :=
  blockUntil "\x7d" head body

/-- Lines with a line break between each two. -/
def joinLines : List String → String
  | [] => ""
  | [line] => line
  | line :: rest => line ++ "\n" ++ joinLines rest

/-- Lines with a line break after each. -/
def endLines : List String → String
  | [] => ""
  | line :: rest => line ++ "\n" ++ endLines rest

/-- Items with a comma and a space between each two. -/
def joinItems : List String → String
  | [] => ""
  | [item] => item
  | item :: rest => item ++ ", " ++ joinItems rest

end MethodCodec.Source
