import MethodCodec.DataFormat
import MethodCodec.Text.Numeral

/-!
Commands as they are typed: a name, and options behind it in any order.  Two things
that can be typed are no commands here and end in the report on usage: asking for
help, and asking for the completions of a shell.
-/

namespace MethodCodec

/-- What the program is asked to do. -/
inductive Command
  /-- Generates source. Without paths the project's settings decide. -/
  | generate (input output : Option String)
  | validate (input : String)
  | inspect (input : String) (format : DataFormat)
  /-- Decodes a payload typed in hexadecimal digits. -/
  | decode (input : String) (classId methodId : UInt16) (payload : String)
  /-- Starts a project, even where there is one already if `force` holds. -/
  | init (force : Bool)
  | version
  deriving DecidableEq

namespace Arguments

/-! ## Options -/

/-- An option by its names, the long one without its hyphens. -/
structure OptionSpec where
  long : String
  short : Option Char := none
  takesValue : Bool := true

/-- Whether an argument can be the value of an option before it. -/
def isValue (argument : String) : Bool :=
  match argument.toList with
  | '-' :: _ :: _ => false
  | _ => true

/-- Splits an option at its first equals sign. -/
def splitOption (body : List Char) : String × Option String :=
  let name := String.ofList (body.takeWhile (· != '='))
  match body.dropWhile (· != '=') with
  | [] => (name, none)
  | _ :: value => (name, some (String.ofList value))

/-- An option as an argument gives it, with the value attached to it. -/
def parseOption? (specs : List OptionSpec) (argument : String) :
    Option (OptionSpec × Option String) :=
  match argument.toList with
  | '-' :: '-' :: body =>
      match splitOption body with
      | (name, value) => (specs.find? fun spec => spec.long == name).map fun spec => (spec, value)
  | '-' :: letter :: body =>
      (specs.find? fun spec => spec.short == some letter).map fun spec =>
        match body with
        | [] => (spec, none)
        | '=' :: value => (spec, some (String.ofList value))
        | value => (spec, some (String.ofList value))
  | _ => none

/-- The options that arguments give, with their values, by long name. Each is
given once at most; nothing may follow two hyphens on their own. -/
def readOptions? (specs : List OptionSpec) (known : List (String × String)) :
    List String → Option (List (String × String))
  | [] => some known
  | ["--"] => some known
  | argument :: rest =>
      match parseOption? specs argument with
      | none => none
      | some (spec, attached) =>
          if (known.lookup spec.long).isSome then none
          else if spec.takesValue then
            match attached, rest with
            | some value, rest => readOptions? specs ((spec.long, value) :: known) rest
            | none, value :: rest =>
                if isValue value then readOptions? specs ((spec.long, value) :: known) rest
                else none
            | none, [] => none
          else if attached.isSome then none
          else readOptions? specs ((spec.long, "") :: known) rest

/-! ## Values -/

/-- A path among options; an empty one is refused. -/
def path? (options : List (String × String)) (name : String) : Option (Option String) :=
  match options.lookup name with
  | none => some none
  | some "" => none
  | some path => some (some path)

/-- A path that has to be among the options. -/
def requiredPath? (options : List (String × String)) (name : String) : Option String :=
  (path? options name).bind id

/-- A number of sixteen bits, which may have a sign. -/
def readWord? (text : String) : Option UInt16 :=
  match text.toList with
  | '-' :: digits =>
      (Text.readNumeral? 10 digits).bind fun number =>
        if number = 0 then some 0 else none
  | '+' :: digits => word? digits
  | digits => word? digits
where
  word? (digits : List Char) : Option UInt16 :=
    (Text.readNumeral? 10 digits).bind fun number =>
      if number < 65536 then some (UInt16.ofNat number) else none

/-! ## Commands -/

/-- The option for the document. -/
def inputOption : OptionSpec := { long := "input", short := some 'i' }

/-- The option for the generated source. -/
def outputOption : OptionSpec := { long := "output", short := some 'o' }

/-- Both paths may be left to the settings of the project. -/
def generate? (arguments : List String) : Option Command := do
  let options ← readOptions? [inputOption, outputOption] [] arguments
  return .generate (← path? options "input") (← path? options "output")

/-- The document has to be named. -/
def validate? (arguments : List String) : Option Command := do
  let options ← readOptions? [inputOption] [] arguments
  return .validate (← requiredPath? options "input")

/-- A protocol is shown as YAML if no format is asked for. -/
def inspect? (arguments : List String) : Option Command := do
  let options ← readOptions? [inputOption, { long := "format" }] [] arguments
  let format ← DataFormat.ofName? ((options.lookup "format").getD DataFormat.yaml.name)
  return .inspect (← requiredPath? options "input") format

/-- Every option is needed. The payload may be empty. -/
def decode? (arguments : List String) : Option Command := do
  let options ← readOptions?
    [inputOption, { long := "class-id" }, { long := "method-id" }, { long := "hex" }] []
    arguments
  let input ← requiredPath? options "input"
  let classId ← (options.lookup "class-id").bind readWord?
  let methodId ← (options.lookup "method-id").bind readWord?
  return .decode input classId methodId (← options.lookup "hex")

/-- The one option has no value. -/
def init? (arguments : List String) : Option Command := do
  let options ← readOptions? [{ long := "force", takesValue := false }] [] arguments
  return .init (options.lookup "force").isSome

end Arguments

/-- The command that arguments spell. Asking for help, with `help`, `-h` or `--help`
anywhere, and for `completions` spells none: what the program prints then is text
that no document and no file has a part in. -/
def Command.ofArguments? : List String → Option Command
  | [] => none
  | name :: arguments =>
      match name with
      | "generate" => Arguments.generate? arguments
      | "validate" => Arguments.validate? arguments
      | "inspect" => Arguments.inspect? arguments
      | "decode" => Arguments.decode? arguments
      | "init" => Arguments.init? arguments
      | "--version" => some .version
      | name =>
          match name.toList with
          | '-' :: 'V' :: _ => some .version
          | _ => none

end MethodCodec
