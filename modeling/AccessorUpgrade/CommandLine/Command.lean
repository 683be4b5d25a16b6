import AccessorUpgrade.CommandLine.Options
import AccessorUpgrade.Settings

/-!
# The two parts of a command line

Flags for settings come first; the command begins with the first argument that is none. Arguments
need not be texts: those of an operating system are bytes, of which some may not be read. Section E7
of the specification has the flags, and section E8 the command.
-/

namespace AccessorUpgrade.CommandLine

/-- The flags for settings. -/
inductive Flag where
  /-- The path of the settings file. -/
  | file
  | setting (key : Settings.Key)
deriving DecidableEq, Repr

namespace Flag

/-- The name of a flag, without its two hyphens. -/
def long : Flag → String
  | file => "config-path"
  | setting .projectName => "project-name"
  | setting .logFilter => "log-filter"
  | setting .logFormat => "log-format"

/-- The letter of a flag. -/
def letter : Flag → Option Char
  | file => none
  | setting .projectName => some 'p'
  | setting .logFilter => some 'l'
  | setting .logFormat => some 'L'

/-- All flags. -/
def all : List Flag := [file, setting .projectName, setting .logFilter, setting .logFormat]

/-- The flags as options. All of them take a value. -/
def options : List (KnownOption Flag) := all.map fun flag => ⟨flag, flag.long, flag.letter, .value⟩

/-- Whether an argument is a flag with its long name, and then whether its value is to follow. -/
def awaitsValue? (arg : String) : Option Bool :=
  match Shape.of arg with
  | .long name value => if all.any (·.long == name) then some value.isNone else none
  | _ => none

end Flag

/-- A command line in two parts, each of them after the name of the program. -/
structure Split (α : Type) where
  settings : List α
  command : List α
deriving DecidableEq, Repr

namespace Split

variable {α : Type}

/-- Adds arguments to those that have been taken, as long as they belong to the leading flags, given
whether a flag waits for its value. What follows a flag without a value is its value, whatever it
looks like. Only as much of an argument is looked at as can be read as text. -/
def takeFlags (text : α → String) (taken : List α) : Bool → List α → List α
  | _, [] => taken
  | true, value :: rest => takeFlags text (taken ++ [value]) false rest
  | false, arg :: rest =>
    match Flag.awaitsValue? (text arg) with
    | some awaiting => takeFlags text (taken ++ [arg]) awaiting rest
    | none => taken

/-- The name of the program and the leading flags. -/
def leading (text : α → String) : List α → List α
  | [] => []
  | program :: args => takeFlags text [program] false args

/-- The place in a command line where the command starts. -/
def commandStart (text : α → String) (line : List α) : Nat := (leading text line).length

/-- Splits a command line. -/
def ofLine (text : α → String) (line : List α) : Split α :=
  ⟨leading text line, line.take 1 ++ line.drop (commandStart text line)⟩

end Split

/-- The options of the command. -/
inductive CommandOption where
  | output
  | pretty
  | help
  | version
deriving DecidableEq, Repr

/-- All options of the command. -/
def commandOptions : List (KnownOption CommandOption) :=
  [⟨.output, "output", some 'o', .value⟩, ⟨.pretty, "pretty", none, .switch⟩,
    ⟨.help, "help", some 'h', .help⟩, ⟨.version, "version", some 'V', .version⟩]

/-- What is to be done. -/
structure Command where
  /-- The file to read, or a hyphen for standard input. -/
  input : String
  /-- The file to write, if not standard output. -/
  output : Option String
  pretty : Bool
deriving DecidableEq, Repr

namespace Command

/-- The command that arguments stand for. -/
def ofArguments (args : List String) : Except Halt Command :=
  match readArguments commandOptions 1 .empty none args with
  | .error halt => .error halt
  | .ok given =>
    match given.operands with
    | [] => .error (.missingOperand "INPUT")
    | input :: _ => .ok ⟨input, given.value? .output, (given.value? .pretty).isSome⟩

/-- Whether the batch comes from standard input. -/
def readsInput (c : Command) : Bool := c.input == "-"

end Command

/-- What the flags say: a settings file, and settings. -/
structure FlagSettings where
  file : Option String
  projectName : Option String
  logFilter : Option String
  logFormat : Option LogFormat
deriving DecidableEq, Repr

namespace FlagSettings

/-- The form of log entries that a flag names, in letters of either case. -/
def logFormatOf (text : String) : Except Halt LogFormat :=
  match LogFormat.ofText? text with
  | some f => .ok f
  | none => .error (.invalidValue (Flag.setting .logFormat).long text)

/-- The settings that flags make. -/
def ofArguments (args : List String) : Except Halt FlagSettings :=
  match readArguments Flag.options 0 .empty none args with
  | .error halt => .error halt
  | .ok given =>
    let text (key : Settings.Key) := given.value? (.setting key)
    ((text .logFormat).mapM logFormatOf).map fun logFormat =>
      ⟨given.value? .file, text .projectName, text .logFilter, logFormat⟩

/-- Flags that say what holds by default, and nothing else. -/
def redundant : FlagSettings :=
  ⟨none, none, some Settings.default.logFilter, some Settings.default.logFormat⟩

/-- The settings of flags as a layer. Flags that say all that holds by default, and nothing else,
make no layer, and so leave weaker layers in force. -/
def layer (flags : FlagSettings) : Json :=
  if flags == redundant then .record []
  else
    let member (key : Settings.Key) (value : Option String) : List (String × Json) :=
      (value.map fun s => (key.name, Json.string s)).toList
    .record (member .projectName flags.projectName ++ member .logFilter flags.logFilter ++
      member .logFormat (flags.logFormat.map LogFormat.word))

end FlagSettings

end AccessorUpgrade.CommandLine
