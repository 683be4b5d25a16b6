import AccessorUpgrade.CommandLine.Options
import AccessorUpgrade.Format.DecodeError
import AccessorUpgrade.Settings.File

/-!
# Faults of a run

Why a run does not get to its end, and what is shown then. Faults of arguments, settings and texts
are found by libraries, which have words of their own for them; those are a `Wording` here, and the
program only says before them what it was about to do.
-/

namespace AccessorUpgrade.CommandLine

/-- Why a file or a stream cannot be read or written. -/
inductive FileError where
  | notFound
  | notDirectory
  | isDirectory
  | nameTooLong
  | zeroInName
  | notUtf8
  | other (text : String)
deriving DecidableEq, Repr

/-- The error as it is shown to users. -/
def FileError.message : FileError → String
  | notFound => "No such file or directory (os error 2)"
  | notDirectory => "Not a directory (os error 20)"
  | isDirectory => "Is a directory (os error 21)"
  | nameTooLong => "File name too long (os error 36)"
  | zeroInName => "file name contained an unexpected NUL byte"
  | notUtf8 => "stream did not contain valid UTF-8"
  | other text => text

/-- Why there are no settings. -/
inductive SettingsFault where
  | flags (halt : Halt)
  | unnamed (path : String)
  | unreadable (path : String) (error : FileError)
  /-- By its name, the file is not in a format that can be read. -/
  | otherFormat (path : String)
  | notToml (path : String)
  /-- What the file says about its base is no path. -/
  | invalidBase (path : String)
  /-- One base leads to another without an end. -/
  | endless (path : String)
  | unfit (error : DecodeError)
deriving DecidableEq, Repr

/-- Why there is no log. -/
inductive LogFault where
  /-- The filter of the settings is none. -/
  | filter (reason : String)
  /-- The log cannot be opened. -/
  | subscriber (reason : String)
deriving DecidableEq, Repr

/-- Why a run does not get to its end. -/
inductive Fault where
  | halt (halt : Halt)
  | settings (fault : SettingsFault)
  | log (fault : LogFault)
  | input (source : String) (error : FileError)
  /-- A text is no batch. -/
  | batch (text : String) (error : DecodeError)
  | output (target : String) (error : FileError)
  /-- The report has been written, but a diagnostic cannot be shown. -/
  | diagnostics (error : FileError)
deriving DecidableEq, Repr

/-- Whether a fault is only a wish to know more about the program. -/
def Fault.isEnquiry : Fault → Bool
  | halt .help => true
  | halt .version => true
  | _ => false

/-! ## Words -/

/-- The words of libraries for the faults that they find. -/
structure Wording where
  /-- What is shown of arguments that are not carried out. -/
  usage : Halt → String
  /-- Why there are no settings. -/
  settings : SettingsFault → String
  /-- Why a text is no batch. The words may tell the place in the text. -/
  batch : String → DecodeError → String

/-- Why there is no log, in words. -/
def LogFault.message : LogFault → String
  | filter reason => "invalid log filter: " ++ reason
  | subscriber reason => "failed to install telemetry subscriber: " ++ reason

/-- What is shown when a run does not get to its end. -/
def Fault.message (words : Wording) : Fault → String
  | halt h => words.usage h
  | settings fault => "failed to load configuration: " ++ words.settings fault
  | log fault => fault.message
  | input source error => "failed to read input " ++ source ++ ": " ++ error.message
  | batch text error => "failed to parse method batch: " ++ words.batch text error
  | output target error => "failed to write report to " ++ target ++ ": " ++ error.message
  | diagnostics error => "failed to report diagnostics: " ++ error.message

/-! ## Plain words -/

/-- The name and the version of the program. -/
def versionText : String := "propshim 0.1.0\n"

/-- How the program is called. -/
def usageLine : String := "Usage: propshim [OPTIONS] <INPUT>\n"

/-- What the program does and how it is called. -/
def helpText : String :=
  "Reads annotated accessor methods and reports the interception requests that keep their " ++
    "pre-upgrade call sites working\n\n" ++ usageLine ++ "\nArguments:\n" ++
    "  <INPUT>  JSON batch of annotated methods, or `-` for standard input\n\nOptions:\n" ++
    "  -o, --output <FILE>  Writes the report to this file instead of standard output\n" ++
    "      --pretty         Pretty-prints the JSON report\n" ++
    "  -h, --help           Print help\n  -V, --version        Print version\n"

/-- Why arguments are refused, in words. -/
def Halt.reason : Halt → String
  | help => "help is wanted"
  | version => "the version is wanted"
  | unexpectedArgument arg => "unexpected argument '" ++ arg ++ "' found"
  | unexpectedValue option => "unexpected value for '--" ++ option ++ "' found"
  | missingValue option => "a value is required for '--" ++ option ++ "' but none was supplied"
  | invalidValue option value => "invalid value '" ++ value ++ "' for '--" ++ option ++ "'"
  | repeated option => "the argument '--" ++ option ++ "' cannot be used multiple times"
  | missingOperand operand => "the following required arguments were not provided: " ++ operand

/-- What is shown when arguments are not carried out. -/
def Halt.text : Halt → String
  | help => helpText
  | version => versionText
  | h => "error: " ++ h.reason ++ "\n\n" ++ usageLine ++
      "\nFor more information, try '--help'.\n"

/-- Why there are no settings, in words. -/
def SettingsFault.message : SettingsFault → String
  | flags h => h.reason
  | unnamed path => path ++ ": not the name of a file"
  | unreadable path error => path ++ ": " ++ error.message
  | otherFormat path => path ++ ": not a format that can be read"
  | notToml path => path ++ ": not a TOML file"
  | invalidBase path => path ++ ": '" ++ Settings.File.baseKey ++ "' is not a path"
  | endless path => path ++ ": extends too many files"
  | unfit error => error.message

/-- A wording for hosts that have no other. It tells no place in a text. -/
def Wording.plain : Wording := ⟨Halt.text, SettingsFault.message, fun _ error => error.message⟩

end AccessorUpgrade.CommandLine
