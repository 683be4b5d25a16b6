import AccessorUpgrade.CommandLine.Command
import AccessorUpgrade.CommandLine.Host
import AccessorUpgrade.Format.Outcome
import AccessorUpgrade.Json.Printer
import AccessorUpgrade.Settings.Environment
import AccessorUpgrade.Settings.File

/-!
# A run of the program

Understands the command line, puts the settings together, opens the log, reads a batch, writes the
report and shows the diagnostics. What cannot be done ends the run with a message on standard error.

`attempt` takes the steps of sections E6 to E8 of the specification in their order, `openLog` is its
installation of telemetry, and `Diagnostic.line` what is echoed.
-/

namespace AccessorUpgrade.CommandLine

/-- How a run ends. -/
inductive Exit where
  | success
  | failure
deriving DecidableEq, Repr

section

variable {m : Type → Type} [Monad m]

/-- The settings file that counts, when no flag names one. -/
def usualFile : String := ".propshim.toml"

/-- How many bases may lie under a file. A file that leads back to itself has more. -/
def baseLimit : Nat := 1000

/-- The settings in a file with a given text, over those in its base, of which there may be `bound`.
-/
def readLayer (host : Host m) (bound : Nat) (path text : String) :
    m (Except SettingsFault Json) := do
  if Settings.File.isOtherFormat path then
    return .error (.otherFormat path)
  else
    match Toml.read? text with
    | none => return .error (.notToml path)
    | some document =>
      match Settings.File.baseOf document, bound with
      | .none, _ => return .ok document
      | .invalid, _ => return .error (.invalidBase path)
      | .path _, 0 => return .error (.endless path)
      | .path base, bound + 1 =>
        let base := Path.beside path base
        match ← host.readFile base with
        | .error e => return .error (.unreadable base e)
        | .ok text => return (← readLayer host bound base text).map (·.overlay document)

/-- The settings in the first of some files that can be read. A file that is not there does not
matter; one that is no settings file, like the one a fault is given of, matters only if none can be
read. -/
def readUsualFiles (host : Host m) (fault : Option SettingsFault) :
    List String → m (Except SettingsFault Json)
  | [] => return fault.elim (.ok (.record [])) .error
  | path :: others => do
    if !Path.isNamed path then readUsualFiles host (some (.unnamed path)) others
    else
      match ← host.readFile path with
      | .error .notFound => readUsualFiles host fault others
      | .error e => readUsualFiles host (some (.unreadable path e)) others
      | .ok text =>
        match ← readLayer host baseLimit path text with
        | .ok layer => return .ok layer
        | .error fault => readUsualFiles host (some fault) others

/-- The settings in the file that a flag names. -/
def readNamedFile (host : Host m) (path : String) : m (Except SettingsFault Json) := do
  match ← host.readFile path with
  | .error e => return .error (.unreadable path e)
  | .ok text => readLayer host baseLimit path text

/-- The settings files that count, when no flag names one: the one that a variable names before the
usual one. -/
def usualFiles (environment : List (String × String)) : List String :=
  let named := (environment.find? (·.1 == Settings.fileVariable)).map (·.2)
  (named.filter (!·.isEmpty)).toList ++ [usualFile]

/-- The settings of a run, from its flags, the environment and a file. -/
def loadSettings (host : Host m) (args : List String) : m (Except SettingsFault Settings) := do
  match FlagSettings.ofArguments args with
  | .error halt => return .error (.flags halt)
  | .ok flags =>
    let environment ← host.environment
    let file ←
      match flags.file with
      | some path => readNamedFile host path
      | none => readUsualFiles host none (usualFiles environment)
    match file with
    | .error fault => return .error fault
    | .ok layer =>
      let layers := [layer, Settings.ofVariables environment, flags.layer]
      return (Settings.ofLayers layers).mapError .unfit

/-- Opens the log as the settings say. A log that the program has opened before stays as it is, and
the settings do not count. -/
def openLog (host : Host m) (settings : Settings) : m (Except LogFault Unit) := do
  if ← host.hasLog then
    return .ok ()
  else
    match ← host.filterFault? settings.logFilter with
    | some reason => return .error (.filter reason)
    | none =>
      return (← host.openLog settings.logFilter settings.logFormat).mapError .subscriber

/-- The text of a batch. -/
def readBatchText (host : Host m) (command : Command) : m (Except Fault String) := do
  if command.readsInput then
    return (← host.readInput).mapError (.input "<stdin>")
  else
    return (← host.readFile command.input).mapError (.input command.input)

/-- The text of a report, in one line or with indentation. -/
def reportText (pretty : Bool) (report : Report) : String :=
  let json := Report.format.encode report
  (if pretty then json.pretty else json.compact) ++ "\n"

/-- Writes a report to where it belongs. -/
def writeReport (host : Host m) (command : Command) (report : Report) : m (Except Fault Unit) := do
  let text := reportText command.pretty report
  match command.output with
  | none => return (← host.putOutput text).mapError (.output "<stdout>")
  | some path => return (← host.writeFile path text).mapError (.output path)

/-- Shows lines on standard error, up to the first that cannot be shown. -/
def showLines (host : Host m) : List String → m (Except Fault Unit)
  | [] => return .ok ()
  | line :: lines => do
    match ← host.putError line with
    | .error e => return .error (.diagnostics e)
    | .ok () => showLines host lines

/-- The report on a batch, in the project that the settings name. -/
def reportOn (settings : Settings) (batch : Batch) : Report :=
  .ofBatch (.standard (settings.projectName.bind Project.ofName?)) batch

/-- Carries a command out. -/
def carryOut (host : Host m) (command : Command) (settings : Settings) : m (Except Fault Exit) := do
  match ← readBatchText host command with
  | .error fault => return .error fault
  | .ok text =>
    match Batch.format.ofText text with
    | .error e => return .error (.batch text e)
    | .ok batch =>
      let report := reportOn settings batch
      match ← writeReport host command report with
      | .error fault => return .error fault
      | .ok () =>
        match ← showLines host report.diagnosticLines with
        | .error fault => return .error fault
        | .ok () => return .ok (if report.hasFailures then .failure else .success)

/-- Carries a command line out, up to the message about a fault. -/
def attempt (host : Host m) (line : List String) : m (Except Fault Exit) := do
  let split := Split.ofLine id line
  match Command.ofArguments (split.command.drop 1) with
  | .error halt => return .error (.halt halt)
  | .ok command =>
    match ← loadSettings host (split.settings.drop 1) with
    | .error fault => return .error (.settings fault)
    | .ok settings =>
      match ← openLog host settings with
      | .error fault => return .error (.log fault)
      | .ok () => carryOut host command settings

/-- Carries a command line out. The first word of the line is the name of the program. A message
that cannot be shown is lost. -/
def run (host : Host m) (line : List String) : m Exit := do
  match ← attempt host line with
  | .ok exit => return exit
  | .error fault =>
    let text := fault.message (← host.wording) ++ "\n"
    if fault.isEnquiry then
      let _ ← host.putOutput text
      return .success
    else
      let _ ← host.putError text
      return .failure

end

end AccessorUpgrade.CommandLine
