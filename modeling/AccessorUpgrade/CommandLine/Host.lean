import AccessorUpgrade.CommandLine.Fault
import AccessorUpgrade.Settings

/-!
# Hosts

A run of the program needs files, variables of the environment, streams and a log, and the words of
libraries. A host provides them in some monad: the operating system does, and so does a workspace in
memory.
-/

namespace AccessorUpgrade.CommandLine

/-- What a run needs from outside. -/
structure Host (m : Type → Type) where
  /-- The text of a file. -/
  readFile : String → m (Except FileError String)
  /-- Makes a file, or changes it, to have a text. -/
  writeFile : String → String → m (Except FileError Unit)
  /-- The whole of standard input. -/
  readInput : m (Except FileError String)
  /-- The variables that are set, with their values. -/
  environment : m (List (String × String))
  /-- Whether the program has opened its log before. -/
  hasLog : m Bool
  /-- Why a text is no log filter, if it is none. -/
  filterFault? : String → m (Option String)
  /-- Opens the log of the program, with a filter and a form of entries, or tells why it cannot. -/
  openLog : String → LogFormat → m (Except String Unit)
  /-- How faults are put into words. -/
  wording : m Wording
  /-- Appends to standard output. -/
  putOutput : String → m (Except FileError Unit)
  /-- Appends to standard error. -/
  putError : String → m (Except FileError Unit)

end AccessorUpgrade.CommandLine
