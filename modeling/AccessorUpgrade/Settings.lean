import AccessorUpgrade.Format.Record
import AccessorUpgrade.Json.Overlay

/-!
# Settings

The settings of a run are put together from layers: what the command line says counts before the
environment, the environment before the settings file, and the file before what holds by default. A
layer is an object that gives values to keys without knowing what they are for; only the value that
counts has to fit. The keys and their defaults are those of section E7 of the specification.
-/

namespace AccessorUpgrade

/-- The forms of log entries. -/
inductive LogFormat where
  | json
  | compact
deriving DecidableEq, Repr

namespace LogFormat

/-- All forms. -/
def all : List LogFormat := [json, compact]

/-- The word for a form. -/
def word : LogFormat → String
  | json => "json"
  | compact => "compact"

/-- The form that a word names, exactly as it is spelled. -/
def ofWord? (word : String) : Option LogFormat := all.find? (·.word == word)

/-- The form that a text names, in ASCII letters of either case. -/
def ofText? (text : String) : Option LogFormat := ofWord? (text.map Char.toLower)

/-- Forms as JSON. -/
def format : Format LogFormat := .constants all word

end LogFormat

/-- The settings of a run. -/
structure Settings where
  projectName : Option String
  logFilter : String
  logFormat : LogFormat
deriving DecidableEq, Repr

namespace Settings

/-- What holds if no layer says otherwise. -/
def default : Settings := ⟨none, "info", .json⟩

/-- The keys of settings in layers. -/
inductive Key where
  | projectName
  | logFilter
  | logFormat
deriving DecidableEq, Repr

/-- The name of a key. -/
def Key.name : Key → String
  | projectName => "project_name"
  | logFilter => "log_filter"
  | logFormat => "log_format"

/-- Settings as JSON. -/
def format : Format Settings :=
  ((Fields.cons (.withDefault Key.projectName.name (Format.nullable .string) none) <|
    .cons (.required Key.logFilter.name .string) <|
    .cons (.required Key.logFormat.name LogFormat.format) .nil).map
    (fun (projectName, logFilter, logFormat, ()) => ⟨projectName, logFilter, logFormat⟩)
    fun s => (s.projectName, s.logFilter, s.logFormat, ())).format "struct Config"

/-- The settings that follow from layers, the weakest first, over what holds by default. -/
def ofLayers (layers : List Json) : Except DecodeError Settings :=
  format.decode .tree (layers.foldl Json.overlay (format.encode default))

end Settings

end AccessorUpgrade
