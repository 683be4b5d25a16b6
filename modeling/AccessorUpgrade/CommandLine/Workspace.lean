import AccessorUpgrade.CommandLine.Host
import AccessorUpgrade.Text.Path

/-!
# Workspaces

A host in memory: the files in and below one directory, variables, streams and a log. Nothing is
known of what lies outside the directory. What libraries say is part of a workspace, too.
-/

namespace AccessorUpgrade.CommandLine

/-- The state of the world around a run. -/
structure Workspace where
  /-- Paths within the directory, as lists of names, and the texts of the files there. -/
  files : List (List String × String)
  /-- The variables of the environment, with their values. -/
  environment : List (String × String)
  /-- The bytes of standard input. -/
  input : ByteArray
  output : String
  error : String
  /-- The filter of the program's log and the form of its entries, once it is open. -/
  log : Option (String × LogFormat) := none
  /-- Why the process takes no log, if it takes none. -/
  logFault? : Option String := none
  /-- Why a text is no log filter, if it is none. -/
  filterFault? : String → Option String := fun _ => none
  /-- How faults are put into words. -/
  wording : Wording := .plain

namespace Workspace

/-- The greatest number of bytes in a name. -/
def nameLimit : Nat := 255

/-- The greatest number of bytes in a path. -/
def pathLimit : Nat := 4095

/-- Where a path leads. -/
inductive Place where
  /-- A directory outside the workspace. -/
  | outside
  | directory (path : List String)
  | file (path : List String) (text : String)
  /-- Nothing yet, in a directory that is there. -/
  | vacant (path : List String)
deriving DecidableEq, Repr

/-- Whether there is a directory below that of the workspace. -/
def hasDirectory (w : Workspace) (path : List String) : Bool :=
  w.files.any fun (other, _) => path.isPrefixOf other && path != other

/-- The place of a name in a directory of the workspace. -/
def inDirectory (w : Workspace) (path : List String) : Place :=
  match w.files.find? (·.1 == path) with
  | some (_, text) => .file path text
  | none => if w.hasDirectory path then .directory path else .vacant path

/-- The place that a name leads to from another place. -/
def enter (w : Workspace) (place : Place) (name : String) : Except FileError Place :=
  match place with
  | .file .. => .error .notDirectory
  | .vacant _ => .error .notFound
  | .outside =>
    if name == "." || name == ".." then .ok .outside
    else if nameLimit < name.utf8ByteSize then .error .nameTooLong
    else .error .notFound
  | .directory path =>
    if name == "." then .ok (.directory path)
    else if name == ".." then .ok (if path.isEmpty then .outside else .directory path.dropLast)
    else if nameLimit < name.utf8ByteSize then .error .nameTooLong
    else .ok (w.inDirectory (path ++ [name]))

/-- The place that names lead to, one after another. The first ones may lead out of the workspace.
-/
def follow (w : Workspace) (isAbsolute : Bool) (names : List String) : Except FileError Place :=
  names.foldlM w.enter (if isAbsolute then .outside else .directory [])

/-- Why a text is no path at all. -/
def pathFault? (path : String) : Option FileError :=
  if path.toList.contains '\x00' then some .zeroInName
  else if path == "" then some .notFound
  else if pathLimit < path.utf8ByteSize then some .nameTooLong
  else none

/-- The place that a path leads to. -/
def locate (w : Workspace) (path : String) : Except FileError Place :=
  match pathFault? path with
  | some e => .error e
  | none => w.follow (Path.isAbsolute path) (Path.names path)

/-- The text of a file. -/
def read (w : Workspace) (path : String) : Except FileError String :=
  match w.locate path with
  | .error e => .error e
  | .ok (.file _ text) => if Path.endsWithSlash path then .error .notDirectory else .ok text
  | .ok (.vacant _) => .error .notFound
  | .ok _ => .error .isDirectory

/-- The place that a file is written to. A slash after a name makes it that of a directory, which is
found out before the name is looked up. -/
def target (w : Workspace) (path : String) : Except FileError Place :=
  match pathFault? path with
  | some e => .error e
  | none =>
    let names := Path.names path
    match names.getLast? with
    | none => .error .isDirectory
    | some last =>
      if Path.endsWithSlash path && last != "." && last != ".." then
        match w.follow (Path.isAbsolute path) names.dropLast with
        | .error e => .error e
        | .ok (.file ..) => .error .notDirectory
        | .ok (.vacant _) => .error .notFound
        | .ok _ => .error .isDirectory
      else w.follow (Path.isAbsolute path) names

/-- The workspace with a file made or changed. -/
def write (w : Workspace) (path text : String) : Except FileError Workspace :=
  match w.target path with
  | .error e => .error e
  | .ok (.file place _) =>
    .ok { w with files := w.files.map fun (other, old) =>
      (other, if other == place then text else old) }
  | .ok (.vacant place) => .ok { w with files := w.files ++ [(place, text)] }
  | .ok _ => .error .isDirectory

/-- The workspace as a host. -/
def host : Host (StateM Workspace) where
  readFile path := do return (← get).read path
  writeFile path text := do
    match (← get).write path text with
    | .error e => return .error e
    | .ok w =>
      set w
      return .ok ()
  readInput := do
    match String.fromUTF8? (← get).input with
    | some text => return .ok text
    | none => return .error .notUtf8
  environment := do return (← get).environment
  hasLog := do return (← get).log.isSome
  filterFault? filter := do return (← get).filterFault? filter
  openLog filter form := do
    match (← get).logFault? with
    | some reason => return .error reason
    | none =>
      modify fun w => { w with log := some (filter, form) }
      return .ok ()
  wording := do return (← get).wording
  putOutput text := do
    modify fun w => { w with output := w.output ++ text }
    return .ok ()
  putError text := do
    modify fun w => { w with error := w.error ++ text }
    return .ok ()

end Workspace

end AccessorUpgrade.CommandLine
