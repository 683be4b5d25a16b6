import AccessorUpgrade.Json.Overlay

/-!
# Tables in TOML

A table under construction. Its entries come from lines, from dotted keys and from headers, and
which of these made a table decides what may still be added to it.
-/

namespace AccessorUpgrade.Toml

/-- How a table has come about. -/
inductive Origin where
  /-- By a header of a table within it. -/
  | implied
  /-- By a dotted key. -/
  | dotted
  /-- By its own header. -/
  | header
deriving DecidableEq, Repr

/-- What a key stands for. -/
inductive Node where
  /-- A value, to which nothing can be added. -/
  | value (value : Json)
  | table (origin : Origin) (entries : List (String × Node))
  /-- A list of tables with headers of their own: those that are complete, and the last one. -/
  | tables (complete : List Json) (last : List (String × Node))
deriving Inhabited

/-- Keys and what they stand for. -/
abbrev Entries := List (String × Node)

namespace Entries

/-- What a key stands for. -/
def get? (entries : Entries) (key : String) : Option Node :=
  (List.find? (·.1 == key) entries).map (·.2)

/-- The entries with what a key stands for changed. -/
def set (entries : Entries) (key : String) (node : Node) : Entries :=
  entries.map fun (k, old) => (k, if k == key then node else old)

/-- The entries with a new key. -/
def add (entries : Entries) (key : String) (node : Node) : Entries := entries ++ [(key, node)]

end Entries

mutual

/-- What a key stands for, as JSON. -/
def Node.json : Node → Json
  | .value value => value
  | .table _ entries => .record (membersOf entries)
  | .tables complete last => .list (complete ++ [.record (membersOf last)])

/-- Entries as members of an object. -/
def membersOf : List (String × Node) → List (String × Json)
  | [] => []
  | (key, node) :: rest => (key, node.json) :: membersOf rest

end

/-- Changes the table at the end of a path of keys, where `created` tells how tables on the way come
about that are not there yet. A path leads through the last table of a list of tables. No path leads
through a value; the path of a dotted key does not lead through a table that its header has opened
either. -/
def changeAt (created : Origin) (change : Origin → Entries → Option Entries) :
    List String → Origin → Entries → Option Entries
  | [], origin, entries => change origin entries
  | key :: path, _, entries =>
    match entries.get? key with
    | none =>
      (changeAt created change path created []).map fun inner =>
        entries.add key (.table created inner)
    | some (.table origin inner) =>
      if created == .dotted && origin == .header then none
      else
        (changeAt created change path origin inner).map fun inner =>
          entries.set key (.table origin inner)
    | some (.tables complete last) =>
      (changeAt created change path .header last).map fun last =>
        entries.set key (.tables complete last)
    | some (.value _) => none

/-- Adds a key to the table at a path, unless it is there already. A dotted key adds to no tables
but those that dotted keys have made. -/
def addEntry (table path : List String) (value : Json) (entries : Entries) : Option Entries :=
  match path.getLast? with
  | none => none
  | some key =>
    let insert (origin : Origin) (entries : Entries) : Option Entries :=
      if 1 < path.length && origin != .dotted then none
      else
        match entries.get? key with
        | none => some (entries.add key (.value value))
        | some _ => none
    changeAt .implied (changeAt .dotted insert path.dropLast) table .header entries

/-- Opens the table at a path by its header. A table has one header at most. -/
def openTable (path : List String) (entries : Entries) : Option Entries :=
  match path.getLast? with
  | none => none
  | some key =>
    let create (_ : Origin) (entries : Entries) : Option Entries :=
      match entries.get? key with
      | none => some (entries.add key (.table .header []))
      | some (.table .implied inner) => some (entries.set key (.table .header inner))
      | some _ => none
    changeAt .implied create path.dropLast .header entries

/-- Opens one more table in the list of tables at a path. -/
def openItem (path : List String) (entries : Entries) : Option Entries :=
  match path.getLast? with
  | none => none
  | some key =>
    let create (_ : Origin) (entries : Entries) : Option Entries :=
      match entries.get? key with
      | none => some (entries.add key (.tables [] []))
      | some (.tables complete last) =>
        some (entries.set key (.tables (complete ++ [.record (membersOf last)]) []))
      | some _ => none
    changeAt .implied create path.dropLast .header entries

end AccessorUpgrade.Toml
