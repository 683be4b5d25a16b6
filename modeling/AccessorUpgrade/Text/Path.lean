import AccessorUpgrade.Text.Segments

/-!
# Paths

A path is a text of names with slashes between them. What its names lead to is not decided here.
-/

namespace AccessorUpgrade.Path

/-- The names in a path. Empty ones do not count. -/
def names (path : String) : List String :=
  ((Text.segments '/' path.toList).map String.ofList).filter (· != "")

/-- Whether a path does not depend on the directory it is used in. -/
def isAbsolute (path : String) : Bool := path.toList.head? == some '/'

/-- Whether a path ends with a slash. -/
def endsWithSlash (path : String) : Bool := path.toList.getLast? == some '/'

/-- Whether a path names a file: it has names, and the last one is not that of the directory above.
A single dot names nothing. -/
def isNamed (path : String) : Bool :=
  ((names path).filter (· != ".")).getLast?.any (· != "..")

/-- What follows the last dot of a name. A dot at its start does not count. -/
def extensionOf? (name : List Char) : Option (List Char) :=
  match name.reverse.dropWhile (· != '.') with
  | [] => none
  | [_] => none
  | _ => some (name.reverse.takeWhile (· != '.')).reverse

/-- The extension of the last name in a path. -/
def extension? (path : String) : Option String :=
  (extensionOf? (Text.lastSegment '/' path.toList)).map String.ofList

/-- A path as it is meant in a file at another path: relative to the directory of that file. -/
def beside (file path : String) : String :=
  if isAbsolute path then path
  else String.ofList (file.toList.reverse.dropWhile (· != '/')).reverse ++ path

end AccessorUpgrade.Path
