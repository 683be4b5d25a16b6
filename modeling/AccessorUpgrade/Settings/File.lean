import AccessorUpgrade.Text.Path
import AccessorUpgrade.Toml.Document

/-!
# Settings files

A settings file is a TOML document, whatever its name, unless the name says that it is written in
another format. A file may extend another one, its base, which then lies under it.
-/

namespace AccessorUpgrade.Settings.File

/-- The extensions of other formats. -/
def otherFormats : List String := ["json", "json5", "yaml", "yml"]

/-- Whether the name at the end of a path says that the file is no TOML document. -/
def isOtherFormat (path : String) : Bool :=
  (Path.extension? path).any fun extension => otherFormats.contains (extension.map Char.toLower)

/-- The key of the path of the base. -/
def baseKey : String := "extends"

/-- The base of a file. -/
inductive Base where
  | none
  | path (path : String)
  /-- The key of the base has no path. -/
  | invalid
deriving DecidableEq, Repr

/-- The base that a document names. -/
def baseOf (document : Json) : Base :=
  match Json.lookup baseKey document.members with
  | none => .none
  | some (.string path) => if path.isEmpty then .invalid else .path path
  | some _ => .invalid

end AccessorUpgrade.Settings.File
