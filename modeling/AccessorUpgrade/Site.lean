/-!
# Declaration sites
-/

namespace AccessorUpgrade

/-- Where a method is declared. Lines and columns count from one; zero stands for an unknown
position. -/
structure Site where
  file : Option String
  line : UInt32
  column : UInt32
deriving DecidableEq, Repr

namespace Site

/-- The site of a method that is declared nobody knows where. -/
def unknown : Site := ⟨none, 0, 0⟩

/-- File, line and column with colons between them. -/
def text (site : Site) : String :=
  site.file.getD "<unknown>" ++ ":" ++ site.line.toNat.repr ++ ":" ++ site.column.toNat.repr

/-- Whether the site helps a reader to find the declaration: the file or at least the line is known.
-/
def isLocated (site : Site) : Bool := site.file.isSome || 0 < site.line

end Site

end AccessorUpgrade
