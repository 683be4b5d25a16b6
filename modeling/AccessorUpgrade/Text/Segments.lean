/-!
# Segments

A text cut at every occurrence of a separator. There is always at least one segment, and segments
may be empty.
-/

namespace AccessorUpgrade.Text

/-- The segments of a text between the occurrences of a separator. -/
def segments (separator : Char) : List Char → List (List Char)
  | [] => [[]]
  | c :: rest =>
    if c == separator then
      [] :: segments separator rest
    else
      match segments separator rest with
      | [] => [[c]]
      | first :: others => (c :: first) :: others

/-- What follows the last occurrence of a separator; the whole text if there is none. -/
def lastSegment (separator : Char) (s : List Char) : List Char :=
  (segments separator s).getLastD []

end AccessorUpgrade.Text
