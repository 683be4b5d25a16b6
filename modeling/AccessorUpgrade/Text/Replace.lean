/-!
# Replacing a part of a text
-/

namespace AccessorUpgrade.Text

/-- The text with the first occurrence of `old` replaced by `new`; the text itself if there is none.
-/
def replaceFirst (old new : List Char) : List Char → List Char
  | [] => if old.isEmpty then new else []
  | c :: rest =>
    match old.isPrefixOf? (c :: rest) with
    | some tail => new ++ tail
    | none => c :: replaceFirst old new rest

end AccessorUpgrade.Text
