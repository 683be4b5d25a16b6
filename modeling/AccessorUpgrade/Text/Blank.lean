import AccessorUpgrade.Text.CodePoints

/-!
# White space

The Unicode property White_Space, and trimming by it.
-/

namespace AccessorUpgrade.Text

/-- The code points with the property White_Space. -/
def whiteSpace : CodeRanges :=
  [(0x9, 0xd), (0x20, 0x20), (0x85, 0x85), (0xa0, 0xa0), (0x1680, 0x1680), (0x2000, 0x200a),
    (0x2028, 0x2029), (0x202f, 0x202f), (0x205f, 0x205f), (0x3000, 0x3000)]

/-- Whether a character is white space. -/
def isBlank (c : Char) : Bool := whiteSpace.has c.toNat

/-- Drops white space at the start. -/
def trimLeft (s : List Char) : List Char := s.dropWhile isBlank

/-- Drops white space at the end. -/
def trimRight (s : List Char) : List Char := (s.reverse.dropWhile isBlank).reverse

/-- Drops white space at both ends. -/
def trim (s : List Char) : List Char := trimRight (trimLeft s)

end AccessorUpgrade.Text
