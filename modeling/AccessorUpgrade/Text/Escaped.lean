import AccessorUpgrade.Text.Hex

/-!
# Escapes

Texts between double quotes in which a backslash starts an escape: one letter for the usual control
characters, or a code point in four or eight hexadecimal digits.
-/

namespace AccessorUpgrade.Text

/-- The character of a code point in so many hexadecimal digits, and what follows. -/
def scalar? (count : Nat) (s : List Char) : Option (Char × List Char) :=
  let digits := s.take count
  match digits.mapM hexValue? with
  | none => none
  | some values =>
    let n := values.foldl (fun n v => 16 * n + v) 0
    if digits.length == count && n.isValidChar then some (Char.ofNat n, s.drop count) else none

/-- The character of a short escape. -/
def shortEscape? : Char → Option Char
  | 'b' => some '\x08'
  | 't' => some '\t'
  | 'n' => some '\n'
  | 'f' => some '\x0c'
  | 'r' => some '\r'
  | '"' => some '"'
  | '\\' => some '\\'
  | _ => none

/-- The character of an escape, given what follows its backslash, and the text after it. -/
def unescape : List Char → Option (Char × List Char)
  | [] => none
  | 'u' :: rest => scalar? 4 rest
  | 'U' :: rest => scalar? 8 rest
  | c :: rest => (shortEscape? c).map (·, rest)

/-- Whether a character must not stand in a text as itself: a control character other than the tab.
-/
def isControl (c : Char) : Bool := (c.toNat < 0x20 && c != '\t') || c.toNat == 0x7f

/-- The text up to the double quote that ends it, and what follows, if the quote is among the first
`bound` characters. -/
def escapedWithin (bound : Nat) (s : List Char) : Option (List Char × List Char) :=
  match bound, s with
  | 0, _ => none
  | _, [] => none
  | _, '"' :: rest => some ([], rest)
  | bound + 1, '\\' :: rest => do
    let (first, rest) ← unescape rest
    let (text, rest) ← escapedWithin bound rest
    return (first :: text, rest)
  | bound + 1, c :: rest =>
    if isControl c then none
    else do
      let (text, rest) ← escapedWithin bound rest
      return (c :: text, rest)

/-- The text up to the double quote that ends it, and what follows. -/
def escaped (s : List Char) : Option (List Char × List Char) := escapedWithin s.length s

end AccessorUpgrade.Text
