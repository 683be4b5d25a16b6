import AccessorUpgrade.Text.Escaped

/-!
# Texts in TOML

A text stands between double quotes, with escapes, or between single quotes, as it is. Three quotes
on either side allow it to go over several lines; a line end right after the first three is not part
of it.
-/

namespace AccessorUpgrade.Toml

/-- The blanks within a line. -/
def isBlank (c : Char) : Bool := c == ' ' || c == '\t'

/-- Drops blanks at the start. -/
def skipBlanks (s : List Char) : List Char := s.dropWhile isBlank

/-- What follows a line end, if a text starts with one. -/
def afterLineEnd? : List Char → Option (List Char)
  | '\n' :: rest => some rest
  | '\r' :: '\n' :: rest => some rest
  | _ => none

/-- The text up to the single quote that ends it, and what follows. -/
def literalText : List Char → Option (List Char × List Char)
  | [] => none
  | c :: rest =>
    if c == '\'' then some ([], rest)
    else if Text.isControl c then none
    else do
      let (text, rest) ← literalText rest
      return (c :: text, rest)

/-- Quotes that end a text of several lines, of which up to two more may stand before the last three
and belong to it: the number of those, and what follows. -/
def closingQuotes? (quote : Char) (s : List Char) : Option (Nat × List Char) :=
  let count := (s.takeWhile (· == quote)).length
  if count < 3 then none else some (min (count - 3) 2, s.drop (min count 5))

/-- Drops blanks and line ends at the start. -/
def skipBlankLines : List Char → List Char
  | '\r' :: '\n' :: rest => skipBlankLines rest
  | c :: rest => if isBlank c || c == '\n' then skipBlankLines rest else c :: rest
  | [] => []

/-- Whether a backslash is followed by blanks up to the end of the line. Then the line end and all
blanks and line ends after it are not part of the text. -/
def joinsLines (s : List Char) : Bool := (afterLineEnd? (skipBlanks s)).isSome

/-- The text of several lines up to the quotes that end it, and what follows, if the quotes are
among the first `bound` characters. Only a text in double quotes has escapes. -/
def linesWithin (quote : Char) (bound : Nat) (s : List Char) : Option (List Char × List Char) :=
  match bound, closingQuotes? quote s, s with
  | 0, _, _ => none
  | _, some (extra, rest), _ => some (List.replicate extra quote, rest)
  | _, none, [] => none
  | bound + 1, none, c :: rest => do
    if c == '\\' && quote == '"' then
      if joinsLines rest then
        linesWithin quote bound (skipBlankLines rest)
      else
        let (first, rest) ← Text.unescape rest
        let (text, rest) ← linesWithin quote bound rest
        return (first :: text, rest)
    else
      match afterLineEnd? (c :: rest) with
      | some rest =>
        let (text, rest) ← linesWithin quote bound rest
        return ('\n' :: text, rest)
      | none =>
        if Text.isControl c then none
        else
          let (text, rest) ← linesWithin quote bound rest
          return (c :: text, rest)

/-- The text of several lines that follows three quotes, and what follows it. -/
def textOfLines (quote : Char) (s : List Char) : Option (List Char × List Char) :=
  let s := (afterLineEnd? s).getD s
  linesWithin quote (s.length + 1) s

/-- The text on one line that starts with a quote, and what follows. -/
def lineText : List Char → Option (List Char × List Char)
  | '"' :: rest => Text.escaped rest
  | '\'' :: rest => literalText rest
  | _ => none

/-- The text that starts with quotes, and what follows. -/
def text : List Char → Option (List Char × List Char)
  | '"' :: '"' :: '"' :: rest => textOfLines '"' rest
  | '\'' :: '\'' :: '\'' :: rest => textOfLines '\'' rest
  | s => lineText s

end AccessorUpgrade.Toml
