import AccessorUpgrade.Toml.Plain
import AccessorUpgrade.Toml.Table
import AccessorUpgrade.Toml.Text

/-!
# TOML documents

A document is read line by line: a line has a key and its value, or a header that puts the lines
below it into a table, or neither; a comment may end it. Lists may go over several lines. The
document as a whole is an object.
-/

namespace AccessorUpgrade.Toml

/-! ## Blanks and comments -/

/-- What follows a comment, if there is one; a comment has no control characters. -/
def afterComment (s : List Char) : Option (List Char) :=
  match s with
  | '#' :: rest =>
    let isEnd (c : Char) := c == '\n' || c == '\r'
    if (rest.takeWhile (!isEnd ·)).any Text.isControl then none
    else some (rest.dropWhile (!isEnd ·))
  | _ => some s

/-- What follows the end of a line, a comment before it aside. -/
def afterLine? (s : List Char) : Option (List Char) := do
  let s ← afterComment (skipBlanks s)
  match s with
  | [] => return []
  | _ => afterLineEnd? s

/-- Drops blanks, line ends and comments at the start, of at most `bound` lines. -/
def skipLinesWithin (bound : Nat) (s : List Char) : Option (List Char) :=
  match bound with
  | 0 => none
  | bound + 1 => do
    let s ← afterComment (skipBlanks s)
    match afterLineEnd? s with
    | some rest => skipLinesWithin bound rest
    | none => return s

/-- Drops blanks, line ends and comments at the start. -/
def skipLines (s : List Char) : Option (List Char) := skipLinesWithin (s.length + 1) s

/-! ## Keys -/

/-- How many parts a key has at most, and how many lists and tables lie in each other at most. -/
def depthLimit : Nat := 79

/-- Whether a character belongs to a key without quotes. -/
def isKeyChar (c : Char) : Bool := c.isAlphanum || c == '_' || c == '-'

/-- A part of a key, and what follows. -/
def keyPart (s : List Char) : Option (String × List Char) :=
  match lineText s with
  | some (text, rest) => some (String.ofList text, rest)
  | none =>
    match s.takeWhile isKeyChar with
    | [] => none
    | part => some (String.ofList part, s.dropWhile isKeyChar)

/-- A key of at most `bound` parts with dots between them, and what follows. -/
def keyWithin (bound : Nat) (s : List Char) : Option (List String × List Char) :=
  match bound with
  | 0 => none
  | bound + 1 => do
    let (first, rest) ← keyPart (skipBlanks s)
    match skipBlanks rest with
    | '.' :: rest =>
      let (others, rest) ← keyWithin bound rest
      return (first :: others, rest)
    | rest => return ([first], rest)

/-- A key, and what follows it and the blanks after it. -/
def key (s : List Char) : Option (List String × List Char) := keyWithin depthLimit s

/-! ## Values -/

mutual

/-- A value in which at most `depth` lists and tables lie in each other, and what follows. Lists,
tables and what they hold count towards the bound; twice the length of a text is enough for all of
them. -/
def valueWithin (bound depth : Nat) (s : List Char) : Option (Json × List Char) :=
  match bound, depth, s with
  | 0, _, _ => none
  | _, 0, '[' :: _ => none
  | _, 0, '\x7b' :: _ => none
  | bound + 1, depth + 1, '[' :: rest =>
    (itemsWithin bound depth rest).map fun (items, rest) => (.list items, rest)
  | bound + 1, depth + 1, '\x7b' :: rest =>
    (entriesWithin bound depth [] (skipBlanks rest)).map fun (entries, rest) =>
      (.record (membersOf entries), rest)
  | _, _, s =>
    match text s with
    | some (text, rest) => some (.string (String.ofList text), rest)
    | none => (plain? (plainRun s).1).map (·, (plainRun s).2)

/-- The items of a list, and what follows its bracket. A comma may stand after the last item. -/
def itemsWithin (bound depth : Nat) (s : List Char) : Option (List Json × List Char) :=
  match bound, skipLines s with
  | 0, _ => none
  | _, none => none
  | _, some (']' :: rest) => some ([], rest)
  | bound + 1, some s => do
    let (first, rest) ← valueWithin bound depth s
    match ← skipLines rest with
    | ',' :: rest =>
      let (others, rest) ← itemsWithin bound depth rest
      return (first :: others, rest)
    | ']' :: rest => return ([first], rest)
    | _ => none

/-- The entries of a table on one line, after others, and what follows its brace. No comma stands
after the last entry. -/
def entriesWithin (bound depth : Nat) (before : Entries) (s : List Char) :
    Option (Entries × List Char) :=
  match bound, before, s with
  | 0, _, _ => none
  | _, [], '\x7d' :: rest => some ([], rest)
  | bound + 1, before, s => do
    let (path, rest) ← key s
    match rest with
    | '=' :: rest =>
      let (value, rest) ← valueWithin bound depth (skipBlanks rest)
      let entries ← addEntry [] path value before
      match skipBlanks rest with
      | ',' :: rest => entriesWithin bound depth entries rest
      | '\x7d' :: rest => return (entries, rest)
      | _ => none
    | _ => none

end

/-- A value, and what follows. -/
def value (s : List Char) : Option (Json × List Char) :=
  valueWithin (2 * s.length + 2) depthLimit s

/-! ## Lines -/

/-- What a document says so far, and the path of the table that the next line belongs to. -/
structure Reading where
  entries : Entries
  table : List String

/-- The reading after the header of a table in a list of tables, and what follows the line. The
header's first two brackets have been read. -/
def itemHeader (r : Reading) (s : List Char) : Option (Reading × List Char) := do
  let (path, rest) ← key s
  match rest with
  | ']' :: ']' :: rest => return (⟨← openItem path r.entries, path⟩, ← afterLine? rest)
  | _ => none

/-- The reading after the header of a table, and what follows the line. The header's bracket has
been read. -/
def tableHeader (r : Reading) (s : List Char) : Option (Reading × List Char) := do
  let (path, rest) ← key s
  match rest with
  | ']' :: rest => return (⟨← openTable path r.entries, path⟩, ← afterLine? rest)
  | _ => none

/-- The reading after a line with a key and its value, and what follows the line. -/
def entryLine (r : Reading) (s : List Char) : Option (Reading × List Char) := do
  let (path, rest) ← key s
  match rest with
  | '=' :: rest =>
    let (value, rest) ← value (skipBlanks rest)
    return (⟨← addEntry r.table path value r.entries, r.table⟩, ← afterLine? rest)
  | _ => none

/-- The reading after a line, and what follows it. -/
def line (r : Reading) (s : List Char) : Option (Reading × List Char) :=
  match skipBlanks s with
  | '[' :: '[' :: rest => itemHeader r rest
  | '[' :: rest => tableHeader r rest
  | s =>
    match afterLine? s with
    | some rest => some (r, rest)
    | none => entryLine r s

/-- The reading after at most `bound` lines. -/
def linesAfter (bound : Nat) (r : Reading) (s : List Char) : Option Reading :=
  match bound, s with
  | _, [] => some r
  | 0, _ => none
  | bound + 1, s => do
    let (r, rest) ← line r s
    linesAfter bound r rest

/-- What may stand before a document and is no part of it. -/
def byteOrderMark : Char := '\ufeff'

/-- Reads a document as an object, if it is TOML throughout. -/
def read? (text : String) : Option Json :=
  let s := text.toList
  let s := if s.head? == some byteOrderMark then s.drop 1 else s
  (linesAfter s.length ⟨[], []⟩ s).map fun r => .record (membersOf r.entries)

end AccessorUpgrade.Toml
