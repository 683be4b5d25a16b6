import AccessorUpgrade.Json.Number
import AccessorUpgrade.Json.Overlay
import AccessorUpgrade.Text.Blank
import AccessorUpgrade.Text.Escaped
import AccessorUpgrade.Text.Segments

/-!
# Settings in the environment

Every variable whose name has the right start gives a value to the key that the rest of the name
spells. A variable holds a text, but not each is read as one: what looks like a truth value, a
number, a list or a table is that. What is neither one of these throughout nor a plain text stands
for itself.
-/

namespace AccessorUpgrade.Settings

/-- What the names of all variables start with. -/
def variableStem : String := "PROPSHIM_"

/-- The variable that names a settings file. -/
def fileVariable : String := variableStem ++ "CONFIG_PATH"

namespace Variable

/-! ## Names -/

/-- A key in its parts, which are set apart by two underscores or by a dot. -/
def keyParts : List Char → List (List Char)
  | [] => [[]]
  | '_' :: '_' :: rest => [] :: keyParts rest
  | '.' :: rest => [] :: keyParts rest
  | c :: rest =>
    match keyParts rest with
    | [] => [[c]]
    | first :: others => (c :: first) :: others

/-- The path of keys that a name spells, in lower case, if it is that of a setting. Upper and lower
case make no difference, nor do blanks around the name or around what follows the stem. -/
def path? (name : String) : Option (List String) :=
  let name := (Text.trim name.toList).map Char.toLower
  match (variableStem.toList.map Char.toLower).isPrefixOf? name with
  | none => none
  | some key =>
    let parts := keyParts (Text.trim key)
    if parts.contains [] then none else some (parts.map String.ofList)

/-! ## Values -/

/-- The blanks between the parts of a value. -/
def isSpace (c : Char) : Bool := [' ', '\t', '\n', '\x0c', '\r'].contains c

/-- Drops blanks at the start. -/
def skipSpace (s : List Char) : List Char := s.dropWhile isSpace

/-- Whether a character separates the parts of lists and tables. -/
def isSeparator (c : Char) : Bool := [',', '[', ']', '\x7b', '\x7d'].contains c

/-- Whether a character belongs to a key of a table that has no quotes around it. -/
def isKeyChar (c : Char) : Bool := c.isAlphanum || c == '_' || c == '-'

/-- The truth values and their words. -/
def truthWords : List (String × Bool) := [("true", true), ("false", false)]

/-- The truth value whose word a text starts with, and what follows. -/
def truth? (s : List Char) : Option (Bool × List Char) :=
  truthWords.findSome? fun (word, value) => (word.toList.isPrefixOf? s).map (value, ·)

/-- The truth value whose word is the whole of a text, in any mixture of cases. -/
def wholeTruth? (s : List Char) : Option Bool :=
  truthWords.findSome? fun (word, value) =>
    if s.map Char.toLower == word.toList then some value else none

/-- Whether an integer has a place in 64 bits, with a sign or without. -/
def inRange (n : Int) : Bool := -0x8000000000000000 ≤ n && n < 0x10000000000000000

/-- The value of a text without separators: a number with a point, an integer, or the text itself.
-/
def plain (s : List Char) : Json :=
  match (if s.contains '.' then Numeral.SignedDecimal.parse? s else none), Numeral.integer? s with
  | some d, _ => .ofDecimal d
  | none, some n => if inRange n then .number (.integer n) else .string (String.ofList s)
  | none, none => .string (String.ofList s)

/-- As many characters from the start of a text as fit into so many bytes. -/
def fitting : Nat → List Char → List Char
  | _, [] => []
  | bytes, c :: rest =>
    if c.utf8Size ≤ bytes then c :: fitting (bytes - c.utf8Size) rest else []

/-- The text up to the double quote that ends it, and what follows. If it has an escape, what stands
before the first one keeps no more bytes than it has characters. -/
def quoted (s : List Char) : Option (String × List Char) :=
  (Text.escaped s).map fun (text, rest) =>
    let start := s.takeWhile fun c => c != '\\' && c != '"'
    match s.drop start.length with
    | '\\' :: _ => (String.ofList (fitting start.length start ++ text.drop start.length), rest)
    | _ => (String.ofList text, rest)

/-- The key that a text starts with, and what follows. -/
def key (s : List Char) : Option (String × List Char) :=
  match s with
  | '"' :: rest => quoted rest
  | _ =>
    match s.takeWhile isKeyChar with
    | [] => none
    | name => some (String.ofList name, s.dropWhile isKeyChar)

mutual

/-- The value that a text starts with, and what follows. Lists, tables and what they hold count
towards the bound; twice the length of a text is enough for all of them. -/
def valueWithin (bound : Nat) (s : List Char) : Option (Json × List Char) :=
  match bound, truth? (skipSpace s), skipSpace s with
  | 0, _, _ => none
  | _, some (value, rest), _ => some (.bool value, skipSpace rest)
  | bound + 1, none, '[' :: rest =>
    (itemsWithin bound rest).map fun (items, rest) => (.list items, skipSpace rest)
  | bound + 1, none, '\x7b' :: rest =>
    (entriesWithin bound [] rest).map fun (entries, rest) => (.record entries, skipSpace rest)
  | _, none, '"' :: rest =>
    (quoted rest).map fun (text, rest) => (.string text, skipSpace rest)
  | _, none, '\'' :: c :: '\'' :: rest => some (.string (String.singleton c), skipSpace rest)
  | _, none, '\'' :: _ => none
  | _, none, s =>
    some (plain (Text.trim (s.takeWhile (!isSeparator ·))), s.dropWhile (!isSeparator ·))

/-- The items of a list, and what follows its bracket. -/
def itemsWithin (bound : Nat) (s : List Char) : Option (List Json × List Char) :=
  match bound, s with
  | 0, _ => none
  | _, ']' :: rest => some ([], rest)
  | bound + 1, s => do
    let (first, rest) ← valueWithin bound s
    match rest with
    | ',' :: rest =>
      let (others, rest) ← itemsWithin bound rest
      return (first :: others, rest)
    | ']' :: rest => return ([first], rest)
    | _ => none

/-- The entries of a table, after others, and what follows its brace. -/
def entriesWithin (bound : Nat) (before : List (String × Json)) (s : List Char) :
    Option (List (String × Json) × List Char) :=
  match bound, s with
  | 0, _ => none
  | _, '\x7d' :: rest => some (before, rest)
  | bound + 1, s => do
    let (name, rest) ← key (skipSpace s)
    match skipSpace rest with
    | '=' :: rest =>
      let (value, rest) ← valueWithin bound rest
      let entries := Json.put name value before
      match rest with
      | ',' :: rest => entriesWithin bound entries rest
      | '\x7d' :: rest => return (entries, rest)
      | _ => none
    | _ => none

end

/-- The value that the whole of a text is; a text that is none stands for itself. -/
def structured (s : List Char) : Json :=
  match valueWithin (2 * s.length + 2) s with
  | some (value, []) => value
  | _ => .string (String.ofList s)

/-- The characters that start texts in which a comma does not make a list of the whole. -/
def openers : List Char := ['[', '\x7b', '"', '\'']

/-- The value of a variable. Commas make a list of plain texts, unless the text starts with a
bracket, a brace or a quote. -/
def value (text : String) : Json :=
  let s := Text.trim text.toList
  if s.contains ',' && !s.head?.any openers.contains then
    .list ((Text.segments ',' s).map fun item => .string (String.ofList (Text.trim item)))
  else
    match wholeTruth? s with
    | some value => .bool value
    | none => structured s

end Variable

/-- The members that a variable sets, given those that the ones before it have set. It sets the
first key of its path, and with it all that lies below that key. -/
def withVariable (members : List (String × Json)) (name text : String) : List (String × Json) :=
  match Variable.path? name with
  | some (key :: path) => Json.put key (Json.nest path (Variable.value text)) members
  | _ => members

/-- The settings in variables. Of two variables whose paths start with the same key the later one
counts. -/
def ofVariables (given : List (String × String)) : Json :=
  .record (given.foldl (fun members (name, text) => withVariable members name text) [])

end AccessorUpgrade.Settings
