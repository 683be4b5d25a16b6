import AccessorUpgrade.Json.Number

/-!
# Writing JSON text

Two forms of the same tree: `compact` without any blanks, and `pretty` with one member or item to a
line, two blanks of indentation to a level and one blank after a colon. Strings are written alike in
both.
-/

namespace AccessorUpgrade.Json

/-- A lower-case hexadecimal digit. -/
def hexDigit (n : Nat) : Char := Nat.digitChar n

/-- A character as it stands in a string. Quotes, backslashes and control characters are escaped. -/
def escape (c : Char) : List Char :=
  match c with
  | '"' => ['\\', '"']
  | '\\' => ['\\', '\\']
  | '\x08' => ['\\', 'b']
  | '\x0c' => ['\\', 'f']
  | '\n' => ['\\', 'n']
  | '\r' => ['\\', 'r']
  | '\t' => ['\\', 't']
  | c =>
    if c.toNat < 0x20 then
      ['\\', 'u', '0', '0', hexDigit (c.toNat / 16), hexDigit (c.toNat % 16)]
    else
      [c]

/-- A string between quotes. -/
def quote (s : String) : List Char := '"' :: s.toList.flatMap escape ++ ['"']

/-- The text of a value that is neither array nor object. What has no value has no text. -/
def scalarText : Json → List Char
  | .null => "null".toList
  | .bool true => "true".toList
  | .bool false => "false".toList
  | .number n => n.write
  | .string s => quote s
  | _ => []

mutual

/-- The text without blanks. -/
def compactText : Json → List Char
  | .array items _ => '[' :: itemsText items ++ [']']
  | .object members _ => '\x7b' :: membersText members ++ ['\x7d']
  | value => value.scalarText

/-- Items with commas between them. -/
def itemsText : List Json → List Char
  | [] => []
  | [item] => item.compactText
  | item :: rest => item.compactText ++ ',' :: itemsText rest

/-- Members with commas between them. -/
def membersText : List (String × Json) → List Char
  | [] => []
  | [(key, value)] => quote key ++ ':' :: value.compactText
  | (key, value) :: rest => quote key ++ ':' :: value.compactText ++ ',' :: membersText rest

end

/-- A new line with the indentation of a level. -/
def newLine (level : Nat) : List Char := '\n' :: List.replicate (2 * level) ' '

mutual

/-- The text with one item or member to a line; `level` is the indentation of the value itself. An
array or object without contents stays on its line. -/
def prettyText (level : Nat) : Json → List Char
  | .array [] _ => ['[', ']']
  | .array items _ =>
    '[' :: newLine (level + 1) ++ prettyItems (level + 1) items ++ newLine level ++ [']']
  | .object [] _ => ['\x7b', '\x7d']
  | .object members _ =>
    '\x7b' :: newLine (level + 1) ++ prettyMembers (level + 1) members ++ newLine level ++ ['\x7d']
  | value => value.scalarText

/-- Items on lines of their own. -/
def prettyItems (level : Nat) : List Json → List Char
  | [] => []
  | [item] => prettyText level item
  | item :: rest => prettyText level item ++ ',' :: newLine level ++ prettyItems level rest

/-- Members on lines of their own. -/
def prettyMembers (level : Nat) : List (String × Json) → List Char
  | [] => []
  | [(key, value)] => quote key ++ ':' :: ' ' :: prettyText level value
  | (key, value) :: rest =>
    quote key ++ ':' :: ' ' :: prettyText level value ++ ',' :: newLine level ++
      prettyMembers level rest

end

/-- The text without blanks. -/
def compact (value : Json) : String := String.ofList value.compactText

/-- The text with indentation. -/
def pretty (value : Json) : String := String.ofList (value.prettyText 0)

end AccessorUpgrade.Json
