import AccessorUpgrade.Json.Printer

/-!
# Layouts of JSON text

Compact text and text with indentation are two layouts of one tree: they differ in the white space
before items, members and closing brackets and after colons, and in nothing else
(`compactText_eq`, `prettyText_eq`). What is proved of reading holds for every layout.
-/

namespace AccessorUpgrade.Json

/-- The white space between the parts of a written tree. -/
structure Layout where
  /-- Before an item or member of some level, and before the bracket that closes the level above. -/
  gap : Nat → List Char
  afterColon : List Char

namespace Layout

/-- No white space at all. -/
def compact : Layout := ⟨fun _ => [], []⟩

/-- A line for each item and member. -/
def pretty : Layout := ⟨newLine, [' ']⟩

mutual

/-- The text of a value at some level. -/
def text (l : Layout) (level : Nat) : Json → List Char
  | .array [] _ => ['[', ']']
  | .array (first :: rest) _ =>
    '[' :: (l.gap (level + 1) ++ (l.text (level + 1) first ++ (l.restItems (level + 1) rest ++
      (l.gap level ++ [']']))))
  | .object [] _ => ['\x7b', '\x7d']
  | .object ((key, value) :: rest) _ =>
    '\x7b' :: (l.gap (level + 1) ++ (quote key ++ ':' :: (l.afterColon ++
      (l.text (level + 1) value ++ (l.restMembers (level + 1) rest ++ (l.gap level ++ ['\x7d']))))))
  | value => value.scalarText

/-- The items after the first one. -/
def restItems (l : Layout) (level : Nat) : List Json → List Char
  | [] => []
  | item :: rest => ',' :: (l.gap level ++ (l.text level item ++ l.restItems level rest))

/-- The members after the first one. -/
def restMembers (l : Layout) (level : Nat) : List (String × Json) → List Char
  | [] => []
  | (key, value) :: rest =>
    ',' :: (l.gap level ++ (quote key ++ ':' :: (l.afterColon ++ (l.text level value ++
      l.restMembers level rest))))

end

end Layout

mutual

/-- Compact text is a layout. -/
theorem compactText_eq (level : Nat) : ∀ value : Json,
    value.compactText = Layout.compact.text level value
  | .array [] _ => by simp [compactText, itemsText, Layout.text]
  | .array (first :: rest) _ => by
    rw [compactText, itemsText_eq (level + 1) rest first, compactText_eq (level + 1) first,
      Layout.text]
    simp [Layout.compact]
  | .object [] _ => by simp [compactText, membersText, Layout.text]
  | .object ((key, value) :: rest) _ => by
    rw [compactText, membersText_eq (level + 1) rest key value, compactText_eq (level + 1) value,
      Layout.text]
    simp [Layout.compact]
  | .null | .bool _ | .number _ | .string _ | .unreadable | .broken => by
    simp [compactText, Layout.text]

/-- Items without white space. -/
theorem itemsText_eq (level : Nat) : ∀ (rest : List Json) (first : Json),
    itemsText (first :: rest) = first.compactText ++ Layout.compact.restItems level rest
  | [], first => by simp [itemsText, Layout.restItems]
  | second :: rest, first => by
    rw [itemsText, itemsText_eq level rest second, compactText_eq level second, Layout.restItems]
    · simp [Layout.compact]
    · simp

/-- Members without white space. -/
theorem membersText_eq (level : Nat) : ∀ (rest : List (String × Json)) (key : String)
    (value : Json), membersText ((key, value) :: rest) =
      quote key ++ ':' :: (value.compactText ++ Layout.compact.restMembers level rest)
  | [], key, value => by simp [membersText, Layout.restMembers]
  | (key', value') :: rest, key, value => by
    rw [membersText, membersText_eq level rest key' value', compactText_eq level value',
      Layout.restMembers]
    · simp [Layout.compact]
    · simp

end

mutual

/-- Text with indentation is a layout. -/
theorem prettyText_eq : ∀ (value : Json) (level : Nat),
    value.prettyText level = Layout.pretty.text level value
  | .array [] _, level => by simp [prettyText, Layout.text]
  | .array (first :: rest) _, level => by
    rw [prettyText, prettyItems_eq rest first (level + 1), prettyText_eq first (level + 1),
      Layout.text]
    · simp [Layout.pretty]
    · simp
  | .object [] _, level => by simp [prettyText, Layout.text]
  | .object ((key, value) :: rest) _, level => by
    rw [prettyText, prettyMembers_eq rest key value (level + 1), prettyText_eq value (level + 1),
      Layout.text]
    · simp [Layout.pretty]
    · simp
  | .null, _ | .bool _, _ | .number _, _ | .string _, _ | .unreadable, _ | .broken, _ => by
    simp [prettyText, Layout.text]

/-- Items on lines of their own. -/
theorem prettyItems_eq : ∀ (rest : List Json) (first : Json) (level : Nat),
    prettyItems level (first :: rest) =
      prettyText level first ++ Layout.pretty.restItems level rest
  | [], first, level => by simp [prettyItems, Layout.restItems]
  | second :: rest, first, level => by
    rw [prettyItems, prettyItems_eq rest second level, prettyText_eq second level, Layout.restItems]
    · simp [Layout.pretty]
    · simp

/-- Members on lines of their own. -/
theorem prettyMembers_eq : ∀ (rest : List (String × Json)) (key : String) (value : Json)
    (level : Nat), prettyMembers level ((key, value) :: rest) =
      quote key ++ ':' :: ' ' :: (prettyText level value ++ Layout.pretty.restMembers level rest)
  | [], key, value, level => by simp [prettyMembers, Layout.restMembers]
  | (key', value') :: rest, key, value, level => by
    rw [prettyMembers, prettyMembers_eq rest key' value' level, prettyText_eq value' level,
      Layout.restMembers]
    · simp [Layout.pretty]
    · simp

end

end AccessorUpgrade.Json
