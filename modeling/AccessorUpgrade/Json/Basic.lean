import AccessorUpgrade.Numeral.Double

/-!
# JSON trees

A tree holds what a JSON text says, with members and items in the order of the text. It also has
room for texts that are not, or not wholly, JSON: `broken` stands where a value should be and is
not, `Ending` tells how an array or object stopped, and `unreadable` stands for text that follows
the grammar and yet has no value. A tree that a program builds for writing uses none of these
(`Json.list`, `Json.record`).
-/

namespace AccessorUpgrade

/-- A JSON number: an integer of 64 bits, or a double with its sign. -/
inductive Json.Number where
  | integer (value : Int)
  | real (negative : Bool) (magnitude : Numeral.Double)
deriving DecidableEq, Repr

/-- How the text of an array or object stopped. -/
inductive Json.Ending where
  /-- At the closing bracket. -/
  | closed
  /-- At a key without a value of its own; the text goes on to the closing brace. -/
  | unreadableKey
  /-- At the end of the text, or where the text stops being JSON. -/
  | cut
deriving DecidableEq, Repr

/-- Whether the text goes on to the closing bracket. -/
def Json.Ending.isComplete (ending : Json.Ending) : Bool :=
  ending == .closed || ending == .unreadableKey

/-- A JSON text as a tree. -/
inductive Json where
  | null
  | bool (value : Bool)
  | number (value : Json.Number)
  | string (value : String)
  | array (items : List Json) (ending : Json.Ending)
  | object (members : List (String × Json)) (ending : Json.Ending)
  /-- Text that follows the grammar and has no value: a string with half of a surrogate pair, a
  number beyond the largest double, an array or object nested too deep. -/
  | unreadable
  /-- The place where the text stops being JSON. -/
  | broken
deriving Repr, Inhabited

namespace Json

/-- A complete array. -/
def list (items : List Json) : Json := array items .closed

/-- A complete object. -/
def record (members : List (String × Json)) : Json := object members .closed

/-- A natural number. -/
def natural (n : Nat) : Json := number (.integer n)

/-- The first value of a key in a list of members. -/
def lookup (key : String) (members : List (String × Json)) : Option Json :=
  (members.find? (·.1 == key)).map (·.2)

mutual

/-- Whether a reader that ignores the value gets past it: the text follows the grammar throughout.
-/
def skippable : Json → Bool
  | .array items ending => ending.isComplete && itemsSkippable items
  | .object members ending => ending.isComplete && membersSkippable members
  | .broken => false
  | _ => true

/-- `skippable` for all items. -/
def itemsSkippable : List Json → Bool
  | [] => true
  | item :: rest => item.skippable && itemsSkippable rest

/-- `skippable` for all members. -/
def membersSkippable : List (String × Json) → Bool
  | [] => true
  | (_, value) :: rest => value.skippable && membersSkippable rest

end

mutual

/-- Whether the text has a value throughout. -/
def readable : Json → Bool
  | .array items ending => ending == .closed && itemsReadable items
  | .object members ending => ending == .closed && membersReadable members
  | .unreadable => false
  | .broken => false
  | _ => true

/-- `readable` for all items. -/
def itemsReadable : List Json → Bool
  | [] => true
  | item :: rest => item.readable && itemsReadable rest

/-- `readable` for all members. -/
def membersReadable : List (String × Json) → Bool
  | [] => true
  | (_, value) :: rest => value.readable && membersReadable rest

end

end Json

end AccessorUpgrade
