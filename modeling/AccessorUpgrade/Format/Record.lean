import AccessorUpgrade.Format.Basic

/-!
# Records

A record is an object with known keys. Its fields are put together from single fields; each keeps a
slot while the members of an object pass by in the order of the text. Members with other keys are
skipped. A record is read from an array too, which has the fields in their order and no names.
-/

namespace AccessorUpgrade

/-- A field of a record. -/
structure Field (α : Type) where
  name : String
  format : Format α
  /-- The value when an object has no such member, if the field may be left out there. -/
  absent : Option α
  /-- The value when an array ends before the field, if the field may be left out there. -/
  short : Option α
  /-- Whether a value is left out on writing. -/
  omits : α → Bool

namespace Field

/-- A field that has to be there. -/
def required {α : Type} (name : String) (f : Format α) : Field α :=
  ⟨name, f, none, none, fun _ => false⟩

/-- A field that is always written and may be left out. -/
def withDefault {α : Type} (name : String) (f : Format α) (value : α) : Field α :=
  ⟨name, f, some value, some value, fun _ => false⟩

/-- A field that is written only if it has a value. -/
def optional {α : Type} (name : String) (f : Format α) : Field (Option α) :=
  ⟨name, f.nullable, some none, some none, Option.isNone⟩

/-- A field that is written as null if it has no value. An array has to have it. -/
def nullable {α : Type} (name : String) (f : Format α) : Field (Option α) :=
  ⟨name, f.nullable, some none, none, fun _ => false⟩

/-- A list that is written only if it has items. -/
def optionalList {α : Type} (name : String) (f : Format α) : Field (List α) :=
  ⟨name, f.list, some [], some [], List.isEmpty⟩

/-- Takes up a value for the field, unless it has one already. -/
def fill {α : Type} (f : Field α) (source : Source) (value : Json) :
    Option α → Except DecodeError (Option α)
  | some _ => .error (.duplicateField f.name)
  | none => (f.format.decode source value).map some

/-- The value at the end of an object. -/
def settle {α : Type} (f : Field α) (slot : Option α) : Except DecodeError α :=
  match slot.or f.absent with
  | some value => .ok value
  | none => .error (.missingField f.name)

/-- The value at the end of an array, of which the given number of items come before. -/
def supply {α : Type} (f : Field α) (ending : Json.Ending) (expected : String) (before : Nat) :
    Except DecodeError α :=
  if ending != .closed then .error .malformed
  else
    match f.short with
    | some value => .ok value
    | none => .error (.invalidLength before expected)

/-- The next value in an array, and the items after it. -/
def next {α : Type} (f : Field α) (source : Source) (ending : Json.Ending) (expected : String)
    (before : Nat) : List Json → Except DecodeError (α × List Json)
  | [] => (f.supply ending expected before).map (·, [])
  | value :: rest => (f.format.decode source value).map (·, rest)

/-- The member of an object that has a value, unless the value is left out. -/
def member? {α : Type} (f : Field α) (value : α) : Option (String × Json) :=
  if f.omits value then none else some (f.name, f.format.encode value)

end Field

/-- The fields of a record of type `α`. -/
structure Fields (α : Type) where
  /-- What has been read while members pass by. -/
  Slots : Type
  /-- The keys, in the order of the fields. -/
  names : List String
  start : Slots
  /-- Takes up a member with one of the keys. -/
  take : Source → String → Json → Slots → Except DecodeError Slots
  /-- The values at the end of an object. -/
  finish : Slots → Except DecodeError α
  /-- Reads the values from the items of an array, of which the given number come before. The text
  says what a complete array would be. -/
  items : Source → Json.Ending → String → Nat → List Json → Except DecodeError (α × List Json)
  members : α → List (String × Json)

namespace Fields

variable {α β : Type}

/-- No fields. -/
def nil : Fields Unit where
  Slots := Unit
  names := []
  start := ()
  take _ _ _ slots := .ok slots
  finish _ := .ok ()
  items _ _ _ _ items := .ok ((), items)
  members _ := []

/-- A field before others. -/
def cons (f : Field α) (others : Fields β) : Fields (α × β) where
  Slots := Option α × others.Slots
  names := f.name :: others.names
  start := (none, others.start)
  take source key value slots :=
    if key == f.name then (f.fill source value slots.1).map (·, slots.2)
    else (others.take source key value slots.2).map (slots.1, ·)
  finish slots :=
    match f.settle slots.1 with
    | .error e => .error e
    | .ok first => (others.finish slots.2).map (first, ·)
  items source ending expected before items :=
    match f.next source ending expected before items with
    | .error e => .error e
    | .ok (first, rest) =>
      (others.items source ending expected (before + 1) rest).map fun (second, rest) =>
        ((first, second), rest)
  members value := (f.member? value.1).toList ++ others.members value.2

/-- The same fields for another type. -/
def map (a : Fields α) (make : α → β) (back : β → α) : Fields β where
  Slots := a.Slots
  names := a.names
  start := a.start
  take := a.take
  finish slots := (a.finish slots).map make
  items source ending expected before items :=
    (a.items source ending expected before items).map fun (value, rest) => (make value, rest)
  members value := a.members (back value)

/-- Takes up the members of an object in their order. -/
def takeAll (a : Fields α) (source : Source) :
    List (String × Json) → a.Slots → Except DecodeError a.Slots
  | [], slots => .ok slots
  | (key, value) :: rest, slots =>
    if a.names.contains key then
      match a.take source key value slots with
      | .error e => .error e
      | .ok slots => takeAll a source rest slots
    else if value.skippable then takeAll a source rest slots
    else .error .malformed

/-- Reads an object. -/
def ofObject (a : Fields α) (source : Source) (members : List (String × Json))
    (ending : Json.Ending) : Except DecodeError α :=
  match a.takeAll source members a.start with
  | .error e => .error e
  | .ok slots => if ending == .closed then a.finish slots else .error .malformed

/-- A number of elements in words. -/
def elements (n : Nat) : String := if n == 1 then "1 element" else s!"{n} elements"

/-- The refusal of items that no field takes, in an array of so many in all. -/
def surplus (source : Source) (fields length : Nat) : DecodeError :=
  match source with
  | .text => .malformed
  | .buffered => .invalidLength length (elements fields ++ " in sequence")
  | .tree => .invalidLength length "fewer elements in array"

/-- Reads an array. -/
def ofArray (a : Fields α) (source : Source) (title : String) (items : List Json)
    (ending : Json.Ending) : Except DecodeError α :=
  let expected := title ++ " with " ++ elements a.names.length
  match a.items source ending expected 0 items with
  | .error e => .error e
  | .ok (value, rest) =>
    if !rest.isEmpty then .error (surplus source a.names.length items.length)
    else if ending == .closed then .ok value
    else .error .malformed

/-- The format of records with these fields. The title is the name of the records in refusals. -/
def format (a : Fields α) (title : String) : Format α where
  encode value := .record (a.members value)
  decode source
    | .object members ending => a.ofObject source members ending
    | .array items ending => a.ofArray source title items ending
    | value => .error (.mismatch value title)

end Fields

end AccessorUpgrade
