import AccessorUpgrade.ErasedType.Spelling
import AccessorUpgrade.Json.Number
import AccessorUpgrade.Text.Quoted

/-!
# Why JSON does not fit a type

A refusal names what was found and what was expected. `malformed` is different: there the text is
not JSON, or has no value, at a place that a decoder has to look at.
-/

namespace AccessorUpgrade

/-- What a decoder has found in the place of something else. -/
inductive Found where
  | null
  | boolean (value : Bool)
  | number (value : Json.Number)
  | string (value : String)
  | sequence
  | map
  /-- The name of an alternative, without what belongs to it. -/
  | unitVariant
deriving DecidableEq, Repr

namespace Found

/-- What a tree is, seen from outside; nothing if it has no value. -/
def of? : Json → Option Found
  | .null => some null
  | .bool value => some (boolean value)
  | .number value => some (number value)
  | .string value => some (string value)
  | .array .. => some sequence
  | .object .. => some map
  | .unreadable => none
  | .broken => none

/-- The finding in words. -/
def text : Found → String
  | null => "null"
  | boolean value => s!"boolean `{value}`"
  | number (.integer value) => s!"integer `{value}`"
  | number value => "floating point `" ++ String.ofList value.write ++ "`"
  | string value => "string " ++ Text.quoted value
  | sequence => "sequence"
  | map => "map"
  | unitVariant => "unit variant"

end Found

/-- Why JSON does not fit a type. -/
inductive DecodeError where
  | malformed
  | invalidType (found : Found) (expected : String)
  | invalidValue (found : Found) (expected : String)
  | invalidLength (length : Nat) (expected : String)
  | unknownVariant (name : String) (known : List String)
  | duplicateField (name : String)
  | missingField (name : String)
  | spelling (error : SpellingError)
  /-- An outcome that tells neither requests nor a diagnostic. -/
  | noStatus
deriving DecidableEq, Repr

namespace DecodeError

/-- A name between grave accents. -/
def ticked (name : String) : String := s!"`{name}`"

/-- The names that would have been known. -/
def alternatives : List String → String
  | [] => "there are no variants"
  | [a] => "expected " ++ ticked a
  | [a, b] => "expected " ++ ticked a ++ " or " ++ ticked b
  | names => "expected one of " ++ ", ".intercalate (names.map ticked)

/-- The refusal in plain words, which tell no place in a text, and of a text that is not JSON only
that it is none. -/
def message : DecodeError → String
  | malformed => "the text is not JSON"
  | invalidType found expected => "invalid type: " ++ found.text ++ ", expected " ++ expected
  | invalidValue found expected => "invalid value: " ++ found.text ++ ", expected " ++ expected
  | invalidLength length expected => s!"invalid length {length}, expected " ++ expected
  | unknownVariant name known => "unknown variant " ++ ticked name ++ ", " ++ alternatives known
  | duplicateField name => "duplicate field " ++ ticked name
  | missingField name => "missing field " ++ ticked name
  | spelling error => error.message
  | noStatus => "no variant of enum OutcomeStatus found in flattened data"

/-- The refusal of a value in the place of something else. -/
def mismatch (value : Json) (expected : String) : DecodeError :=
  match Found.of? value with
  | some found => invalidType found expected
  | none => malformed

end DecodeError

end AccessorUpgrade
