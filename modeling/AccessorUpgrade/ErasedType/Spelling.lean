import AccessorUpgrade.ErasedType
import AccessorUpgrade.Text.Blank
import AccessorUpgrade.Text.Letter

/-!
# Reading the spelling of an erased type

A spelling is a name followed by any number of `[]` pairs, with white space around it and before
each pair. The name is a keyword or a class name: segments between dots, each starting with a
letter, an underscore or a dollar sign and going on with these and with digits.
-/

namespace AccessorUpgrade

/-- Why a spelling is refused. -/
inductive SpellingError where
  | empty
  | invalidClassName (name : String)
  | unbalancedArguments (input : String)
  | trailingInput (input : String) (rest : String)
  | tooDeep (limit : Nat)
deriving DecidableEq, Repr

/-- The text of the refusal. -/
def SpellingError.message : SpellingError → String
  | empty => "type name is empty"
  | invalidClassName name => s!"'{name}' is not a valid class name"
  | unbalancedArguments input => s!"unbalanced type arguments in '{input}'"
  | trailingInput input rest => s!"unexpected trailing input '{rest}' in '{input}'"
  | tooDeep limit => s!"type name nests deeper than {limit} levels"

namespace ErasedType

/-- The greatest number of array dimensions, and of type argument lists inside each other. -/
def nestingLimit : Nat := 255

/-- Whether a character may start a segment of a class name. -/
def isNameStart (c : Char) : Bool := Text.isAlphabetic c || c == '_' || c == '$'

/-- Whether a character may follow the first one in a segment of a class name. -/
def isNamePart (c : Char) : Bool := Text.isAlphanumeric c || c == '_' || c == '$'

/-- Whether a text is a segment of a class name. -/
def isNameSegment : List Char → Bool
  | [] => false
  | first :: rest => isNameStart first && rest.all isNamePart

/-- Whether a text is a class name. -/
def isClassName (name : List Char) : Bool := (Text.segments '.' name).all isNameSegment

/-- Takes trailing bracket pairs off a reversed spelling, together with the white space at its end
and before each pair. Gives the number of pairs and what is left, still reversed. -/
def peelBrackets : List Char → Nat × List Char
  | [] => (0, [])
  | ']' :: '[' :: rest =>
    let (pairs, name) := peelBrackets rest
    (pairs + 1, name)
  | c :: rest => if Text.isBlank c then peelBrackets rest else (0, c :: rest)

/-- The type that a name without brackets stands for. -/
def ofName (name : List Char) : Except SpellingError ErasedType :=
  match name with
  | [] => .error .empty
  | _ =>
    match Keyword.ofWord? (String.ofList name) with
    | some k => .ok (keyword k)
    | none =>
      if isClassName name then .ok (object (String.ofList name))
      else .error (.invalidClassName (String.ofList name))

/-- The name of a spelling, without white space around it, and its number of bracket pairs. -/
def splitSpelling (s : List Char) : List Char × Nat :=
  let (pairs, name) := peelBrackets s.reverse
  (Text.trimLeft name.reverse, pairs)

/-- Reads a spelling. Too many dimensions are reported whatever they are dimensions of. -/
def read (s : List Char) : Except SpellingError ErasedType :=
  let (name, pairs) := splitSpelling s
  if nestingLimit < pairs then .error (.tooDeep nestingLimit)
  else (ofName name).map (inArrays pairs)

/-- Reads a spelling. -/
def parse (s : String) : Except SpellingError ErasedType := read s.toList

end ErasedType

end AccessorUpgrade
