import AccessorUpgrade.DeclaredType
import AccessorUpgrade.ErasedType.Spelling

/-!
# Reading the spelling of a declared type

A spelling is that of an erased type, or one followed by `<`, spellings with commas between them,
and `>`. White space may stand around every name, before a comma and before a closing bracket. A
reader is a cursor: what is left of the text, and how many argument lists are open. Every type that
is read takes at least one character, so the length of the text bounds the reading.
-/

namespace AccessorUpgrade.DeclaredType

/-- A place in a spelling. -/
structure Cursor where
  rest : List Char
  /-- The number of type argument lists that are open here. -/
  depth : Nat
deriving DecidableEq, Repr

/-- A refusal, with the place that the reader had come to. -/
structure Stop where
  cause : SpellingError
  cursor : Cursor
deriving DecidableEq, Repr

/-- Whether a character belongs to a name or to the white space around it: all but the two angle
brackets and the comma. -/
def isNameText (c : Char) : Bool := c != '<' && c != ',' && c != '>'

mutual

/-- Reads one type from a text of at most `bound` characters. The whole spelling, `input`, is needed
for refusals only. -/
def readTypeWithin (bound : Nat) (input : String) (c : Cursor) :
    Except Stop (DeclaredType × Cursor) :=
  match bound with
  | 0 => .error ⟨.empty, c⟩
  | bound + 1 =>
    let tail := c.rest.dropWhile isNameText
    match ErasedType.read (c.rest.takeWhile isNameText) with
    | .error cause => .error ⟨cause, tail, c.depth⟩
    | .ok erasure =>
      match tail with
      | '<' :: inner =>
        if c.depth == ErasedType.nestingLimit then
          .error ⟨.tooDeep ErasedType.nestingLimit, inner, c.depth⟩
        else
          match readArgumentsWithin bound input ⟨inner, c.depth + 1⟩ with
          | .error stop => .error stop
          | .ok (arguments, later) => .ok (mk erasure arguments, later)
      | tail => .ok (raw erasure, ⟨tail, c.depth⟩)

/-- Reads types with commas between them, up to and with the closing bracket, from a text of less
than `bound` characters. -/
def readArgumentsWithin (bound : Nat) (input : String) (c : Cursor) :
    Except Stop (List DeclaredType × Cursor) :=
  match bound with
  | 0 => .error ⟨.empty, c⟩
  | bound + 1 =>
    match readTypeWithin bound input c with
    | .error stop => .error stop
    | .ok (first, later) =>
      match Text.trimLeft later.rest with
      | ',' :: next =>
        match readArgumentsWithin bound input ⟨next, later.depth⟩ with
        | .error stop => .error stop
        | .ok (others, last) => .ok (first :: others, last)
      | '>' :: next => .ok ([first], ⟨next, later.depth - 1⟩)
      | _ => .error ⟨.unbalancedArguments input, later⟩

end

/-- Reads one type. -/
def Cursor.readType (input : String) (c : Cursor) : Except Stop (DeclaredType × Cursor) :=
  readTypeWithin c.rest.length input c

/-- Reads a spelling. What follows a complete type can only be white space. -/
def parse (s : String) : Except SpellingError DeclaredType :=
  match Cursor.readType s ⟨s.toList, 0⟩ with
  | .error stop => .error stop.cause
  | .ok (t, later) =>
    match Text.trim later.rest with
    | [] => .ok t
    | c :: rest =>
      if c == '>' || c == ',' then .error (.unbalancedArguments s)
      else .error (.trailingInput s (String.ofList (c :: rest)))

end AccessorUpgrade.DeclaredType
