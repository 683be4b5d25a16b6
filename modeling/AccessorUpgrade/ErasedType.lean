import AccessorUpgrade.Text.Segments

/-!
# Erased types

A type as the virtual machine sees it: one of the nine keyword types, a class, or an array. An
erased type has a spelling as in source text, a descriptor, and a simple name. It is the `JvmType`
of section E2 of the specification.
-/

namespace AccessorUpgrade

/-- The types that are written as a keyword. `void` is a result type only. -/
inductive Keyword where
  | void
  | boolean
  | byte
  | char
  | short
  | int
  | long
  | float
  | double
deriving DecidableEq, Repr

namespace Keyword

/-- All keywords. -/
def all : List Keyword := [void, boolean, byte, char, short, int, long, float, double]

/-- The keyword as it is written. -/
def word : Keyword → String
  | void => "void"
  | boolean => "boolean"
  | byte => "byte"
  | char => "char"
  | short => "short"
  | int => "int"
  | long => "long"
  | float => "float"
  | double => "double"

/-- The letter that stands for the type in descriptors. -/
def letter : Keyword → Char
  | void => 'V'
  | boolean => 'Z'
  | byte => 'B'
  | char => 'C'
  | short => 'S'
  | int => 'I'
  | long => 'J'
  | float => 'F'
  | double => 'D'

/-- The type that a word names, if it is a keyword. -/
def ofWord? (word : String) : Option Keyword := all.find? (·.word == word)

end Keyword

/-- A type as the virtual machine sees it. A class is known by its binary name, in which nested
classes follow a dollar sign. -/
inductive ErasedType where
  | keyword (k : Keyword)
  | object (name : String)
  | array (element : ErasedType)
deriving DecidableEq, Repr

namespace ErasedType

/-- The result type of a method that returns nothing. -/
def void : ErasedType := keyword .void

/-- The primitive truth values; the class of boxed ones is another type. -/
def boolean : ErasedType := keyword .boolean

/-- A type in as many array brackets. -/
def inArrays : Nat → ErasedType → ErasedType
  | 0, t => t
  | n + 1, t => array (inArrays n t)

/-- The name of a class type. -/
def className? : ErasedType → Option String
  | object name => some name
  | _ => none

/-- The type as it is written in source text. -/
def spelling : ErasedType → String
  | keyword k => k.word
  | object name => name
  | array element => element.spelling ++ "[]"

/-- The name without package and enclosing classes. -/
def simpleName : ErasedType → String
  | keyword k => k.word
  | object name =>
    String.ofList (Text.lastSegment '$' (Text.lastSegment '.' name.toList))
  | array element => element.simpleName ++ "[]"

/-- A class name with slashes between its packages. -/
def slashed (name : List Char) : List Char := name.map fun c => if c == '.' then '/' else c

/-- The field descriptor: a letter for a keyword, `L` and a semicolon around a class name, and a
bracket before the element type of an array. -/
def descriptorText : ErasedType → List Char
  | keyword k => [k.letter]
  | object name => 'L' :: slashed name.toList ++ [';']
  | array element => '[' :: element.descriptorText

/-- The field descriptor. -/
def descriptor (t : ErasedType) : String := String.ofList t.descriptorText

/-- The descriptor of a method: its parameters between parentheses, then its result. -/
def methodDescriptor (result : ErasedType) (parameters : List ErasedType) : String :=
  String.ofList ('(' :: parameters.flatMap descriptorText ++ ')' :: result.descriptorText)

end ErasedType

end AccessorUpgrade
