import AccessorUpgrade.Text.LetterCase
import AccessorUpgrade.Text.Replace

/-!
# Names of properties and accessors

An accessor's name is a prefix and the capitalized name of its property. The rules are those of
section 4.1 of the specification (`Naming.property` is its `propertyNameOf`), as functions on lists
of characters; those on strings are named after them.
-/

namespace AccessorUpgrade.Naming

/-- The prefix of getters. -/
def get : List Char := ['g', 'e', 't']

/-- The prefix of setters. -/
def set : List Char := ['s', 'e', 't']

/-- The prefix of getters of truth values. -/
def is : List Char := ['i', 's']

/-- The prefixes of accessors. -/
def accessorPrefixes : List (List Char) := [is, get, set]

/-- The name with its first letter in upper case. -/
def capitalizeChars : List Char → List Char
  | [] => []
  | first :: rest => Text.toUpper first ++ rest

/-- What follows a prefix, with its first letter in lower case. Only an upper-case letter may
follow. -/
def afterPrefix? (start name : List Char) : Option (List Char) :=
  match start.isPrefixOf? name with
  | some (first :: rest) =>
    if Text.isUppercase first then some (Text.toLower first ++ rest) else none
  | _ => none

/-- The property of an accessor, when its name starts with one of the prefixes; the name itself
else. -/
def propertyBy (prefixes : List (List Char)) (name : List Char) : List Char :=
  (prefixes.findSome? (afterPrefix? · name)).getD name

/-- The property of an accessor. -/
def propertyChars (name : List Char) : List Char := propertyBy accessorPrefixes name

/-- The name with its first letter in upper case. -/
def capitalize (name : String) : String := String.ofList (capitalizeChars name.toList)

/-- The property that an accessor of some name reads or writes. -/
def property (methodName : String) : String := String.ofList (propertyChars methodName.toList)

/-- The getter of a property; that of a truth value starts with `is`. -/
def getter (property : String) (isBoolean : Bool) : String :=
  String.ofList ((if isBoolean then is else get) ++ capitalizeChars property.toList)

/-- The setter that belongs to a getter: the first `get` in its name becomes `set`. -/
def setter (getterName : String) : String :=
  String.ofList (Text.replaceFirst get set getterName.toList)

end AccessorUpgrade.Naming
