import AccessorUpgrade.ErasedType

/-!
# Declared types

A type as it is declared: an erased type with type arguments, which are declared types again. It is
the `TypeRef` of section E2 of the specification.
-/

namespace AccessorUpgrade

/-- A type as it is declared. -/
inductive DeclaredType where
  | mk (erasure : ErasedType) (arguments : List DeclaredType)
deriving Repr

namespace DeclaredType

/-- The type without its arguments. -/
def erasure : DeclaredType → ErasedType
  | mk erasure _ => erasure

/-- The type arguments in the order they are written. -/
def arguments : DeclaredType → List DeclaredType
  | mk _ arguments => arguments

/-- A type without arguments. -/
def raw (erasure : ErasedType) : DeclaredType := mk erasure []

/-- The name of a declared class. -/
def className? (t : DeclaredType) : Option String := t.erasure.className?

mutual

/-- Equality of declared types is decided argument by argument. -/
def decideEq : (s t : DeclaredType) → Decidable (s = t)
  | mk e as, mk f bs =>
    match decEq e f, decideEqAll as bs with
    | isTrue h, isTrue h' => isTrue (by rw [h, h'])
    | isFalse h, _ => isFalse (by intro heq; injection heq; contradiction)
    | _, isFalse h => isFalse (by intro heq; injection heq; contradiction)

/-- Equality of argument lists. -/
def decideEqAll : (as bs : List DeclaredType) → Decidable (as = bs)
  | [], [] => isTrue rfl
  | [], _ :: _ => isFalse (by simp)
  | _ :: _, [] => isFalse (by simp)
  | a :: as, b :: bs =>
    match decideEq a b, decideEqAll as bs with
    | isTrue h, isTrue h' => isTrue (by rw [h, h'])
    | isFalse h, _ => isFalse (by intro heq; injection heq; contradiction)
    | _, isFalse h => isFalse (by intro heq; injection heq; contradiction)

end

instance : DecidableEq DeclaredType := decideEq

mutual

/-- The type as it is written in source text, with a comma and a blank between arguments. -/
def spelling : DeclaredType → String
  | mk erasure [] => erasure.spelling
  | mk erasure (first :: rest) =>
    erasure.spelling ++ "<" ++ first.spelling ++ restSpelling rest ++ ">"

/-- The arguments after the first, each after a comma and a blank. -/
def restSpelling : List DeclaredType → String
  | [] => ""
  | t :: rest => ", " ++ t.spelling ++ restSpelling rest

end

end DeclaredType

end AccessorUpgrade
