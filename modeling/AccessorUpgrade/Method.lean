import AccessorUpgrade.DeclaredType
import AccessorUpgrade.Directive
import AccessorUpgrade.Site

/-!
# Method declarations

A method as it is declared in source text, and the same with the directive that marks it as
upgraded: the `MethodDeclaration` and the `AnnotatedMethod` of section E2 of the specification.
-/

namespace AccessorUpgrade

/-- A declared parameter. -/
structure Parameter where
  name : String
  type : DeclaredType
deriving DecidableEq, Repr

/-- A declared method. -/
structure Method where
  owner : ErasedType
  name : String
  parameters : List Parameter
  returnType : DeclaredType
  site : Site
deriving DecidableEq, Repr

namespace Method

/-- The method's name and, in parentheses, the types of its parameters with commas between them. -/
def signature (m : Method) : String :=
  m.name ++ "(" ++ ",".intercalate (m.parameters.map (·.type.spelling)) ++ ")"

/-- The signature after the owner and a dot. -/
def qualifiedSignature (m : Method) : String := m.owner.spelling ++ "." ++ m.signature

/-- The descriptor: type arguments are erased. -/
def descriptor (m : Method) : String :=
  ErasedType.methodDescriptor m.returnType.erasure (m.parameters.map (·.type.erasure))

/-- Whether the method reads a property: its name starts with `get`, and it takes no parameters. -/
def isSimpleGetter (m : Method) : Bool :=
  m.parameters.isEmpty && ['g', 'e', 't'].isPrefixOf m.name.toList

end Method

/-- A method with its directive, if it is marked as upgraded. -/
structure MarkedMethod where
  method : Method
  directive : Option Directive
deriving DecidableEq, Repr

end AccessorUpgrade
