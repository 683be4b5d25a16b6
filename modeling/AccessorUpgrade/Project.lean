import AccessorUpgrade.Naming
import AccessorUpgrade.Request
import AccessorUpgrade.Text.Segments

/-!
# Projects

Interceptors are registered by generated classes, one for each project and channel. Their names are
those of section E4 of the specification.
-/

namespace AccessorUpgrade

/-- The package of all generated classes. -/
def generatedPackage : String := "org.gradle.internal.classpath.generated"

/-- A project by its name, which may be anything but empty. -/
structure Project where
  name : String
  name_ne_empty : name ≠ ""
deriving DecidableEq

namespace Project

/-- The project of a name. -/
def ofName? (name : String) : Option Project :=
  if h : name = "" then none else some ⟨name, h⟩

/-- The parts of a name between hyphens, each capitalized, in one word. -/
def suffixChars (name : List Char) : List Char :=
  ((Text.segments '-' name).filter (!·.isEmpty)).flatMap Naming.capitalizeChars

/-- What distinguishes the registration classes of the project. -/
def classSuffix (p : Project) : String := String.ofList (suffixChars p.name.toList)

/-- The common part of the names of a channel's registration classes. -/
def registrationBase : Channel → String
  | .dynamicCalls => "InterceptorDeclaration_PropertyUpgradesGroovyInterceptors"
  | .directCalls => "InterceptorDeclaration_PropertyUpgradesJvmBytecode"

/-- The class that registers the project's interceptors of a channel. -/
def registrationClass (p : Project) (channel : Channel) : String :=
  generatedPackage ++ "." ++ registrationBase channel ++ "_" ++ p.classSuffix

end Project

end AccessorUpgrade
