import AccessorUpgrade.Diagnostic

/-!
# Refusals

Why the calls of an upgraded method cannot be intercepted. A refusal concerns one method only. There
is one for each failure in section 7 of the specification, with the reason string of section E4.
-/

namespace AccessorUpgrade

/-- The attributes that have to have a value. -/
inductive Attribute where
  | methodName
  | value
  | fluentSetter
deriving DecidableEq, Repr

namespace Attribute

/-- The name as it is written. -/
def name : Attribute → String
  | methodName => "methodName"
  | value => "value"
  | fluentSetter => "fluentSetter"

/-- The attribute as messages call it. Those that only entries have are named with their annotation.
-/
def mention (a : Attribute) : String :=
  let named := "'" ++ a.name ++ "' attribute"
  match a with
  | methodName | value => named ++ " in @UpgradedAccessor"
  | fluentSetter => named

end Attribute

/-- Why a method is refused. -/
inductive Refusal where
  /-- There is no project to register interceptors for. -/
  | noProject
  /-- The method of this signature does not look like a getter. -/
  | notSimpleGetter (method : String)
  /-- An attribute is not written, and no value is declared for it. -/
  | missing (attr : Attribute)
  /-- The declared type of the method is no wrapper with a known former type. -/
  | unresolved (method : String) (declared : String)
  /-- A constant that names no kind of accessor. -/
  | unsupportedKind (constant : String)
deriving DecidableEq, Repr

namespace Refusal

/-- The code of the diagnostic. -/
def code : Refusal → Diagnostic.Code
  | noProject => .missingProjectContext
  | notSimpleGetter _ => .invalidAccessorShape
  | missing _ => .missingAttribute
  | unresolved .. => .unresolvedFormerType
  | unsupportedKind _ => .unsupportedAccessorKind

/-- The message of the diagnostic. -/
def message : Refusal → String
  | noProject =>
    "Project name is not specified or is empty. Use --project-name=<projectName> or " ++
      "PROPSHIM_PROJECT_NAME to set the project name."
  | notSimpleGetter method =>
    "Method '" ++ method ++ "' annotated with @UpgradedProperty should be a simple getter: " ++
      "name should start with 'get' and method should not have any parameters."
  | missing attr => "Missing " ++ attr.mention
  | unresolved method declared =>
    "Cannot extract original type for method '" ++ method ++ ": " ++ declared ++
      "'. Use explicit @UpgradedProperty#originalType instead."
  | unsupportedKind constant => "Unsupported accessor type: " ++ constant

/-- The diagnostic for a method that is declared at some site. -/
def diagnostic (r : Refusal) (site : Site) : Diagnostic := ⟨r.code, r.message, some site⟩

end Refusal

end AccessorUpgrade
