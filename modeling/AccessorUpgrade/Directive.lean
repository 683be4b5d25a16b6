import AccessorUpgrade.ErasedType

/-!
# Upgrade directives

What the author of an upgraded method has written on it. An attribute that is not written is `none`;
the values that the annotations themselves declare for such attributes are kept apart, in
`Fallbacks`. In section E2 of the specification, entries are `AccessorOverride` and the declared
values `AttributeDefaults`.
-/

namespace AccessorUpgrade

namespace ErasedType

/-- The class that a former type attribute has when nothing is written there. -/
def defaultMarkerName : String :=
  "org.gradle.internal.instrumentation.api.annotations.UpgradedProperty$DefaultValue"

/-- Whether a type is the mark of a former type attribute that is not written. -/
def isDefaultMarker (t : ErasedType) : Bool := t.className? == some defaultMarkerName

/-- A former type attribute as its author means it: the mark counts as nothing. -/
def meant (written : Option ErasedType) : Option ErasedType :=
  written.filter fun t => !t.isDefaultMarker

end ErasedType

/-- The two kinds of accessors. -/
inductive AccessorKind where
  | getter
  | setter
deriving DecidableEq, Repr

namespace AccessorKind

/-- The constant that names a kind in attributes. -/
def constant : AccessorKind → String
  | getter => "GETTER"
  | setter => "SETTER"

/-- The kind that a constant names. -/
def ofConstant? (constant : String) : Option AccessorKind :=
  if constant == getter.constant then some getter
  else if constant == setter.constant then some setter
  else none

end AccessorKind

/-- A former accessor as it is declared, attribute by attribute. Nothing is taken over from other
entries or from the directive. -/
structure AccessorEntry where
  value : Option String
  methodName : Option String
  /-- The former type as it is written, mark included; see `formerType`. -/
  typeAttribute : Option ErasedType
  fluentSetter : Option Bool
deriving DecidableEq, Repr

namespace AccessorEntry

/-- The entry without any attribute written. -/
def blank : AccessorEntry := ⟨none, none, none, none⟩

/-- The entry of an accessor of which kind and method name are written. -/
def named (kind : AccessorKind) (methodName : String) : AccessorEntry :=
  ⟨some kind.constant, some methodName, none, none⟩

/-- The former type that is written, if one is. -/
def formerType (entry : AccessorEntry) : Option ErasedType := ErasedType.meant entry.typeAttribute

end AccessorEntry

/-- The attributes that mark a method as upgraded. -/
structure Directive where
  /-- The former accessors, when they are declared one by one. -/
  entries : List AccessorEntry
  /-- The former type as it is written, mark included; see `formerType`. -/
  typeAttribute : Option ErasedType
  fluentSetter : Option Bool
deriving DecidableEq, Repr

namespace Directive

/-- The directive without any attribute written. -/
def blank : Directive := ⟨[], none, none⟩

/-- The former type that is written, if one is. -/
def formerType (directive : Directive) : Option ErasedType :=
  ErasedType.meant directive.typeAttribute

end Directive

/-- The values that the annotations declare for attributes that are not written. -/
structure Fallbacks where
  directiveFluentSetter : Option Bool
  entryFluentSetter : Option Bool
deriving DecidableEq, Repr

namespace Fallbacks

/-- What the annotations declare: setters are not fluent. -/
def declared : Fallbacks := ⟨some false, some false⟩

/-- Nothing is declared, so every attribute has to be written. -/
def absent : Fallbacks := ⟨none, none⟩

end Fallbacks

end AccessorUpgrade
