import AccessorUpgrade.Format.Record
import AccessorUpgrade.Method

/-!
# The JSON form of methods and directives
-/

namespace AccessorUpgrade

/-- Sites as JSON. -/
def Site.format : Format Site :=
  ((Fields.cons (.optional "file" .string) <|
    .cons (.withDefault "line" .word 0) <|
    .cons (.withDefault "column" .word 0) .nil).map
    (fun (file, line, column, ()) => ⟨file, line, column⟩)
    fun site => (site.file, site.line, site.column, ())).format "struct SourceLocation"

/-- Parameters as JSON. -/
def Parameter.format : Format Parameter :=
  ((Fields.cons (.required "name" .string) <|
    .cons (.required "type" DeclaredType.format) .nil).map
    (fun (name, type, ()) => ⟨name, type⟩)
    fun p => (p.name, p.type, ())).format "struct MethodParameter"

/-- Methods as JSON. -/
def Method.format : Format Method :=
  ((Fields.cons (.required "owner" ErasedType.format) <|
    .cons (.required "name" .string) <|
    .cons (.withDefault "parameters" Parameter.format.list []) <|
    .cons (.required "returnType" DeclaredType.format) <|
    .cons (.withDefault "location" Site.format Site.unknown) .nil).map
    (fun (owner, name, parameters, returnType, site, ()) =>
      ⟨owner, name, parameters, returnType, site⟩)
    fun m => (m.owner, m.name, m.parameters, m.returnType, m.site, ())).format
    "struct MethodDeclaration"

/-- Kinds of accessors as JSON. -/
def AccessorKind.format : Format AccessorKind :=
  .constants [.getter, .setter] AccessorKind.constant

/-- Entries as JSON. -/
def AccessorEntry.format : Format AccessorEntry :=
  ((Fields.cons (.optional "value" .string) <|
    .cons (.optional "methodName" .string) <|
    .cons (.optional "originalType" ErasedType.format) <|
    .cons (.optional "fluentSetter" .boolean) .nil).map
    (fun (value, methodName, typeAttribute, fluentSetter, ()) =>
      ⟨value, methodName, typeAttribute, fluentSetter⟩)
    fun e => (e.value, e.methodName, e.typeAttribute, e.fluentSetter, ())).format
    "struct AccessorOverride"

/-- Directives as JSON. -/
def Directive.format : Format Directive :=
  ((Fields.cons (.optionalList "originalAccessors" AccessorEntry.format) <|
    .cons (.optional "originalType" ErasedType.format) <|
    .cons (.optional "fluentSetter" .boolean) .nil).map
    (fun (entries, typeAttribute, fluentSetter, ()) => ⟨entries, typeAttribute, fluentSetter⟩)
    fun d => (d.entries, d.typeAttribute, d.fluentSetter, ())).format "struct UpgradeDirective"

/-- Fallbacks as JSON. -/
def Fallbacks.format : Format Fallbacks :=
  ((Fields.cons (.nullable "directiveFluentSetter" .boolean) <|
    .cons (.nullable "overrideFluentSetter" .boolean) .nil).map
    (fun (directive, entry, ()) => ⟨directive, entry⟩)
    fun f => (f.directiveFluentSetter, f.entryFluentSetter, ())).format "struct AttributeDefaults"

/-- Marked methods as JSON. -/
def MarkedMethod.format : Format MarkedMethod :=
  ((Fields.cons (.required "method" Method.format) <|
    .cons (.optional "upgradedProperty" Directive.format) .nil).map
    (fun (method, directive, ()) => ⟨method, directive⟩)
    fun m => (m.method, m.directive, ())).format "struct AnnotatedMethod"

end AccessorUpgrade
