import AccessorUpgrade.Accessor
import AccessorUpgrade.Project

/-!
# Intercepting the calls of an accessor

A getter is intercepted twice, as a read of a property by name and as a call; both go to one adapter
method. A setter is intercepted as a call only.

`Accessor.requests` is the Request Builder of section 4.4 of the specification, with the names of
section 6 and the order of extras of section E4.
-/

namespace AccessorUpgrade

/-- The adapter class for the accessors of a class. It keeps only the simple name of the class. -/
def ErasedType.adapterClass (owner : ErasedType) : String :=
  generatedPackage ++ "." ++ owner.simpleName ++ "_Adapter"

namespace Accessor

/-- What the calls of an accessor return: the former type from a getter, the owner from a fluent
setter, and nothing from other setters. -/
def returnType (a : Accessor) (owner : ErasedType) : ErasedType :=
  match a.kind with
  | .getter => a.formerType
  | .setter => if a.fluentSetter then owner else .void

/-- The adapter method for an accessor. Its first parameter is the object, and its name is that of
the upgraded method's property. -/
def binding (m : Method) (a : Accessor) : Binding :=
  match a.kind with
  | .getter =>
    { className := m.owner.adapterClass
      methodName := "access_get_" ++ Naming.property m.name
      descriptor := ErasedType.methodDescriptor (a.returnType m.owner) [m.owner] }
  | .setter =>
    { className := m.owner.adapterClass
      methodName := "access_set_" ++ Naming.property m.name
      descriptor := ErasedType.methodDescriptor (a.returnType m.owner) [m.owner, a.formerType] }

/-- What is known of the upgrade. Only setters can be fluent. -/
def upgrade (m : Method) (a : Accessor) : Upgrade where
  propertyName := a.propertyName
  fluentSetter := a.kind == .setter && a.fluentSetter
  adapterClass := m.owner.adapterClass
  methodName := m.name
  methodDescriptor := m.descriptor
  formerType := a.formerType
  kind := m.returnType.propertyKind

/-- The extras of a request: element, channel, upgrade. -/
def extras (p : Project) (m : Method) (a : Accessor) (channel : Channel) : List Extra :=
  [.element m.site, .intercept channel (p.registrationClass channel), .upgrade (a.upgrade m)]

/-- The reads of the property by its name. -/
def readCall (m : Method) (a : Accessor) : Call where
  kind := .propertyRead
  owner := m.owner
  name := a.propertyName
  returnType := a.returnType m.owner
  parameters := [⟨"receiver", m.owner, .receiver⟩]

/-- The calls of the accessor. -/
def methodCall (m : Method) (a : Accessor) : Call where
  kind := .instanceMethod
  owner := m.owner
  name := a.methodName
  returnType := a.returnType m.owner
  parameters :=
    match a.kind with
    | .getter => []
    | .setter => [⟨"arg0", a.formerType, .argument⟩]

/-- The request to intercept one shape of call. -/
def request (p : Project) (m : Method) (a : Accessor) (channel : Channel) : Request where
  call :=
    match channel with
    | .dynamicCalls => a.readCall m
    | .directCalls => a.methodCall m
  binding := a.binding m
  extras := a.extras p m channel

/-- The channels that calls of a kind of accessor come through. -/
def channels : AccessorKind → List Channel
  | .getter => [.dynamicCalls, .directCalls]
  | .setter => [.directCalls]

/-- The requests for an accessor of an upgraded method. -/
def requests (p : Project) (m : Method) (a : Accessor) : List Request :=
  (channels a.kind).map (a.request p m)

end Accessor

end AccessorUpgrade
