import AccessorUpgrade.ErasedType
import AccessorUpgrade.Site

/-!
# Interception requests

A request asks for the interception of one shape of call: it names the calls, the method of an
adapter class that takes them over, and what a generator of adapters needs to know. Section E3 of
the specification lists what it consists of.
-/

namespace AccessorUpgrade

/-- How a call is written: as a call of a method on an object, or as a read of a property by name.
-/
inductive CallKind where
  | instanceMethod
  | propertyRead
deriving DecidableEq, Repr

/-- What a value means to a call: the object it is made on, or an argument. -/
inductive ParameterRole where
  | receiver
  | argument
deriving DecidableEq, Repr

/-- A parameter of an intercepted call. -/
structure CallParameter where
  name : String
  type : ErasedType
  role : ParameterRole
deriving DecidableEq, Repr

/-- The shape of an intercepted call. -/
structure Call where
  kind : CallKind
  owner : ErasedType
  name : String
  returnType : ErasedType
  parameters : List CallParameter
deriving DecidableEq, Repr

/-- The adapter method that takes a call over. -/
structure Binding where
  className : String
  methodName : String
  descriptor : String
deriving DecidableEq, Repr

/-- By which way calls are intercepted: where a property is looked up at run time, or in the
compiled code of the caller. -/
inductive Channel where
  | dynamicCalls
  | directCalls
deriving DecidableEq, Repr

/-- The kinds of upgraded properties. -/
inductive PropertyKind where
  | fileCollection
  | fileSystemLocation
  | map
  | list
  | set
  | single
deriving DecidableEq, Repr

/-- What is known of an upgraded property and of one of its former accessors. -/
structure Upgrade where
  propertyName : String
  fluentSetter : Bool
  adapterClass : String
  /-- The name of the upgraded method. -/
  methodName : String
  /-- The descriptor of the upgraded method. -/
  methodDescriptor : String
  formerType : ErasedType
  kind : PropertyKind
deriving DecidableEq, Repr

/-- What is attached to a request. -/
inductive Extra where
  /-- The site of the upgraded method. -/
  | element (site : Site)
  /-- The channel, and the generated class that registers interceptors there. -/
  | intercept (channel : Channel) (registrationClass : String)
  | upgrade (upgrade : Upgrade)
deriving DecidableEq, Repr

namespace Extra

/-- The channel that the extra names. -/
def channel? : Extra → Option Channel
  | intercept channel _ => some channel
  | _ => none

/-- The upgrade that the extra tells of. -/
def upgrade? : Extra → Option Upgrade
  | upgrade u => some u
  | _ => none

end Extra

/-- An interception request. -/
structure Request where
  call : Call
  binding : Binding
  extras : List Extra
deriving DecidableEq, Repr

namespace Request

/-- The channel of the request: the first that its extras name. -/
def channel? (r : Request) : Option Channel := r.extras.findSome? Extra.channel?

/-- The upgrade that the request serves: the first that its extras tell of. -/
def upgrade? (r : Request) : Option Upgrade := r.extras.findSome? Extra.upgrade?

end Request

end AccessorUpgrade
