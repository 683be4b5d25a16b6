import AccessorUpgrade.Format.Method
import AccessorUpgrade.Request

/-!
# The JSON form of requests
-/

namespace AccessorUpgrade

/-- The word for a kind of calls. -/
def CallKind.constant : CallKind → String
  | instanceMethod => "INSTANCE_METHOD"
  | propertyRead => "GROOVY_PROPERTY_GETTER"

/-- Kinds of calls as JSON. -/
def CallKind.format : Format CallKind :=
  .constants [.instanceMethod, .propertyRead] CallKind.constant

/-- The word for a parameter's role. -/
def ParameterRole.constant : ParameterRole → String
  | receiver => "RECEIVER"
  | argument => "METHOD_PARAMETER"

/-- Roles as JSON. -/
def ParameterRole.format : Format ParameterRole :=
  .constants [.receiver, .argument] ParameterRole.constant

/-- Parameters of calls as JSON. -/
def CallParameter.format : Format CallParameter :=
  ((Fields.cons (.required "name" .string) <|
    .cons (.required "type" ErasedType.format) <|
    .cons (.required "kind" ParameterRole.format) .nil).map
    (fun (name, type, role, ()) => ⟨name, type, role⟩)
    fun p => (p.name, p.type, p.role, ())).format "struct CallParameter"

/-- Calls as JSON. -/
def Call.format : Format Call :=
  ((Fields.cons (.required "kind" CallKind.format) <|
    .cons (.required "owner" ErasedType.format) <|
    .cons (.required "name" .string) <|
    .cons (.required "returnType" ErasedType.format) <|
    .cons (.required "parameters" CallParameter.format.list) .nil).map
    (fun (kind, owner, name, returnType, parameters, ()) =>
      ⟨kind, owner, name, returnType, parameters⟩)
    fun c => (c.kind, c.owner, c.name, c.returnType, c.parameters, ())).format
    "struct CallDescriptor"

/-- Bindings as JSON. -/
def Binding.format : Format Binding :=
  ((Fields.cons (.required "owner" .string) <|
    .cons (.required "name" .string) <|
    .cons (.required "descriptor" .string) .nil).map
    (fun (className, methodName, descriptor, ()) => ⟨className, methodName, descriptor⟩)
    fun b => (b.className, b.methodName, b.descriptor, ())).format
    "struct ImplementationBinding"

/-- The word for a channel. -/
def Channel.constant : Channel → String
  | dynamicCalls => "dynamic_calls"
  | directCalls => "direct_calls"

/-- Channels as JSON. -/
def Channel.format : Format Channel := .constants [.dynamicCalls, .directCalls] Channel.constant

/-- The word for a kind of properties. -/
def PropertyKind.constant : PropertyKind → String
  | fileCollection => "CONFIGURABLE_FILE_COLLECTION"
  | fileSystemLocation => "FILE_SYSTEM_LOCATION_PROPERTY"
  | map => "MAP_PROPERTY"
  | list => "LIST_PROPERTY"
  | set => "SET_PROPERTY"
  | single => "PROPERTY"

/-- Kinds of properties as JSON. -/
def PropertyKind.format : Format PropertyKind :=
  .constants [.fileCollection, .fileSystemLocation, .map, .list, .set, .single]
    PropertyKind.constant

/-- Upgrades as JSON. -/
def Upgrade.format : Format Upgrade :=
  ((Fields.cons (.required "propertyName" .string) <|
    .cons (.required "fluentSetter" .boolean) <|
    .cons (.required "adapterClass" .string) <|
    .cons (.required "originalMethodName" .string) <|
    .cons (.required "originalMethodDescriptor" .string) <|
    .cons (.required "originalType" ErasedType.format) <|
    .cons (.required "upgradedType" PropertyKind.format) .nil).map
    (fun (propertyName, fluentSetter, adapterClass, methodName, methodDescriptor, formerType,
        kind, ()) =>
      ⟨propertyName, fluentSetter, adapterClass, methodName, methodDescriptor, formerType, kind⟩)
    fun u => (u.propertyName, u.fluentSetter, u.adapterClass, u.methodName, u.methodDescriptor,
      u.formerType, u.kind, ())).format "struct PropertyUpgradeMetadata"

namespace Extra

/-- The kinds of extras. -/
inductive Tag where
  | element
  | intercept
  | upgrade
deriving DecidableEq, Repr

/-- All kinds of extras. -/
def Tag.all : List Tag := [element, intercept, upgrade]

/-- The word for a kind of extras. -/
def Tag.constant : Tag → String
  | element => "originating_element"
  | intercept => "intercept"
  | upgrade => "property_upgrade"

/-- Reads the word for a kind of extras. Where JSON has been set aside, the place of the kind among
all will do too. -/
def Tag.decode (source : Source) (value : Json) : Except DecodeError Tag :=
  match value, source with
  | .string name, _ =>
    match Tag.all.find? (·.constant == name) with
    | some tag => .ok tag
    | none => .error (.unknownVariant name (Tag.all.map Tag.constant))
  | .number (.integer n), .buffered =>
    if n < 0 then .error (.mismatch value "variant identifier")
    else
      match Tag.all[n.toNat]? with
      | some tag => .ok tag
      | none => .error (.invalidValue (.number (.integer n)) "variant index 0 <= i < 3")
  | value, _ => .error (.mismatch value "variant identifier")

/-- What belongs to an extra that tells the site. -/
def elementFormat : Format Site :=
  ((Fields.cons (.required "location" Site.format) .nil).map (fun (site, ()) => site)
    fun site => (site, ())).format "struct variant RequestExtra::OriginatingElement"

/-- What belongs to an extra that tells the channel. -/
def interceptFormat : Format (Channel × String) :=
  ((Fields.cons (.required "channel" Channel.format) <|
    .cons (.required "registration_class" .string) .nil).map
    (fun (channel, registrationClass, ()) => (channel, registrationClass))
    fun (channel, registrationClass) => (channel, registrationClass, ())).format
    "struct variant RequestExtra::Intercept"

/-- Reads what belongs to an extra, all but its tag. -/
def decodeContents (contents : Json) : Tag → Except DecodeError Extra
  | .element => (elementFormat.decode .buffered contents).map element
  | .intercept =>
    (interceptFormat.decode .buffered contents).map fun (channel, registrationClass) =>
      intercept channel registrationClass
  | .upgrade => (Upgrade.format.decode .buffered contents).map upgrade

/-- The tag of an extra and what belongs to it. -/
def parts : Extra → Tag × Json
  | element site => (.element, elementFormat.encode site)
  | intercept channel registrationClass =>
    (.intercept, interceptFormat.encode (channel, registrationClass))
  | upgrade u => (.upgrade, Upgrade.format.encode u)

/-- The key of the tag. -/
def tagKey : String := "type"

/-- Adds the tag to the members of an object. -/
def withTag (tag : Tag) : Json → Json
  | .object members ending => .object ((tagKey, .string tag.constant) :: members) ending
  | value => value

/-- Takes the tag out of the members of an object and sets the others aside. -/
def splitMembers (source : Source) :
    List (String × Json) → Option Tag → Except DecodeError (Option Tag × List (String × Json))
  | [], tag => .ok (tag, [])
  | (key, value) :: rest, tag =>
    if key == tagKey then
      match tag with
      | some _ => .error (.duplicateField tagKey)
      | none =>
        match Tag.decode source value with
        | .error e => .error e
        | .ok tag => splitMembers source rest (some tag)
    else if value.readable then
      (splitMembers source rest tag).map fun (tag, others) => (tag, (key, value) :: others)
    else .error .malformed

/-- Reads an extra. Its tag may stand at any place among its members; in an array it comes first. -/
def decode (source : Source) : Json → Except DecodeError Extra
  | .object members ending =>
    match splitMembers source members none with
    | .error e => .error e
    | .ok (tag, others) =>
      if ending != .closed then .error .malformed
      else
        match tag with
        | none => .error (.missingField tagKey)
        | some tag => decodeContents (.record others) tag
  | .array items ending =>
    match items with
    | [] => .error (if ending == .closed then .missingField tagKey else .malformed)
    | first :: others =>
      match Tag.decode source first with
      | .error e => .error e
      | .ok tag =>
        if (Json.array others ending).readable then decodeContents (.list others) tag
        else .error .malformed
  | value => .error (.mismatch value "internally tagged enum RequestExtra")

/-- Extras as JSON: objects with the tag as their first member. -/
def format : Format Extra where
  encode extra := withTag extra.parts.1 extra.parts.2
  decode := decode

end Extra

/-- Requests as JSON. -/
def Request.format : Format Request :=
  ((Fields.cons (.required "call" Call.format) <|
    .cons (.required "implementation" Binding.format) <|
    .cons (.required "extras" Extra.format.list) .nil).map
    (fun (call, binding, extras, ()) => ⟨call, binding, extras⟩)
    fun r => (r.call, r.binding, r.extras, ())).format "struct InterceptionRequest"

end AccessorUpgrade
