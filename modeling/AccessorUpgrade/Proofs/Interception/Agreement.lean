import AccessorUpgrade.Interception

/-!
# What a request says twice agrees

A request tells of the same things in three places: the call, the adapter method, and the upgrade
among the extras. The places are filled in independently of each other, and `Request.Agrees` says
what has to match between them. Every request for an accessor agrees, whichever its kind, names,
type and fluency (`Accessor.requests_agree`).

Agreement is stated of the parts of the request itself. A generator of adapters sees nothing else,
so what it derives from one part must not contradict another.
-/

namespace AccessorUpgrade

/-- The types of the arguments that a call passes. The object it is made on is no argument. -/
def Call.argumentTypes (c : Call) : List ErasedType :=
  (c.parameters.filter (·.role = .argument)).map (·.type)

/-- The upgrade describes the call of a getter: the call returns the former type, and it is not a
fluent setter's. -/
structure Upgrade.OfGetter (u : Upgrade) (c : Call) : Prop where
  formerType : c.returnType = u.formerType
  arguments : c.argumentTypes = []
  notFluent : u.fluentSetter = false

/-- The upgrade describes the call of a setter: the only parameter is an argument of the former
type, and the call returns the object's class if the setter is fluent, and nothing else. -/
structure Upgrade.OfSetter (u : Upgrade) (c : Call) : Prop where
  formerType : c.parameters.map (·.type) = [u.formerType]
  arguments : c.argumentTypes = [u.formerType]
  returnType : c.returnType = if u.fluentSetter then c.owner else .void
  owner_iff : c.owner ≠ .void → (c.returnType = c.owner ↔ u.fluentSetter = true)

/-- The upgrade describes the call of an accessor of some kind. -/
def Upgrade.Describes (u : Upgrade) (c : Call) : AccessorKind → Prop
  | .getter => u.OfGetter c
  | .setter => u.OfSetter c

/-- What the name of an adapter method starts with. -/
def AccessorKind.adapterPrefix : AccessorKind → String
  | getter => "access_get_"
  | setter => "access_set_"

/-- A request agrees with the accessor and the upgraded method it is for, and its parts with each
other. The channel and the upgrade are the ones that its extras name. The adapter method is named
after the property of the upgraded method, all else after that of the accessor. -/
structure Request.Agrees (p : Project) (m : Method) (a : Accessor) (r : Request)
    (channel : Channel) (u : Upgrade) : Prop where
  extras : r.extras =
    [.element m.site, .intercept channel (p.registrationClass channel), .upgrade u]
  channel_iff : channel = .dynamicCalls ↔ r.call.kind = .propertyRead
  owner : r.call.owner = m.owner
  descriptor : r.binding.descriptor =
    ErasedType.methodDescriptor r.call.returnType (r.call.owner :: r.call.argumentTypes)
  callName : r.call.name = if channel = .dynamicCalls then u.propertyName else a.methodName
  className : r.binding.className = u.adapterClass
  adapterMethod : r.binding.methodName = a.kind.adapterPrefix ++ Naming.property m.name
  adapterClass : u.adapterClass = m.owner.adapterClass
  methodName : u.methodName = m.name
  methodDescriptor : u.methodDescriptor = m.descriptor
  propertyName : u.propertyName = a.propertyName
  formerType : u.formerType = a.formerType
  describes : u.Describes r.call a.kind

namespace Accessor

variable (p : Project) (m : Method) (a : Accessor)

/-- The calls of an accessor return the method's owner, the former type or nothing. -/
theorem returnType_cases (owner : ErasedType) :
    a.returnType owner = owner ∨ a.returnType owner = a.formerType ∨
      a.returnType owner = .void := by
  unfold returnType
  split
  · exact .inr (.inl rfl)
  · split
    · exact .inl rfl
    · exact .inr (.inr rfl)

/-- The upgrade describes both calls that are intercepted for a getter. -/
theorem upgrade_ofGetter (h : a.kind = .getter) (channel : Channel) :
    (a.upgrade m).OfGetter (a.request p m channel).call := by
  have hreturn : a.returnType m.owner = a.formerType := by rw [returnType, h]
  have hfluent : (a.upgrade m).fluentSetter = false := by simp [upgrade, h]
  cases channel with
  | dynamicCalls => exact ⟨hreturn, rfl, hfluent⟩
  | directCalls =>
    refine ⟨hreturn, ?_, hfluent⟩
    simp [request, methodCall, Call.argumentTypes, h]

/-- The upgrade describes the call that is intercepted for a setter. -/
theorem upgrade_ofSetter (h : a.kind = .setter) : (a.upgrade m).OfSetter (a.methodCall m) := by
  have hparameters : (a.methodCall m).parameters = [⟨"arg0", a.formerType, .argument⟩] := by
    simp [methodCall, h]
  have hfluent : (a.upgrade m).fluentSetter = a.fluentSetter := by simp [upgrade, h]
  have hreturn : (a.methodCall m).returnType = if a.fluentSetter then m.owner else .void := by
    simp [methodCall, returnType, h]
  refine ⟨by rw [hparameters]; rfl, by rw [Call.argumentTypes, hparameters]; rfl,
    by rw [hreturn, hfluent]; rfl, fun howner => ?_⟩
  rw [hreturn, hfluent]
  cases a.fluentSetter with
  | true => simp [methodCall]
  | false =>
    -- Nothing is returned, and that is not the owner.
    simp only [Bool.false_eq_true, if_false, iff_false]
    exact fun hvoid => howner hvoid.symm

/-- The adapter method takes the object and the arguments of the call, and returns what the call
returns. -/
theorem binding_descriptor {channel : Channel} (h : channel ∈ channels a.kind) :
    (a.binding m).descriptor = ErasedType.methodDescriptor (a.request p m channel).call.returnType
      (m.owner :: (a.request p m channel).call.argumentTypes) := by
  cases hkind : a.kind with
  | getter =>
    rw [(a.upgrade_ofGetter p m hkind channel).arguments]
    cases channel <;> simp [binding, request, readCall, methodCall, hkind]
  | setter =>
    rw [hkind, channels, List.mem_singleton] at h
    subst h
    have hupgrade := a.upgrade_ofSetter m hkind
    rw [show (a.request p m .directCalls).call = a.methodCall m from rfl, hupgrade.arguments]
    simp [binding, methodCall, upgrade, hkind]

/-- A request on one of the accessor's channels agrees. -/
theorem request_agrees {channel : Channel} (h : channel ∈ channels a.kind) :
    (a.request p m channel).Agrees p m a channel (a.upgrade m) where
  extras := rfl
  channel_iff := by cases channel <;> simp [request, readCall, methodCall]
  owner := by cases channel <;> rfl
  descriptor := by
    have howner : (a.request p m channel).call.owner = m.owner := by cases channel <;> rfl
    rw [howner]
    exact a.binding_descriptor p m h
  callName := by cases channel <;> rfl
  className := by
    cases hkind : a.kind <;> simp [request, binding, upgrade, hkind]
  adapterMethod := by
    cases hkind : a.kind <;> simp [request, binding, AccessorKind.adapterPrefix, hkind]
  adapterClass := rfl
  methodName := rfl
  methodDescriptor := rfl
  propertyName := rfl
  formerType := rfl
  describes := by
    cases hkind : a.kind with
    | getter => exact a.upgrade_ofGetter p m hkind channel
    | setter =>
      rw [hkind, channels, List.mem_singleton] at h
      subst h
      exact a.upgrade_ofSetter m hkind

/-- A getter has a request for the reads of its property, then one for its calls; a setter has one
for its calls. Each of them agrees. -/
theorem requests_agree :
    (a.requests p m).map (fun r => (r.call.kind, r.channel?)) =
      (match a.kind with
      | .getter =>
        [(.propertyRead, some .dynamicCalls), (.instanceMethod, some .directCalls)]
      | .setter => [(.instanceMethod, some .directCalls)]) ∧
    ∀ r ∈ a.requests p m, ∃ channel u, r.Agrees p m a channel u := by
  constructor
  · rw [requests]
    cases a.kind <;> rfl
  · intro r hr
    obtain ⟨channel, hchannel, rfl⟩ := List.mem_map.mp hr
    exact ⟨channel, a.upgrade m, a.request_agrees p m hchannel⟩

/-- The return type does not always tell a fluent setter: where the owner is `void`, a setter that
is not fluent returns its owner all the same. -/
theorem not_forall_returns_owner_iff_fluent :
    ¬∀ (p : Project) (m : Method) (a : Accessor), a.kind = .setter →
      ∀ r ∈ a.requests p m, ∀ u, r.upgrade? = some u →
        (r.call.returnType = r.call.owner ↔ u.fluentSetter = true) := by
  intro h
  have hvoid := h ⟨"core", by decide⟩ ⟨.void, "getName", [], .raw .void, .unknown⟩
    ⟨.setter, "setName", .keyword .int, false⟩ rfl _ (List.mem_singleton_self _) _ rfl
  exact absurd (hvoid.mp rfl) (by decide)

end Accessor
end AccessorUpgrade
