import AccessorUpgrade.Proofs.Accessor.Implied
import AccessorUpgrade.Proofs.Interception.Binding

/-!
# Calls that meet at one site

A call site shows the kind of a call, its owner, its name and the types of its parameters, but not
what the call returns. Requests for different accessors of one method can be for the same site, when
entries declare two getters of one property, or two setters of one name and former type. All
requests for a site have adapter methods of one class and one name. What can differ is what these
return, as every entry has a former type and a fluency of its own: the adapter methods are one
exactly when the calls return the same (`Reader.binding_eq_iff_of_sameSite`).
-/

namespace AccessorUpgrade

variable {m : Method} {a a' : Accessor} {p : Project} {x y : Request}

/-- Two calls that a call site does not tell apart: they differ at most in what they return and in
the names of parameters. -/
structure Call.SameSite (c c' : Call) : Prop where
  kind : c.kind = c'.kind
  owner : c.owner = c'.owner
  name : c.name = c'.name
  parameterTypes : c.parameters.map (·.type) = c'.parameters.map (·.type)

namespace Accessor

/-- Calls of two accessors of one method meet at a site: both are getters of one property, or both
are setters of one name and former type. -/
structure Meets (a a' : Accessor) : Prop where
  kind : a.kind = a'.kind
  getter : a.kind = .getter → a.propertyName = a'.propertyName
  setter : a.kind = .setter → a.methodName = a'.methodName ∧ a.formerType = a'.formerType

/-- Only the calls of getters come through the dynamic channel. -/
theorem kind_of_dynamicCalls {kind : AccessorKind} (h : .dynamicCalls ∈ channels kind) :
    kind = .getter := by
  cases kind with
  | getter => rfl
  | setter => simp [channels] at h

/-- Requests for the same site are for accessors that meet. -/
theorem meets_of_sameSite (hx : x ∈ a.requests p m) (hy : y ∈ a'.requests p m)
    (h : x.call.SameSite y.call) : a.Meets a' := by
  obtain ⟨channel, hchannel, rfl⟩ := List.mem_map.mp hx
  obtain ⟨channel', hchannel', rfl⟩ := List.mem_map.mp hy
  obtain ⟨hkind, -, hname, hparameters⟩ := h
  cases channel with
  | dynamicCalls =>
    cases channel' with
    | dynamicCalls =>
      have hgetter := kind_of_dynamicCalls hchannel
      have hgetter' := kind_of_dynamicCalls hchannel'
      refine ⟨hgetter.trans hgetter'.symm, fun _ => hname, fun hsetter => ?_⟩
      rw [hgetter] at hsetter
      contradiction
    | directCalls => contradiction
  | directCalls =>
    cases channel' with
    | dynamicCalls => contradiction
    | directCalls =>
      -- The accessors are told apart by their parameters: a getter has none, and a setter has one.
      simp only [request, methodCall] at hname hparameters
      cases hk : a.kind <;> cases hk' : a'.kind <;> simp only [hk, hk'] at hparameters
      · exact ⟨hk.trans hk'.symm, fun _ => congrArg Naming.property hname, by simp [hk]⟩
      · contradiction
      · contradiction
      · refine ⟨hk.trans hk'.symm, by simp [hk], fun _ => ⟨hname, ?_⟩⟩
        exact (List.cons.inj hparameters).1

/-- Accessors that meet have requests for the same site. -/
theorem Meets.exists_sameSite (h : a.Meets a') (p : Project) (m : Method) :
    ∃ x ∈ a.requests p m, ∃ y ∈ a'.requests p m, x.call.SameSite y.call := by
  cases hkind : a.kind with
  | getter =>
    refine ⟨a.request p m .dynamicCalls, ?_, a'.request p m .dynamicCalls, ?_,
      rfl, rfl, h.getter hkind, rfl⟩
    · exact List.mem_map_of_mem (by simp [hkind, channels])
    · exact List.mem_map_of_mem (by simp [← h.kind, hkind, channels])
  | setter =>
    obtain ⟨hname, htype⟩ := h.setter hkind
    refine ⟨a.request p m .directCalls, ?_, a'.request p m .directCalls, ?_, rfl, rfl, hname, ?_⟩
    · exact List.mem_map_of_mem (by simp [hkind, channels])
    · exact List.mem_map_of_mem (by simp [← h.kind, hkind, channels])
    · simp [request, methodCall, ← h.kind, hkind, htype]

/-- Adapter methods for accessors that meet have the same parameters. -/
theorem Meets.adapterParameters (h : a.Meets a') (owner : ErasedType) :
    a.adapterParameters owner = a'.adapterParameters owner := by
  unfold Accessor.adapterParameters
  rw [← h.kind]
  cases hkind : a.kind with
  | getter => rfl
  | setter => rw [(h.setter hkind).2]

/-- Adapter methods for accessors that meet have one class and one name. -/
theorem Meets.binding_names (h : a.Meets a') (m : Method) :
    (a.binding m).className = (a'.binding m).className ∧
      (a.binding m).methodName = (a'.binding m).methodName := by
  rw [binding_eq, binding_eq, h.kind]
  exact ⟨rfl, rfl⟩

/-- Adapter methods for accessors that meet are one exactly when calls of the accessors return types
of one descriptor. -/
theorem Meets.one_binding_iff (h : a.Meets a') (m : Method) :
    a.binding m = a'.binding m ↔
      (a.returnType m.owner).descriptor = (a'.returnType m.owner).descriptor := by
  rw [Accessor.binding_eq, Accessor.binding_eq, h.kind, h.adapterParameters, Binding.mk.injEq]
  simp only [true_and, ErasedType.methodDescriptor, ErasedType.descriptor, String.ofList_inj,
    List.cons.injEq, List.append_cancel_left_eq]

/-- Requests for one call site have adapter methods of one class and one name, and these are one
method exactly when the calls return types of one descriptor. -/
theorem binding_of_sameSite (hx : x ∈ a.requests p m) (hy : y ∈ a'.requests p m)
    (h : x.call.SameSite y.call) :
    x.binding.className = y.binding.className ∧ x.binding.methodName = y.binding.methodName ∧
      (x.binding = y.binding ↔ x.call.returnType.descriptor = y.call.returnType.descriptor) := by
  have hmeets := meets_of_sameSite hx hy h
  obtain ⟨hclass, hname⟩ := hmeets.binding_names m
  obtain ⟨hbinding, hreturn⟩ := binding_of_mem_requests hx
  obtain ⟨hbinding', hreturn'⟩ := binding_of_mem_requests hy
  rw [hbinding, hbinding', hreturn, hreturn']
  exact ⟨hclass, hname, hmeets.one_binding_iff m⟩

/-- All requests for one call site have one adapter method exactly when accessors that meet return
types of one descriptor. -/
theorem forall_binding_eq_iff (p : Project) (m : Method) (accessors : List Accessor) :
    (∀ x ∈ accessors.flatMap (·.requests p m), ∀ y ∈ accessors.flatMap (·.requests p m),
      x.call.SameSite y.call → x.binding = y.binding) ↔
    ∀ a ∈ accessors, ∀ a' ∈ accessors, a.Meets a' →
      (a.returnType m.owner).descriptor = (a'.returnType m.owner).descriptor := by
  constructor
  · intro h a ha a' ha' hmeets
    obtain ⟨x, hx, y, hy, hsite⟩ := hmeets.exists_sameSite p m
    have hbinding := h x (List.mem_flatMap.mpr ⟨a, ha, hx⟩) y
      (List.mem_flatMap.mpr ⟨a', ha', hy⟩) hsite
    rw [(binding_of_mem_requests hx).1, (binding_of_mem_requests hy).1] at hbinding
    exact (hmeets.one_binding_iff m).mp hbinding
  · intro h x hx y hy hsite
    obtain ⟨a, ha, hx⟩ := List.mem_flatMap.mp hx
    obtain ⟨a', ha', hy⟩ := List.mem_flatMap.mp hy
    have hmeets := meets_of_sameSite hx hy hsite
    rw [(binding_of_mem_requests hx).1, (binding_of_mem_requests hy).1]
    exact (hmeets.one_binding_iff m).mpr (h a ha a' ha' hmeets)

/-- Of the accessors that follow from a method none meets another: they are of different kinds. -/
theorem eq_of_meets_implied {directive : Directive} {fallbacks : Fallbacks}
    {accessors : List Accessor} (hentries : directive.entries = [])
    (hok : ofDirective m directive fallbacks = .ok accessors) (ha : a ∈ accessors)
    (ha' : a' ∈ accessors) (h : a.Meets a') : a = a' := by
  obtain ⟨t, fluent, rfl⟩ := ofDirective_ok_cases hentries hok
  have hkind := h.kind
  rcases List.mem_pair.mp ha with rfl | rfl <;> rcases List.mem_pair.mp ha' with rfl | rfl
  · rfl
  · contradiction
  · contradiction
  · rfl

end Accessor

namespace Reader

/-- Requests for one call site have adapter methods of one class and one name, and these are one
method exactly when the calls return types of one descriptor. So all requests for a site have one
adapter method exactly when accessors that meet return types of one descriptor; they always have if
the accessors are not declared in entries. -/
theorem binding_eq_iff_of_sameSite {r : Reader} {directive : Directive} {accessors : List Accessor}
    {requests : List Request}
    (haccessors : Accessor.ofDirective m directive r.fallbacks = .ok accessors)
    (hok : r.readMethod m directive = .ok requests) :
    (∀ x ∈ requests, ∀ y ∈ requests, x.call.SameSite y.call →
      x.binding.className = y.binding.className ∧ x.binding.methodName = y.binding.methodName ∧
        (x.binding = y.binding ↔ x.call.returnType.descriptor = y.call.returnType.descriptor)) ∧
    ((∀ x ∈ requests, ∀ y ∈ requests, x.call.SameSite y.call → x.binding = y.binding) ↔
      ∀ a ∈ accessors, ∀ a' ∈ accessors, a.Meets a' →
        (a.returnType m.owner).descriptor = (a'.returnType m.owner).descriptor) ∧
    (directive.entries = [] →
      ∀ x ∈ requests, ∀ y ∈ requests, x.call.SameSite y.call → x.binding = y.binding) := by
  obtain ⟨p, accessors', -, -, haccessors', rfl⟩ := exists_of_requests (requests_of_readMethod hok)
  obtain rfl := Except.ok.inj (haccessors.symm.trans haccessors')
  refine ⟨fun x hx y hy hsite => ?_, Accessor.forall_binding_eq_iff p m accessors,
    fun hentries => (Accessor.forall_binding_eq_iff p m accessors).mpr fun a ha a' ha' hmeets => ?_⟩
  · obtain ⟨a, -, hx⟩ := List.mem_flatMap.mp hx
    obtain ⟨a', -, hy⟩ := List.mem_flatMap.mp hy
    exact Accessor.binding_of_sameSite hx hy hsite
  · rw [Accessor.eq_of_meets_implied hentries haccessors ha ha' hmeets]

/-- A directive with entries of two getters of a title, whose names have different prefixes. -/
def titleGetters (ofGet ofIs : Option ErasedType) : Directive :=
  ⟨[⟨some "GETTER", some "getTitle", ofGet, none⟩, ⟨some "GETTER", some "isTitle", ofIs, none⟩],
    none, none⟩

/-- The reads of the title are redirected to one adapter method, by whichever getter they are
asked for, if both getters have the same former type. -/
theorem binding_eq_iff_of_sameSite_title :
    ∃ requests, coreReader.readMethod titleMethod (titleGetters none none) = .ok requests ∧
      requests.length = 4 ∧
      ∀ x ∈ requests, ∀ y ∈ requests, x.call.SameSite y.call → x.binding = y.binding := by
  have haccessors : Accessor.ofDirective titleMethod (titleGetters none none) coreReader.fallbacks =
      .ok [⟨.getter, "getTitle", .object "java.lang.String", false⟩,
        ⟨.getter, "isTitle", .object "java.lang.String", false⟩] := rfl
  refine ⟨_, rfl, rfl, (binding_eq_iff_of_sameSite haccessors rfl).2.1.mpr ?_⟩
  intro a ha a' ha' _
  rcases List.mem_pair.mp ha with rfl | rfl <;> rcases List.mem_pair.mp ha' with rfl | rfl <;> rfl

/-- The requests for one call site do not always have one adapter method: entries may declare two
getters of one property with different former types. -/
theorem not_forall_sameSite_binding :
    ¬∀ (r : Reader) (m : Method) (directive : Directive) (requests : List Request),
      r.readMethod m directive = .ok requests →
      ∀ x ∈ requests, ∀ y ∈ requests, x.call.SameSite y.call → x.binding = y.binding := by
  intro h
  have hok : coreReader.readMethod titleMethod (titleGetters none (some .boolean)) =
      .ok ([⟨.getter, "getTitle", .object "java.lang.String", false⟩,
        ⟨.getter, "isTitle", .boolean, false⟩].flatMap
          (Accessor.requests ⟨"core", by decide⟩ titleMethod)) := rfl
  have hbinding := h _ _ _ _ hok _ (.head _) _ (.tail _ (.tail _ (.head _)))
    ⟨rfl, rfl, by decide +kernel, rfl⟩
  exact absurd hbinding (by decide +kernel)

end Reader
end AccessorUpgrade
