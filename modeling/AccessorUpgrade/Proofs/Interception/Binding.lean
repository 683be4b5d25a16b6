import AccessorUpgrade.Proofs.Accessor.FormerType
import AccessorUpgrade.Proofs.ErasedType.Grammar
import AccessorUpgrade.Proofs.Interception.Agreement

/-!
# Adapter methods and their descriptors

An adapter class keeps only the simple name of the class it is made for, so classes of different
packages share one. Its methods are told apart by their names and descriptors all the same:
two requests have one adapter method exactly when they are for the same property, kind of accessor
and types of one class (`Accessor.binding_eq_iff`).

The descriptors are not checked against the grammar. They belong to it unless a setter takes `void`
or there is an array of `void`, in a former type or as the declared type of the method
(`Reader.descriptors_wellFormed_iff`).
-/

namespace AccessorUpgrade

variable {m m' : Method} {a a' : Accessor} {directive : Directive}

namespace Accessor

/-- The types of the parameters of an adapter method: the object, and what is set. -/
def adapterParameters (a : Accessor) (owner : ErasedType) : List ErasedType :=
  match a.kind with
  | .getter => [owner]
  | .setter => [owner, a.formerType]

/-- An adapter method has the class of the owner, the name of the kind and the property, and the
descriptor of its parameters and of what the calls return. -/
theorem binding_eq (m : Method) (a : Accessor) : a.binding m =
    ⟨m.owner.adapterClass, a.kind.adapterPrefix ++ Naming.property m.name,
      ErasedType.methodDescriptor (a.returnType m.owner) (a.adapterParameters m.owner)⟩ := by
  unfold binding adapterParameters
  cases a.kind <;> rfl

section

variable (howner : m.owner.WellFormed) (hformer : a.formerType.WellFormed)
include howner hformer

/-- What the calls return has a spelling if the owner and the former type have. -/
theorem wellFormed_returnType : (a.returnType m.owner).WellFormed := by
  obtain h | h | h := a.returnType_cases m.owner
  · rwa [h]
  · rwa [h]
  · rw [h]
    exact (ErasedType.isSpelled_iff _).mp ⟨"void", rfl⟩

/-- The parameters of an adapter method have a spelling if the owner and the former type have. -/
theorem wellFormed_adapterParameters : ∀ p ∈ a.adapterParameters m.owner, p.WellFormed := by
  unfold adapterParameters
  cases a.kind with
  | getter => simpa using howner
  | setter => simpa using ⟨howner, hformer⟩

end

/-! ## One adapter method, one accessor -/

/-- Accessors with the same parameters of their adapter methods have the same owner, and they are of
the same kind. -/
theorem kind_eq_of_adapterParameters {owner owner' : ErasedType}
    (h : a.adapterParameters owner = a'.adapterParameters owner') :
    owner = owner' ∧ a.kind = a'.kind ∧ (a.kind = .setter → a.formerType = a'.formerType) := by
  unfold adapterParameters at h
  cases hkind : a.kind <;> cases hkind' : a'.kind <;> simp_all

/-- The former type of a getter is what its calls return. -/
theorem returnType_of_getter (h : a.kind = .getter) (owner : ErasedType) :
    a.returnType owner = a.formerType := by
  rw [returnType, h]

/-- The calls that are intercepted for an accessor return the same, whether by name or not. -/
theorem returnType_request (p : Project) (m : Method) (a : Accessor) (channel : Channel) :
    (a.request p m channel).call.returnType = a.returnType m.owner := by
  cases channel <;> rfl

/-- Accessors with the same adapter method are of the same class, property, kind and types. -/
theorem binding_inj (howner : m.owner.WellFormed) (howner' : m'.owner.WellFormed)
    (hformer : a.formerType.WellFormed) (hformer' : a'.formerType.WellFormed)
    (h : a.binding m = a'.binding m') :
    m.owner = m'.owner ∧ Naming.property m.name = Naming.property m'.name ∧ a.kind = a'.kind ∧
      a.formerType = a'.formerType ∧ a.returnType m.owner = a'.returnType m'.owner := by
  rw [binding_eq, binding_eq, Binding.mk.injEq] at h
  obtain ⟨-, hname, hdescriptor⟩ := h
  obtain ⟨hreturn, hparameters⟩ := ErasedType.methodDescriptor_inj
    (wellFormed_returnType howner hformer) (wellFormed_returnType howner' hformer')
    (wellFormed_adapterParameters howner hformer)
    (wellFormed_adapterParameters howner' hformer') hdescriptor
  obtain ⟨howners, hkind, hsetter⟩ := kind_eq_of_adapterParameters hparameters
  rw [hkind, String.append_right_inj] at hname
  refine ⟨howners, hname, hkind, ?_, hreturn⟩
  cases hgetter : a.kind with
  | setter => exact hsetter hgetter
  | getter =>
    rwa [returnType_of_getter hgetter, returnType_of_getter (hkind ▸ hgetter)] at hreturn

/-- A request has the adapter method of its accessor, and its call returns what all calls of the
accessor return. -/
theorem binding_of_mem_requests {p : Project} {r : Request} (h : r ∈ a.requests p m) :
    r.binding = a.binding m ∧ r.call.returnType = a.returnType m.owner := by
  obtain ⟨channel, -, rfl⟩ := List.mem_map.mp h
  exact ⟨rfl, a.returnType_request p m channel⟩

/-- An adapter method tells what it is for, although its class keeps only the simple name of the
owner: two requests, in whatever projects, for whatever methods and accessors, have the same adapter
method exactly when they have the same owner, property of the upgraded method, kind of accessor,
former type and return type. -/
theorem binding_eq_iff {p p' : Project} {r r' : Request} (hr : r ∈ a.requests p m)
    (hr' : r' ∈ a'.requests p' m') (howner : m.owner.IsSpelled) (howner' : m'.owner.IsSpelled)
    (hformer : a.formerType.IsSpelled) (hformer' : a'.formerType.IsSpelled) :
    r.binding = r'.binding ↔
      m.owner = m'.owner ∧ Naming.property m.name = Naming.property m'.name ∧ a.kind = a'.kind ∧
        a.formerType = a'.formerType ∧ r.call.returnType = r'.call.returnType := by
  obtain ⟨hbinding, hreturn⟩ := binding_of_mem_requests hr
  obtain ⟨hbinding', hreturn'⟩ := binding_of_mem_requests hr'
  rw [hbinding, hbinding', hreturn, hreturn']
  constructor
  · rw [ErasedType.isSpelled_iff] at howner howner' hformer hformer'
    exact binding_inj howner howner' hformer hformer'
  · rintro ⟨howners, hproperty, hkind, htypes, hreturns⟩
    have hparameters : a.adapterParameters m.owner = a'.adapterParameters m'.owner := by
      rw [adapterParameters, adapterParameters, howners, hkind, htypes]
    rw [binding_eq, binding_eq, hreturns, hparameters, howners, hkind, hproperty]

/-- A method of some class. -/
def plainMethod (owner name : String) : Method :=
  ⟨.object owner, name, [], .raw (.object "java.lang.Object"), .unknown⟩

/-- A former getter of arrays. -/
def arrayGetter (name : String) : Accessor := ⟨.getter, name, .array (.object "a.Item"), false⟩

/-- A request for a former getter of arrays. -/
def arrayRequest (owner method getter : String) (channel : Channel) : Request :=
  (arrayGetter getter).request ⟨"core", by decide⟩ (plainMethod owner method) channel

/-- Reads of a property and calls of a getter have the same adapter method, if both of the upgraded
methods are for that property. Of three classes with the same adapter class no two have the same
adapter method. -/
theorem binding_eq_iff_tasks :
    (arrayRequest "a.Task" "getItems" "getItems" .dynamicCalls).binding =
      (arrayRequest "a.Task" "setItems" "isItems" .directCalls).binding ∧
    (ErasedType.object "a.Task").adapterClass = (ErasedType.object "b.Task").adapterClass ∧
    (ErasedType.object "a.Task").adapterClass = (ErasedType.object "a.Outer$Task").adapterClass ∧
    (arrayRequest "a.Task" "getItems" "getItems" .directCalls).binding ≠
      (arrayRequest "b.Task" "getItems" "getItems" .directCalls).binding ∧
    (arrayRequest "a.Task" "getItems" "getItems" .directCalls).binding ≠
      (arrayRequest "a.Outer$Task" "getItems" "getItems" .directCalls).binding := by
  have harray : (ErasedType.array (.object "a.Item")).IsSpelled := ⟨"a.Item[]", rfl⟩
  have ha : (ErasedType.object "a.Task").IsSpelled := ⟨"a.Task", rfl⟩
  have hb : (ErasedType.object "b.Task").IsSpelled := ⟨"b.Task", rfl⟩
  have houter : (ErasedType.object "a.Outer$Task").IsSpelled := ⟨"a.Outer$Task", rfl⟩
  have hmem (owner method getter : String) (channel : Channel) :
      arrayRequest owner method getter channel ∈
        (arrayGetter getter).requests ⟨"core", by decide⟩ (plainMethod owner method) :=
    List.mem_map_of_mem (by cases channel <;> simp [channels, arrayGetter])
  refine ⟨?_, by decide +kernel, by decide +kernel, fun h => ?_, fun h => ?_⟩
  · exact (binding_eq_iff (hmem _ _ _ _) (hmem _ _ _ _) ha ha harray harray).mpr
      ⟨rfl, by decide +kernel, rfl, rfl, rfl⟩
  · have howners := ((binding_eq_iff (hmem _ _ _ _) (hmem _ _ _ _) ha hb harray harray).mp h).1
    exact absurd howners (by decide)
  · have howners := ((binding_eq_iff (hmem _ _ _ _) (hmem _ _ _ _) ha houter harray harray).mp h).1
    exact absurd howners (by decide)

/-! ## Descriptors and the grammar -/

/-- Whether calls can pass the former type on: a getter returns it, and a setter takes it. -/
def canPass (a : Accessor) : Bool :=
  match a.kind with
  | .getter => a.formerType.isResult
  | .setter => a.formerType.isValue

/-- If there are objects of the owner, the descriptor of an adapter method belongs to the grammar
exactly when calls can pass the former type on. -/
theorem isMethodDescriptor_binding_iff (howner : m.owner.WellFormed)
    (hformer : a.formerType.WellFormed) (hvalue : m.owner.isValue = true) :
    IsMethodDescriptor (a.binding m).descriptor.toList ↔ a.canPass = true := by
  rw [binding_eq, ErasedType.isMethodDescriptor_methodDescriptor_iff
    (wellFormed_returnType howner hformer) (wellFormed_adapterParameters howner hformer)]
  unfold adapterParameters returnType canPass
  cases a.kind with
  | getter => simp [hvalue]
  | setter =>
    -- Whether the setter is fluent or not, its adapter method can return what it does.
    cases a.fluentSetter <;> simp [hvalue, ErasedType.isResult]

end Accessor

/-- The erasure of a type that has a spelling has one too. -/
theorem DeclaredType.IsSpelled.erasure {t : DeclaredType} (h : t.IsSpelled) :
    t.erasure.IsSpelled := by
  obtain ⟨s, hs⟩ := h
  obtain ⟨erasure, arguments⟩ := t
  exact (ErasedType.isSpelled_iff _).mpr ((wellFormed_of_parse hs).1 _ List.mem_cons_self)

/-- The descriptor of a method belongs to the grammar exactly when variables can be of the types of
its parameters, and the method can return its declared type. -/
theorem Method.isMethodDescriptor_descriptor_iff (hm : m.IsSpelled) :
    IsMethodDescriptor m.descriptor.toList ↔
      (∀ p ∈ m.parameters, p.type.erasure.isValue = true) ∧
        m.returnType.erasure.isResult = true := by
  have hparameters : ∀ p ∈ m.parameters.map (·.type.erasure), p.WellFormed := by
    intro t ht
    obtain ⟨p, hp, rfl⟩ := List.mem_map.mp ht
    exact (ErasedType.isSpelled_iff _).mp (hm.parameters p hp).erasure
  rw [descriptor, ErasedType.isMethodDescriptor_methodDescriptor_iff
    ((ErasedType.isSpelled_iff _).mp hm.returnType.erasure) hparameters, List.forall_mem_map]

namespace Accessor

/-- Every method has replaced some accessor. -/
theorem ofDirective_ne_nil {fallbacks : Fallbacks} {accessors : List Accessor}
    (h : ofDirective m directive fallbacks = .ok accessors) : accessors ≠ [] := by
  have hlength {α : Type} {f : α → Except Refusal Accessor} {x : α} {xs : List α}
      (h : (x :: xs).mapM f = .ok accessors) : accessors ≠ [] := by
    obtain ⟨first, others, -, -, rfl⟩ := exists_of_mapM_cons h
    exact List.cons_ne_nil first others
  rw [ofDirective] at h
  split at h
  · exact hlength h
  · next hentries =>
    obtain ⟨entry, entries, heq⟩ := List.exists_cons_of_ne_nil hentries
    rw [heq] at h
    exact hlength h

/-- Every accessor has a request. -/
theorem exists_mem_requests (p : Project) (m : Method) (a : Accessor) :
    ∃ r, r ∈ a.requests p m := by
  cases h : a.kind <;> simp [requests, channels, h]

end Accessor

/-- The descriptors in a request belong to the grammar: that of the adapter method, and that of the
upgraded method. -/
structure Request.DescriptorsWellFormed (r : Request) : Prop where
  binding : IsMethodDescriptor r.binding.descriptor.toList
  upgrade : ∀ u ∈ r.upgrade?, IsMethodDescriptor u.methodDescriptor.toList

/-- The descriptors in a request for an accessor belong to the grammar exactly when that of the
accessor's adapter method and that of the upgraded method do. -/
theorem Request.descriptorsWellFormed_iff {p : Project} {r : Request} (h : r ∈ a.requests p m) :
    r.DescriptorsWellFormed ↔
      IsMethodDescriptor (a.binding m).descriptor.toList ∧
        IsMethodDescriptor m.descriptor.toList := by
  obtain ⟨channel, -, rfl⟩ := List.mem_map.mp h
  have hupgrade : (a.request p m channel).upgrade? = some (a.upgrade m) := rfl
  constructor
  · intro hr
    exact ⟨hr.binding, hr.upgrade (a.upgrade m) hupgrade⟩
  · rintro ⟨hbinding, hmethod⟩
    refine ⟨hbinding, fun u hu => ?_⟩
    obtain rfl : a.upgrade m = u := Option.some.inj (hupgrade.symm.trans hu)
    exact hmethod

/-- A method that is accepted, and of whose owner there are objects, gets descriptors in the grammar
exactly when calls can pass on the former types of all its accessors, and the method itself can
return its declared type. A former type or a declared type that is an array of `void` is not
refused, and neither is `void` as what a setter takes. -/
theorem Reader.descriptors_wellFormed_iff {r : Reader} {accessors : List Accessor}
    {requests : List Request} (hm : m.IsSpelled) (hdirective : directive.IsSpelled)
    (howner : m.owner.isValue = true)
    (haccessors : Accessor.ofDirective m directive r.fallbacks = .ok accessors)
    (hok : r.readMethod m directive = .ok requests) :
    (∀ request ∈ requests, request.DescriptorsWellFormed) ↔
      (∀ a ∈ accessors, a.canPass = true) ∧ m.returnType.erasure.isResult = true := by
  obtain ⟨p, accessors', -, hshape, haccessors', rfl⟩ :=
    exists_of_requests (requests_of_readMethod hok)
  obtain rfl := Except.ok.inj (haccessors.symm.trans haccessors')
  have hmethod : IsMethodDescriptor m.descriptor.toList ↔ m.returnType.erasure.isResult = true := by
    rw [Method.isMethodDescriptor_descriptor_iff hm, (Method.isSimpleGetter_iff.mp hshape).1]
    simp
  have hrequest {a : Accessor} (ha : a ∈ accessors) {request : Request}
      (hmem : request ∈ a.requests p m) : request.DescriptorsWellFormed ↔
        a.canPass = true ∧ m.returnType.erasure.isResult = true := by
    have hformer := Accessor.isSpelled_of_ofDirective hm hdirective haccessors a ha
    rw [Request.descriptorsWellFormed_iff hmem, hmethod, Accessor.isMethodDescriptor_binding_iff
      ((ErasedType.isSpelled_iff _).mp hm.owner) ((ErasedType.isSpelled_iff _).mp hformer) howner]
  constructor
  · intro h
    have hpass {a : Accessor} (ha : a ∈ accessors) :
        a.canPass = true ∧ m.returnType.erasure.isResult = true := by
      obtain ⟨request, hmem⟩ := a.exists_mem_requests p m
      exact (hrequest ha hmem).mp (h request (List.mem_flatMap.mpr ⟨a, ha, hmem⟩))
    obtain ⟨a, others, rfl⟩ :=
      List.exists_cons_of_ne_nil (Accessor.ofDirective_ne_nil haccessors)
    exact ⟨fun b hb => (hpass hb).1, (hpass List.mem_cons_self).2⟩
  · rintro ⟨hpass, hresult⟩ request hmem
    obtain ⟨a, ha, hmem⟩ := List.mem_flatMap.mp hmem
    exact (hrequest ha hmem).mpr ⟨hpass a ha, hresult⟩

/-- A method that returns a property of strings. -/
def titleMethod : Method :=
  ⟨.object "org.example.Task", "getTitle", [],
    .mk (.object "org.gradle.api.provider.Property") [.raw (.object "java.lang.String")], .unknown⟩

/-- The types of the method have a spelling. -/
theorem isSpelled_titleMethod : titleMethod.IsSpelled where
  owner := ⟨"org.example.Task", rfl⟩
  parameters := nofun
  returnType := ⟨"org.gradle.api.provider.Property<java.lang.String>", by decide +kernel⟩

/-- A directive that names only a former type. -/
def typeDirective (t : ErasedType) : Directive := ⟨[], some t, none⟩

/-- A directive has a spelling if the former type has that it names. -/
theorem isSpelled_typeDirective {t : ErasedType} (h : t.IsSpelled) :
    (typeDirective t).IsSpelled where
  entries := nofun
  typeAttribute _ ht := Option.some.inj ht ▸ h

/-- The former accessors of the method, if their type is written. -/
def titleAccessors (t : ErasedType) : List Accessor :=
  [⟨.getter, "getTitle", t, false⟩, ⟨.setter, "setTitle", t, false⟩]

/-- Whoever reads the method. -/
def coreReader : Reader := .standard (some ⟨"core", by decide⟩)

/-- With arrays of numbers for the former type, the method gets descriptors in the grammar. -/
theorem Reader.descriptors_wellFormed_title :
    ∃ requests, coreReader.readMethod titleMethod (typeDirective (.array (.keyword .int))) =
        .ok requests ∧
      requests.map (·.binding.descriptor) =
        ["(Lorg/example/Task;)[I", "(Lorg/example/Task;)[I", "(Lorg/example/Task;[I)V"] ∧
      ∀ request ∈ requests, request.DescriptorsWellFormed := by
  have hdirective := isSpelled_typeDirective (t := .array (.keyword .int)) ⟨"int[]", rfl⟩
  have haccessors : Accessor.ofDirective titleMethod (typeDirective (.array (.keyword .int)))
      coreReader.fallbacks = .ok (titleAccessors (.array (.keyword .int))) := rfl
  have hok : coreReader.readMethod titleMethod (typeDirective (.array (.keyword .int))) =
      .ok ((titleAccessors (.array (.keyword .int))).flatMap
        (·.requests ⟨"core", by decide⟩ titleMethod)) := rfl
  have hexact := descriptors_wellFormed_iff isSpelled_titleMethod hdirective rfl haccessors hok
  exact ⟨_, hok, rfl, hexact.mpr ⟨by decide, by decide⟩⟩

/-- Not all descriptors belong to the grammar: if `void` is written as the former type, a setter
takes it. -/
theorem Reader.not_forall_descriptors_wellFormed :
    ¬∀ (r : Reader) (m : Method) (directive : Directive) (requests : List Request),
      m.IsSpelled → directive.IsSpelled → (∃ name, m.owner = .object name) →
      r.readMethod m directive = .ok requests →
      ∀ request ∈ requests, request.DescriptorsWellFormed := by
  intro h
  have hvoid : ErasedType.void.IsSpelled := ⟨"void", rfl⟩
  have hok : coreReader.readMethod titleMethod (typeDirective .void) =
      .ok ((titleAccessors .void).flatMap (·.requests ⟨"core", by decide⟩ titleMethod)) := rfl
  -- The request of the setter is among those of the method.
  have hmem : (Accessor.mk .setter "setTitle" .void false).request ⟨"core", by decide⟩ titleMethod
      .directCalls ∈ (titleAccessors .void).flatMap (·.requests ⟨"core", by decide⟩ titleMethod) :=
    List.mem_flatMap.mpr ⟨_, List.mem_cons_of_mem _ (.head _), .head _⟩
  have hsetter :=
    h _ _ _ _ isSpelled_titleMethod (isSpelled_typeDirective hvoid) ⟨_, rfl⟩ hok _ hmem
  have hwf := (ErasedType.isSpelled_iff _).mp hvoid
  have howner := (ErasedType.isSpelled_iff _).mp isSpelled_titleMethod.owner
  have hpass := (Accessor.isMethodDescriptor_binding_iff howner hwf rfl).mp hsetter.binding
  exact absurd hpass (by decide)

end AccessorUpgrade
