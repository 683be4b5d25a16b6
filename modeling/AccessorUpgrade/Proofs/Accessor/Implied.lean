import AccessorUpgrade.Proofs.Interception.Agreement
import AccessorUpgrade.Proofs.Naming.Property
import AccessorUpgrade.Proofs.Reader.Checks

/-!
# The accessors that follow from a method

Without entries a directive stands for a getter and a setter with the same former type and fluency.
Both names come from the method, the getter's by way of the property and the setter's by way of the
text, and each accessor takes its property from its own name. `Accessor.implied_pair` says when the
three properties are the same: exactly when an upper-case letter other than `ẞ` follows `get`.
-/

namespace AccessorUpgrade

open Text (isUppercase)

variable {m : Method} {directive : Directive} {fallbacks : Fallbacks} {accessors : List Accessor}

/-- The method is named after a property: an upper-case letter follows the prefix. `ẞ` does not
count, as no character has it for its upper case. -/
def Method.NamesProperty (m : Method) : Prop :=
  ∃ c rest, m.name.toList = Naming.get ++ c :: rest ∧ isUppercase c = true ∧ c ≠ 'ẞ'

namespace Accessor

/-- A simple getter's name is the prefix and a rest. -/
theorem exists_name_rest (h : m.isSimpleGetter = true) :
    ∃ rest, m.name.toList = Naming.get ++ rest := by
  obtain ⟨rest, hrest⟩ := (Method.isSimpleGetter_iff.mp h).2
  exact ⟨rest, hrest.symm⟩

/-- A directive without entries stands for two accessors with a former type and a fluency in common.
-/
theorem ofDirective_ok_cases (hentries : directive.entries = [])
    (h : ofDirective m directive fallbacks = .ok accessors) :
    ∃ t fluent, accessors =
      [⟨.getter, impliedName m t .getter, t, fluent⟩,
        ⟨.setter, impliedName m t .setter, t, fluent⟩] := by
  rw [ofDirective, hentries] at h
  simp only [List.mapM_cons, List.mapM_nil, implied] at h
  cases htype : m.formerType directive.formerType with
  | error refusal => simp [htype, bind, Except.bind] at h
  | ok t =>
    cases hfluency : fluency directive.fluentSetter fallbacks.directiveFluentSetter with
    | error refusal => simp [htype, hfluency, bind, Except.bind] at h
    | ok fluent =>
      simp only [htype, hfluency, bind, Except.bind, pure, Except.pure, Except.ok.injEq] at h
      exact ⟨t, fluent, h.symm⟩

/-- The getter that follows from a method has the property of the method, unless `ẞ` follows the
prefix there. -/
theorem impliedName_getter_iff {rest : List Char} (hname : m.name.toList = Naming.get ++ rest)
    (t : ErasedType) :
    Naming.property (impliedName m t .getter) = Naming.property m.name ↔
      rest.head? ≠ some 'ẞ' := by
  have hprefix : (if t == .boolean then Naming.is else Naming.get) ∈ Naming.accessorPrefixes := by
    split <;> simp [Naming.accessorPrefixes]
  rw [← Naming.propertyChars_getter_iff hprefix rest, impliedName, Naming.property, Naming.getter,
    Naming.property, String.toList_ofList, String.toList_ofList, hname, String.ofList_inj]

/-- The setter that follows from a method has the property of the method exactly when an upper-case
letter follows the prefix. -/
theorem impliedName_setter_iff {rest : List Char} (hname : m.name.toList = Naming.get ++ rest)
    (t : ErasedType) :
    Naming.property (impliedName m t .setter) = Naming.property m.name ↔
      ∃ c tail, rest = c :: tail ∧ isUppercase c = true := by
  rw [← Naming.propertyChars_setter_iff rest, impliedName, Naming.property, Naming.setter,
    Naming.property, String.toList_ofList, hname, String.ofList_inj]

/-- A simple getter without entries stands for a getter and a setter in this order, with one former
type and one fluency, and the setter's name is that of the method with another prefix. Both belong
to the property of the method exactly when the method names a property. Then the adapter methods of
all requests for the two are named after the property that the requests tell of. -/
theorem implied_pair (hshape : m.isSimpleGetter = true) (hentries : directive.entries = [])
    (hok : ofDirective m directive fallbacks = .ok accessors) :
    ∃ getter setter rest, accessors = [getter, setter] ∧
      getter.kind = .getter ∧ setter.kind = .setter ∧
      getter.formerType = setter.formerType ∧ getter.fluentSetter = setter.fluentSetter ∧
      m.name.toList = Naming.get ++ rest ∧ setter.methodName.toList = Naming.set ++ rest ∧
      (getter.propertyName = Naming.property m.name ∧
        setter.propertyName = Naming.property m.name ↔ m.NamesProperty) ∧
      (m.NamesProperty → ∀ p, ∀ a ∈ accessors, ∀ r ∈ a.requests p m, ∀ u, r.upgrade? = some u →
        r.binding.methodName = a.kind.adapterPrefix ++ u.propertyName) := by
  obtain ⟨rest, hname⟩ := exists_name_rest hshape
  obtain ⟨t, fluent, haccessors⟩ := ofDirective_ok_cases hentries hok
  have hgetter := impliedName_getter_iff hname t
  have hsetter := impliedName_setter_iff hname t
  have hshare : Naming.property (impliedName m t .getter) = Naming.property m.name ∧
      Naming.property (impliedName m t .setter) = Naming.property m.name ↔ m.NamesProperty := by
    rw [hgetter, hsetter]
    -- The setter asks for an upper-case letter, and the getter for one that is not `ẞ`.
    constructor
    · rintro ⟨hsharp, c, tail, rfl, hc⟩
      refine ⟨c, tail, hname, hc, ?_⟩
      rintro rfl
      exact hsharp rfl
    · rintro ⟨c, tail, hnames, hc, hsharp⟩
      obtain rfl : rest = c :: tail := List.append_cancel_left (hname.symm.trans hnames)
      refine ⟨?_, c, tail, rfl, hc⟩
      rw [List.head?_cons, ne_eq, Option.some.injEq]
      exact hsharp
  refine ⟨_, _, rest, haccessors, rfl, rfl, rfl, rfl, hname, ?_, hshare, ?_⟩
  · rw [impliedName, Naming.setter, String.toList_ofList, hname, Naming.replaceFirst_get]
  · intro hnames p a ha r hr u hu
    -- A request names the adapter method after the method, and tells of the accessor's property.
    have hproperty : a.propertyName = Naming.property m.name := by
      obtain ⟨hg, hs⟩ := hshare.mpr hnames
      rw [haccessors] at ha
      rcases List.mem_pair.mp ha with rfl | rfl
      · exact hg
      · exact hs
    obtain ⟨channel, hchannel, rfl⟩ := List.mem_map.mp hr
    have hagrees := a.request_agrees p m hchannel
    obtain rfl : a.upgrade m = u := Option.some.inj hu
    rw [hagrees.adapterMethod, hagrees.propertyName, hproperty]

/-- A getter of a task that returns a lazy string. -/
def taskGetter (name : String) : Method :=
  ⟨.object "org.example.Task", name, [],
    .mk (.object "org.gradle.api.provider.Property") [.raw (.object "java.lang.String")], .unknown⟩

/-- The two accessors of `getName` share the property `name`. -/
theorem implied_pair_getName :
    (taskGetter "getName").NamesProperty ∧ ∃ getter setter,
      ofDirective (taskGetter "getName") .blank .declared = .ok [getter, setter] ∧
      getter.propertyName = "name" ∧ setter.propertyName = "name" := by
  have hok : ofDirective (taskGetter "getName") .blank .declared =
      .ok [⟨.getter, "getName", .object "java.lang.String", false⟩,
        ⟨.setter, "setName", .object "java.lang.String", false⟩] := rfl
  have hnames : (taskGetter "getName").NamesProperty :=
    ⟨'N', ['a', 'm', 'e'], rfl, by decide +kernel, by decide⟩
  obtain ⟨getter, setter, rest, haccessors, -, -, -, -, -, -, hshare, -⟩ :=
    implied_pair (by decide +kernel) rfl hok
  obtain ⟨hgetter, hsetter⟩ := hshare.mpr hnames
  exact ⟨hnames, getter, setter, haccessors ▸ hok, hgetter, hsetter⟩

/-- The setter that follows from a method does not always belong to its property: that of `getter`
is `setter`, which is a property of its own. -/
theorem not_forall_shares_property :
    ¬∀ (m : Method) (directive : Directive) (fallbacks : Fallbacks) (accessors : List Accessor),
      m.isSimpleGetter = true → directive.entries = [] →
      ofDirective m directive fallbacks = .ok accessors →
      ∀ a ∈ accessors, a.propertyName = Naming.property m.name := by
  intro h
  have hok : ofDirective (taskGetter "getter") .blank .declared =
      .ok [⟨.getter, "getGetter", .object "java.lang.String", false⟩,
        ⟨.setter, "setter", .object "java.lang.String", false⟩] := rfl
  have hsetter := h _ _ _ _ (by decide +kernel) rfl hok _ (List.mem_cons_of_mem _ (.head _))
  exact absurd hsetter (by decide +kernel)

end Accessor
end AccessorUpgrade
