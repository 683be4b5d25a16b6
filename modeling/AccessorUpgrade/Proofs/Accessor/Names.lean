import AccessorUpgrade.Proofs.Accessor.FormerType
import AccessorUpgrade.Proofs.Accessor.Implied

/-!
# Names of accessors are not empty

An accessor has a property with a name just when it has a name itself, as no letter has an empty
lower case. The names that follow from a method have a prefix, so they are never empty. The name that
an entry declares is taken as it is written, and may be empty. `Accessor.names_ne_empty_iff` says
that there is no other way for an accessor, or for a call that is to be intercepted, to have no name.
-/

namespace AccessorUpgrade

variable {m : Method} {directive : Directive} {fallbacks : Fallbacks} {accessors : List Accessor}

/-- Only an empty name has an empty property. -/
theorem Naming.property_eq_empty_iff (name : String) : property name = "" ↔ name = "" := by
  rw [← String.toList_eq_nil_iff, property, String.toList_ofList, propertyChars_eq_nil_iff,
    String.toList_eq_nil_iff]

/-- No entry has the empty name written for its method. -/
def Directive.NamesMethods (directive : Directive) : Prop :=
  ∀ entry ∈ directive.entries, entry.methodName ≠ some ""

namespace Accessor

/-- The names that follow from a simple getter are not empty. -/
theorem impliedName_ne_empty (h : m.isSimpleGetter = true) (t : ErasedType) (kind : AccessorKind) :
    impliedName m t kind ≠ "" := by
  obtain ⟨rest, hname⟩ := exists_name_rest h
  rw [ne_eq, ← String.toList_eq_nil_iff]
  cases kind with
  | getter =>
    rw [impliedName, Naming.getter, String.toList_ofList]
    refine List.append_ne_nil_of_left_ne_nil ?_ _
    split <;> exact List.cons_ne_nil _ _
  | setter =>
    rw [impliedName, Naming.setter, String.toList_ofList, hname, Naming.replaceFirst_get]
    exact List.cons_ne_nil _ _

/-- The accessors of a simple getter have names when those that are declared have. -/
theorem methodName_ne_empty_iff (hshape : m.isSimpleGetter = true)
    (hok : ofDirective m directive fallbacks = .ok accessors) :
    (∀ a ∈ accessors, a.methodName ≠ "") ↔ directive.NamesMethods := by
  by_cases hentries : directive.entries = []
  · obtain ⟨t, fluent, rfl⟩ := ofDirective_ok_cases hentries hok
    refine iff_of_true ?_ (by simp [Directive.NamesMethods, hentries])
    simp [impliedName_ne_empty hshape]
  · rw [ofDirective_of_entries m fallbacks hentries] at hok
    constructor
    · intro h entry hentry hempty
      obtain ⟨a, ha, hdeclares⟩ := exists_result_of_mapM hok entry hentry
      rw [(ofEntry_eq_ok_iff.mp hdeclares).1] at hempty
      exact h a ha (Option.some.inj hempty)
    · intro h a ha hempty
      obtain ⟨entry, hentry, hdeclares⟩ := exists_mem_of_mapM hok a ha
      exact h entry hentry (by rw [(ofEntry_eq_ok_iff.mp hdeclares).1, hempty])

/-- The calls of an accessor have names when the accessor has one. -/
theorem call_name_ne_empty_iff (p : Project) (m : Method) (a : Accessor) :
    (∀ r ∈ a.requests p m, r.call.name ≠ "") ↔ a.methodName ≠ "" := by
  have hproperty : a.propertyName = "" ↔ a.methodName = "" := Naming.property_eq_empty_iff _
  constructor
  · intro h
    -- Every accessor is called directly.
    have hdirect : a.request p m .directCalls ∈ a.requests p m :=
      List.mem_map_of_mem (by cases a.kind <;> decide)
    exact h _ hdirect
  · intro h r hr
    obtain ⟨channel, -, rfl⟩ := List.mem_map.mp hr
    cases channel with
    | dynamicCalls => exact fun hempty => h (hproperty.mp hempty)
    | directCalls => exact h

/-- The accessors that a simple getter has replaced, and their properties, have names exactly when
no entry has the empty name written for its method; an accessor has a name just when its property
has one. The same decides whether every request that a reader makes for a method names its calls. -/
theorem names_ne_empty_iff (hshape : m.isSimpleGetter = true)
    (hok : ofDirective m directive fallbacks = .ok accessors) :
    (∀ a ∈ accessors, a.propertyName = "" ↔ a.methodName = "") ∧
    ((∀ a ∈ accessors, a.propertyName ≠ "" ∧ a.methodName ≠ "") ↔ directive.NamesMethods) ∧
    ∀ (r : Reader) (requests : List Request), r.readMethod m directive = .ok requests →
      ((∀ q ∈ requests, q.call.name ≠ "") ↔ directive.NamesMethods) := by
  have hproperty : ∀ a : Accessor, a.propertyName = "" ↔ a.methodName = "" :=
    fun a => Naming.property_eq_empty_iff a.methodName
  refine ⟨fun a _ => hproperty a, ?_, fun r requests hread => ?_⟩
  · rw [← methodName_ne_empty_iff hshape hok]
    simp [hproperty]
  · obtain ⟨p, accessors, -, hshape, haccessors, rfl⟩ :=
      Reader.exists_of_requests (Reader.requests_of_readMethod hread)
    rw [← methodName_ne_empty_iff hshape haccessors]
    simp only [List.forall_mem_flatMap, call_name_ne_empty_iff]

/-- A directive that declares a getter and a setter by their names. -/
def declaring (getter setter : String) : Directive :=
  ⟨[.named .getter getter, .named .setter setter], none, none⟩

/-- The former getter `is` and the former setter `setName` have names, and so have their properties.
-/
theorem names_ne_empty_iff_is :
    (taskGetter "getName").isSimpleGetter = true ∧ (declaring "is" "setName").NamesMethods ∧
      ∃ accessors, ofDirective (taskGetter "getName") (declaring "is" "setName") .declared =
          .ok accessors ∧ accessors.map (·.methodName) = ["is", "setName"] ∧
        ∀ a ∈ accessors, a.propertyName ≠ "" ∧ a.methodName ≠ "" := by
  have hok : ofDirective (taskGetter "getName") (declaring "is" "setName") .declared =
      .ok [⟨.getter, "is", .object "java.lang.String", false⟩,
        ⟨.setter, "setName", .object "java.lang.String", false⟩] := rfl
  have hshape : (taskGetter "getName").isSimpleGetter = true := by decide +kernel
  have hnames : (declaring "is" "setName").NamesMethods := by
    simp [Directive.NamesMethods, declaring, AccessorEntry.named]
  exact ⟨hshape, hnames, _, hok, rfl, (names_ne_empty_iff hshape hok).2.1.mpr hnames⟩

/-- The accessors of a directive need not have names: an entry whose method has the empty name is
accepted, and declares an accessor without a name or a property. -/
theorem not_forall_names_ne_empty :
    ¬∀ (m : Method) (directive : Directive) (fallbacks : Fallbacks) (accessors : List Accessor),
      m.isSimpleGetter = true → ofDirective m directive fallbacks = .ok accessors →
      ∀ a ∈ accessors, a.propertyName ≠ "" ∧ a.methodName ≠ "" := by
  intro h
  have hok : ofDirective (taskGetter "getName") (declaring "" "setName") .declared =
      .ok [⟨.getter, "", .object "java.lang.String", false⟩,
        ⟨.setter, "setName", .object "java.lang.String", false⟩] := rfl
  exact (h _ _ _ _ (by decide +kernel) hok _ List.mem_cons_self).2 rfl

end Accessor
end AccessorUpgrade
