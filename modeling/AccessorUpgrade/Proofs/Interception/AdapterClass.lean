import AccessorUpgrade.Interception
import AccessorUpgrade.Proofs.ErasedType.WellFormed
import AccessorUpgrade.Proofs.Text.Segments

/-!
# Adapter classes have class names

The adapter class of an owner is named after the simple name of the owner: what follows the last dot
and, in that, the last dollar sign. So the simple name has neither of them, and its characters may
all stand in a class name. But where the owner's name goes on after the dollar sign with a digit, as
the names of anonymous and local classes do, the adapter's name has a segment that starts with the
digit and is refused as a class name; and where the owner's name ends with a dollar sign, nothing is
left of it. `adapterClass_names_class` says that these are the only exceptions.
-/

namespace AccessorUpgrade.ErasedType

open Text (lastSegment)

variable {name : String}

/-! ## Class types -/

/-- A class is well-formed when its name is that of a class. -/
theorem wellFormed_object_iff : (object name).WellFormed ↔ NamesClass name := by
  constructor
  · rintro ⟨n, element, -, helement, heq⟩
    cases n with
    | zero =>
      rw [inArrays] at heq
      subst heq
      cases helement with
      | object h => exact h
    | succ n => cases heq
  · exact fun h => ⟨0, object name, Nat.zero_le _, .object h, rfl⟩

/-- A name with a dot is accepted as that of a class when it is made of segments. -/
theorem parse_object_iff (hdot : '.' ∈ name.toList) :
    parse name = .ok (object name) ↔ isClassName name.toList = true := by
  have hkeyword : ∀ k : Keyword, name ≠ k.word := by
    rintro k rfl
    revert hdot
    cases k <;> decide
  rw [isClassName_iff]
  refine (parse_spelling_iff (object name)).trans (wellFormed_object_iff.trans ?_)
  exact ⟨fun h => h.exists_segments, fun h => ⟨h, hkeyword⟩⟩

/-- A segment may go on with another one, and then it matters how it starts. -/
theorem isNameSegment_append_iff {first second : List Char}
    (hfirst : ∀ c ∈ first, isNamePart c = true) (hsecond : isNameSegment second = true) :
    isNameSegment (first ++ second) = true ↔ ∀ c ∈ first.head?, isNameStart c = true := by
  cases first with
  | nil => simp [hsecond]
  | cons c rest =>
    obtain ⟨-, hrest⟩ := List.forall_mem_cons.mp hfirst
    have hall : (rest ++ second).all isNamePart = true := by
      rw [List.all_append, List.all_eq_true.mpr hrest,
        List.all_eq_true.mpr (isNameSegment_iff.mp hsecond).2]
      rfl
    rw [List.cons_append, isNameSegment, hall, Bool.and_true]
    simp

/-! ## Simple names -/

/-- The simple name of a class is cut out of its last segment. -/
theorem toList_simpleName_object (name : String) :
    (object name).simpleName.toList = lastSegment '$' (lastSegment '.' name.toList) :=
  String.toList_ofList

/-- What follows the last dot of a class name is a segment. -/
theorem isNameSegment_lastSegment (h : isClassName name.toList = true) :
    isNameSegment (lastSegment '.' name.toList) = true :=
  List.all_eq_true.mp h _ (Text.lastSegment_mem_segments '.' _)

/-- A simple name has neither a dot nor a dollar sign. -/
theorem not_mem_simpleName (name : String) :
    '.' ∉ (object name).simpleName.toList ∧ '$' ∉ (object name).simpleName.toList := by
  rw [toList_simpleName_object]
  obtain ⟨hdot, -⟩ := Text.lastSegment_cases '.' name.toList
  obtain ⟨hdollar, -⟩ := Text.lastSegment_cases '$' (lastSegment '.' name.toList)
  exact ⟨fun h => hdot (Text.mem_of_mem_lastSegment h), hdollar⟩

/-- The characters of a simple name may stand in a segment of a class name. -/
theorem isNamePart_of_mem_simpleName (h : isClassName name.toList = true) :
    ∀ c ∈ (object name).simpleName.toList, isNamePart c = true := by
  intro c hc
  rw [toList_simpleName_object] at hc
  exact (isNameSegment_iff.mp (isNameSegment_lastSegment h)).2 c (Text.mem_of_mem_lastSegment hc)

/-- A class has an empty simple name when its name ends with a dollar sign. -/
theorem simpleName_eq_empty_iff (h : isClassName name.toList = true) :
    (object name).simpleName = "" ↔ name.toList.getLast? = some '$' := by
  have hlast : lastSegment '.' name.toList ≠ [] := by
    intro hnil
    have := isNameSegment_lastSegment h
    rw [hnil] at this
    contradiction
  rw [← String.toList_eq_nil_iff, toList_simpleName_object, Text.lastSegment_eq_nil_iff hlast,
    Text.getLast?_lastSegment hlast]

/-! ## Adapter classes -/

/-- The name of an adapter class: the package, a dot, and the last segment. -/
theorem toList_adapterClass (owner : ErasedType) : owner.adapterClass.toList =
    generatedPackage.toList ++ '.' :: (owner.simpleName.toList ++ "_Adapter".toList) := by
  simp [adapterClass, String.toList_append]

/-- The last segment of an adapter's name has neither a dot nor a dollar sign. -/
theorem not_mem_adapter_segment (name : String) :
    '.' ∉ (object name).simpleName.toList ++ "_Adapter".toList ∧
      '$' ∉ (object name).simpleName.toList ++ "_Adapter".toList := by
  obtain ⟨hdot, hdollar⟩ := not_mem_simpleName name
  have hsuffix : '.' ∉ "_Adapter".toList ∧ '$' ∉ "_Adapter".toList := by decide
  simp only [List.mem_append, not_or]
  exact ⟨⟨hdot, hsuffix.1⟩, hdollar, hsuffix.2⟩

/-- The simple name of an adapter class is that of the owner with a suffix. -/
theorem simpleName_adapterClass (name : String) :
    (object (object name).adapterClass).simpleName = (object name).simpleName ++ "_Adapter" := by
  obtain ⟨hdot, hdollar⟩ := not_mem_adapter_segment name
  rw [← String.toList_inj, toList_simpleName_object, toList_adapterClass,
    Text.lastSegment_append _ hdot, Text.lastSegment_of_not_mem hdollar, String.toList_append]

/-- An adapter's name is that of a class when its last segment is a segment of class names. -/
theorem isClassName_adapterClass (name : String) :
    isClassName (object name).adapterClass.toList =
      isNameSegment ((object name).simpleName.toList ++ "_Adapter".toList) := by
  have hpackage : (Text.segments '.' generatedPackage.toList).all isNameSegment = true := by
    decide +kernel
  rw [isClassName, toList_adapterClass, Text.segments_append,
    Text.segments_of_not_mem (not_mem_adapter_segment name).1, List.all_append, hpackage]
  simp

/-- Adapter classes have class names, but for owners whose simple name is none. If a text reads as
a class type, the simple name of the class has neither a dot nor a dollar sign, and it is empty just
when the name of the class ends with a dollar sign. The simple name of the adapter class is that of
the owner with a suffix, and the name of the adapter class is read as that of a class unless a
digit starts the simple name of the owner. So the simple name is not empty and names an adapter
class exactly when it could be a class name on its own. -/
theorem adapterClass_names_class {s : String} (h : parse s = .ok (object name)) :
    ('.' ∉ (object name).simpleName.toList ∧ '$' ∉ (object name).simpleName.toList) ∧
    ((object name).simpleName = "" ↔ name.toList.getLast? = some '$') ∧
    (object (object name).adapterClass).simpleName = (object name).simpleName ++ "_Adapter" ∧
    (parse (object name).adapterClass = .ok (object (object name).adapterClass) ↔
      ∀ c ∈ (object name).simpleName.toList.head?, isNameStart c = true) ∧
    ((object name).simpleName ≠ "" ∧
        parse (object name).adapterClass = .ok (object (object name).adapterClass) ↔
      isNameSegment (object name).simpleName.toList = true) := by
  have hclass : isClassName name.toList = true :=
    (isClassName_iff _).mpr (wellFormed_object_iff.mp (wellFormed_of_read h)).exists_segments
  have hparts := isNamePart_of_mem_simpleName hclass
  have haccepted : parse (object name).adapterClass = .ok (object (object name).adapterClass) ↔
      ∀ c ∈ (object name).simpleName.toList.head?, isNameStart c = true := by
    rw [parse_object_iff (by simp [toList_adapterClass]), isClassName_adapterClass]
    exact isNameSegment_append_iff hparts (by decide +kernel)
  refine ⟨not_mem_simpleName name, simpleName_eq_empty_iff hclass, simpleName_adapterClass name,
    haccepted, ?_⟩
  -- A first character that may start a segment makes one, as the others may all go on in it.
  rw [haccepted, isNameSegment_iff, and_iff_left hparts, ne_eq, ← String.toList_eq_nil_iff]
  cases (object name).simpleName.toList with
  | nil => simp
  | cons first rest => simp

/-- The adapter class of a nested class has a class name. -/
theorem adapterClass_names_class_entry :
    parse "java.util.Map$Entry" = .ok (object "java.util.Map$Entry") ∧
      (object "java.util.Map$Entry").simpleName ≠ "" ∧
      parse (object "java.util.Map$Entry").adapterClass =
        .ok (object (object "java.util.Map$Entry").adapterClass) := by
  have h : parse "java.util.Map$Entry" = .ok (object "java.util.Map$Entry") := by rfl
  obtain ⟨-, -, -, -, hexact⟩ := adapterClass_names_class h
  exact ⟨h, hexact.mpr (by decide +kernel)⟩

/-- Not every adapter class has a class name: that of the anonymous class `Task$1` is refused for
the digit that its last segment starts with. -/
theorem not_forall_adapterClass_names_class :
    ¬∀ s name : String, parse s = .ok (object name) →
      (object name).simpleName ≠ "" ∧
      ('.' ∉ (object name).simpleName.toList ∧ '$' ∉ (object name).simpleName.toList) ∧
      parse (object name).adapterClass = .ok (object (object name).adapterClass) ∧
      (object (object name).adapterClass).simpleName =
        (object name).simpleName ++ "_Adapter" := by
  intro h
  obtain ⟨-, -, haccepted, -⟩ := h "org.example.Task$1" "org.example.Task$1" (by rfl)
  have hrefused : parse (object "org.example.Task$1").adapterClass =
      .error (.invalidClassName "org.gradle.internal.classpath.generated.1_Adapter") := by rfl
  rw [hrefused] at haccepted
  contradiction

end AccessorUpgrade.ErasedType
