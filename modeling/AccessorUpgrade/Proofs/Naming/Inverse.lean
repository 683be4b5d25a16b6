import AccessorUpgrade.ErasedType
import AccessorUpgrade.Proofs.Naming.Property

/-!
# Names of properties and accessors undo each other

A property that starts with a lower-case letter of ASCII is the property of the accessors that are
named after it (`propertyChars_capitalizeChars`), and an accessor whose prefix an upper-case letter
of ASCII follows is named after its property (`capitalizeChars_propertyChars`). Nothing is said of
the rest of a name: it may hold prefixes again, or start with one. A name starts with at most one of
the three prefixes, so they can be tried in any order (`propertyBy_perm`).
-/

namespace AccessorUpgrade.Naming

variable {start start' rest name found found' : List Char} {c : Char}

/-! ## There and back -/

/-- An accessor that is named after a property has that property, if the property starts with a
lower-case letter of ASCII. -/
theorem propertyChars_capitalizeChars (hs : start ∈ accessorPrefixes) (hc : c.isLower = true)
    (rest : List Char) : propertyChars (start ++ capitalizeChars (c :: rest)) = c :: rest := by
  obtain ⟨u, hu, hsharp, hlower⟩ := Text.exists_toLower_of_isLower hc
  have hback : propertyChars (start ++ capitalizeChars (Text.toLower u ++ rest)) =
      Text.toLower u ++ rest :=
    propertyChars_capitalize hs (Text.recases_of_isUppercase hu hsharp)
  rwa [hlower] at hback

/-- The property of an accessor is what follows the prefix when it is capitalized, if an upper-case
letter of ASCII follows there. -/
theorem capitalizeChars_propertyChars (hs : start ∈ accessorPrefixes) (hc : c.isUpper = true)
    (rest : List Char) : capitalizeChars (propertyChars (start ++ c :: rest)) = c :: rest := by
  obtain ⟨hupper, l, hlower, hback⟩ := Text.toUpper_toLower_of_isUpper hc
  rw [propertyChars_upper hs hupper, hlower, List.singleton_append, capitalizeChars, hback]
  rfl

/-! ## The order of the prefixes -/

/-- What follows a prefix is found only in names that start with the prefix. -/
theorem isPrefix_of_afterPrefix? (h : afterPrefix? start name = some found) : start <+: name := by
  unfold afterPrefix? at h
  split at h
  next first rest hrest => exact ⟨_, List.isPrefixOf?_eq_some_iff_append_eq.mp hrest⟩
  next => contradiction

/-- Only one of the prefixes decides about a name, since none of them starts with another. -/
theorem eq_of_afterPrefix? (hs : start ∈ accessorPrefixes) (hs' : start' ∈ accessorPrefixes)
    (h : afterPrefix? start name = some found) (h' : afterPrefix? start' name = some found') :
    start = start' := by
  have hapart : ∀ s ∈ accessorPrefixes, ∀ s' ∈ accessorPrefixes, s <+: s' → s = s' := by decide
  rcases List.prefix_or_prefix_of_prefix (isPrefix_of_afterPrefix? h)
    (isPrefix_of_afterPrefix? h') with hprefix | hprefix
  · exact hapart _ hs _ hs' hprefix
  · exact (hapart _ hs' _ hs hprefix).symm

/-- The prefixes may be tried in any order. -/
theorem propertyBy_perm {prefixes : List (List Char)} (h : prefixes.Perm accessorPrefixes)
    (name : List Char) : propertyBy prefixes name = propertyChars name := by
  have hsome : prefixes.findSome? (afterPrefix? · name) =
      accessorPrefixes.findSome? (afterPrefix? · name) := by
    cases hfound : accessorPrefixes.findSome? (afterPrefix? · name) with
    | none =>
      rw [List.findSome?_eq_none_iff] at hfound ⊢
      exact fun start hs => hfound start (h.mem_iff.mp hs)
    | some found =>
      obtain ⟨start, hs, hafter⟩ := List.exists_of_findSome?_eq_some hfound
      cases hother : prefixes.findSome? (afterPrefix? · name) with
      | none =>
        have hnone := List.findSome?_eq_none_iff.mp hother start (h.mem_iff.mpr hs)
        rw [hafter] at hnone
        contradiction
      | some found' =>
        -- Whatever prefix is tried first, it is the one that decides.
        obtain ⟨start', hs', hafter'⟩ := List.exists_of_findSome?_eq_some hother
        obtain rfl := eq_of_afterPrefix? (h.mem_iff.mp hs') hs hafter' hafter
        rw [← hafter', hafter]
  rw [propertyBy, hsome]
  rfl

/-! ## Names as texts -/

/-- The text is not empty, and its first character is of some kind. -/
def StartsWith (kind : Char → Bool) (s : String) : Prop :=
  ∃ c tail, s.toList = c :: tail ∧ kind c = true

/-- The property of an accessor that is named after a property is that property. -/
theorem property_append_capitalize {start p : String} (hs : start.toList ∈ accessorPrefixes)
    (hp : StartsWith Char.isLower p) : property (start ++ capitalize p) = p := by
  obtain ⟨c, tail, htext, hc⟩ := hp
  rw [property, capitalize, String.toList_append, String.toList_ofList, htext,
    propertyChars_capitalizeChars hs hc, ← htext, String.ofList_toList]

/-- The capitalized property of an accessor is what follows the prefix of its name. -/
theorem capitalize_property_append {start rest : String} (hs : start.toList ∈ accessorPrefixes)
    (hrest : StartsWith Char.isUpper rest) : capitalize (property (start ++ rest)) = rest := by
  obtain ⟨c, tail, htext, hc⟩ := hrest
  rw [property, capitalize, String.toList_append, String.toList_ofList, htext,
    capitalizeChars_propertyChars hs hc, ← htext, String.ofList_toList]

/-- A getter's name is a prefix and the capitalized property. -/
theorem getter_eq_append (p : String) (isBoolean : Bool) :
    getter p isBoolean = (if isBoolean then "is" else "get") ++ capitalize p := by
  rw [← String.toList_inj, getter, capitalize, String.toList_append, String.toList_ofList,
    String.toList_ofList]
  cases isBoolean <;> rfl

/-- The setter that belongs to a getter differs from it in the prefix. -/
theorem setter_append (rest : String) : setter ("get" ++ rest) = "set" ++ rest := by
  rw [← String.toList_inj, setter, String.toList_append, String.toList_append, String.toList_ofList]
  exact replaceFirst_get rest.toList

/-- The rules for names undo each other. A property that starts with a lower-case letter of ASCII is
that of its getter, whatever its type; the setter that belongs to its getter with `get` has the
other prefix, and the same property. If an upper-case letter of ASCII follows the prefix of an
accessor, the capitalized property is what follows it, and a getter with `get` is the one that its
property has when the type is not `boolean`. The prefixes may be tried in any order. -/
theorem names_invert :
    (∀ p : String, StartsWith Char.isLower p → ∀ t : ErasedType,
      property (getter p (t == .boolean)) = p ∧
      setter ("get" ++ capitalize p) = "set" ++ capitalize p ∧
      property ("set" ++ capitalize p) = p) ∧
    (∀ start ∈ ["get", "set", "is"], ∀ rest : String, StartsWith Char.isUpper rest →
      capitalize (property (start ++ rest)) = rest) ∧
    (∀ rest : String, StartsWith Char.isUpper rest → ∀ t : ErasedType, t ≠ .boolean →
      getter (property ("get" ++ rest)) (t == .boolean) = "get" ++ rest) ∧
    ∀ prefixes : List (List Char), prefixes.Perm accessorPrefixes → ∀ name : String,
      String.ofList (propertyBy prefixes name.toList) = property name := by
  have hstarts : ∀ start ∈ ["get", "set", "is"], start.toList ∈ accessorPrefixes := by decide
  refine ⟨fun p hp t => ⟨?_, setter_append _, ?_⟩, fun start hs rest hrest => ?_,
    fun rest hrest t ht => ?_, fun prefixes hperm name => ?_⟩
  · rw [getter_eq_append]
    refine property_append_capitalize (hstarts _ ?_) hp
    split <;> simp
  · exact property_append_capitalize (hstarts "set" (by simp)) hp
  · exact capitalize_property_append (hstarts start hs) hrest
  · rw [getter_eq_append, capitalize_property_append (hstarts "get" (by simp)) hrest,
      if_neg (by simpa using ht)]
  · rw [propertyBy_perm hperm, property]

/-- The rules undo each other also where the property starts with a prefix or holds one: `isGetX`
and `getIsSet`. -/
theorem names_invert_isGetX :
    (StartsWith Char.isLower "isGetX" ∧ property (getter "isGetX" false) = "isGetX" ∧
      setter ("get" ++ capitalize "isGetX") = "set" ++ capitalize "isGetX" ∧
      property (getter "isGetX" true) = "isGetX") ∧
    (StartsWith Char.isUpper "IsSet" ∧ capitalize (property ("get" ++ "IsSet")) = "IsSet" ∧
      getter (property ("get" ++ "IsSet")) (ErasedType.void == .boolean) = "get" ++ "IsSet") ∧
    [set, get, is].Perm accessorPrefixes ∧
      String.ofList (propertyBy [set, get, is] "getIsSet".toList) = property "getIsSet" := by
  obtain ⟨hproperty, haccessor, hgetter, horder⟩ := names_invert
  have hlower : StartsWith Char.isLower "isGetX" := ⟨'i', "sGetX".toList, rfl, rfl⟩
  have hupper : StartsWith Char.isUpper "IsSet" := ⟨'I', "sSet".toList, rfl, rfl⟩
  have hperm : [set, get, is].Perm accessorPrefixes := by decide
  obtain ⟨hget, hset, -⟩ := hproperty "isGetX" hlower .void
  exact ⟨⟨hlower, hget, hset, (hproperty "isGetX" hlower .boolean).1⟩,
    ⟨hupper, haccessor "get" (by simp) "IsSet" hupper, hgetter "IsSet" hupper .void (by decide)⟩,
    hperm, horder _ hperm "getIsSet"⟩

end AccessorUpgrade.Naming
