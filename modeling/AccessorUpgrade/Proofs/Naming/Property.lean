import AccessorUpgrade.Naming
import AccessorUpgrade.Proofs.Text.LetterCase
import Mathlib.Data.List.Basic

/-!
# The property of an accessor

An accessor's name is one of three prefixes and a rest, and the property depends on how the rest
starts: an upper-case letter gives a property of its own (`propertyChars_upper`), and anything else
leaves the whole name (`propertyChars_other`). Naming an accessor after a property and asking for
its property again gives the property back, but for `ẞ` (`propertyChars_capitalize`).
-/

namespace AccessorUpgrade.Naming

open Text (isUppercase toLower toUpper Recases)

variable {start rest : List Char} {c : Char}

/-- `get` is one of the prefixes. -/
theorem get_mem : get ∈ accessorPrefixes := by simp [accessorPrefixes]

/-- `set` is one of the prefixes. -/
theorem set_mem : set ∈ accessorPrefixes := by simp [accessorPrefixes]

/-- A name that starts with one of the prefixes starts with no other, so only that one decides. -/
theorem propertyChars_append (hs : start ∈ accessorPrefixes) (rest : List Char) :
    propertyChars (start ++ rest) = (afterPrefix? start (start ++ rest)).getD (start ++ rest) := by
  simp only [accessorPrefixes, List.mem_cons, List.not_mem_nil, or_false] at hs
  rcases hs with rfl | rfl | rfl
  -- The first letters of the other two prefixes differ already.
  · have hget : afterPrefix? get (is ++ rest) = none := rfl
    have hset : afterPrefix? set (is ++ rest) = none := rfl
    simp only [propertyChars, propertyBy, accessorPrefixes, List.findSome?, hget, hset]
    cases afterPrefix? is (is ++ rest) <;> rfl
  · have his : afterPrefix? is (get ++ rest) = none := rfl
    have hset : afterPrefix? set (get ++ rest) = none := rfl
    simp only [propertyChars, propertyBy, accessorPrefixes, List.findSome?, his, hset]
    cases afterPrefix? get (get ++ rest) <;> rfl
  · have his : afterPrefix? is (set ++ rest) = none := rfl
    have hget : afterPrefix? get (set ++ rest) = none := rfl
    simp only [propertyChars, propertyBy, accessorPrefixes, List.findSome?, his, hget]
    cases afterPrefix? set (set ++ rest) <;> rfl

/-- What follows a prefix counts when it starts with an upper-case letter. -/
theorem afterPrefix?_append (start : List Char) (c : Char) (rest : List Char) :
    afterPrefix? start (start ++ c :: rest) =
      if isUppercase c then some (toLower c ++ rest) else none := by
  rw [afterPrefix?, List.isPrefixOf?_eq_some_iff_append_eq.mpr rfl]

/-- An upper-case letter after the prefix starts the property, in lower case. -/
theorem propertyChars_upper (hs : start ∈ accessorPrefixes) (hc : isUppercase c = true) :
    propertyChars (start ++ c :: rest) = toLower c ++ rest := by
  rw [propertyChars_append hs, afterPrefix?_append, if_pos hc, Option.getD_some]

/-- Without an upper-case letter after the prefix the property is the whole name. -/
theorem propertyChars_other (hs : start ∈ accessorPrefixes)
    (h : ∀ c tail, rest = c :: tail → isUppercase c = false) :
    propertyChars (start ++ rest) = start ++ rest := by
  rw [propertyChars_append hs]
  cases rest with
  | nil =>
    simp only [accessorPrefixes, List.mem_cons, List.not_mem_nil, or_false] at hs
    rcases hs with rfl | rfl | rfl <;> rfl
  | cons c tail =>
    rw [afterPrefix?_append, h c tail rfl]
    rfl

/-- An accessor that is named after a property has that property, if the property starts with the
lower case of a letter that returns. -/
theorem propertyChars_capitalize (hs : start ∈ accessorPrefixes) (h : Recases c) :
    propertyChars (start ++ capitalizeChars (toLower c ++ rest)) = toLower c ++ rest := by
  obtain ⟨l, tail, u, hlower, hupper, hu, hback⟩ := h
  have hcapital : capitalizeChars (toLower c ++ rest) = u :: (tail ++ rest) := by
    rw [hlower, List.cons_append, capitalizeChars, hupper]
    rfl
  rw [hcapital, propertyChars_upper hs hu, hback, hlower]
  rfl

/-- An accessor that is named after a property in `ß` has another property. -/
theorem propertyChars_capitalize_sharp (hs : start ∈ accessorPrefixes) (rest : List Char) :
    propertyChars (start ++ capitalizeChars (toLower 'ẞ' ++ rest)) ≠ toLower 'ẞ' ++ rest := by
  obtain ⟨hlower, hupper, hu, hback⟩ := Text.toUpper_toLower_sharp
  have hcapital : capitalizeChars (toLower 'ẞ' ++ rest) = 'S' :: ('S' :: rest) := by
    rw [hlower, List.cons_append, capitalizeChars, hupper]
    rfl
  rw [hcapital, propertyChars_upper hs hu, hback, hlower]
  simp

/-! ## Empty names -/

/-- What follows a prefix is not empty, if it counts. -/
theorem afterPrefix?_ne_nil {name found : List Char} (h : afterPrefix? start name = some found) :
    found ≠ [] := by
  unfold afterPrefix? at h
  split at h
  next first rest _ =>
    split at h
    · obtain rfl := Option.some.inj h
      exact List.append_ne_nil_of_left_ne_nil (Text.toLower_ne_nil first) rest
    · contradiction
  next => contradiction

/-- Only an empty name has an empty property. -/
theorem propertyChars_eq_nil_iff (name : List Char) : propertyChars name = [] ↔ name = [] := by
  constructor
  · intro h
    rw [propertyChars, propertyBy] at h
    cases hfound : accessorPrefixes.findSome? (afterPrefix? · name) with
    | none => rwa [hfound] at h
    | some found =>
      obtain ⟨start, -, hafter⟩ := List.exists_of_findSome?_eq_some hfound
      rw [hfound] at h
      exact absurd h (afterPrefix?_ne_nil hafter)
  · rintro rfl
    rfl

/-! ## Accessors that follow from a method -/

/-- The name of the setter differs from that of the method in the prefix only. -/
theorem replaceFirst_get (rest : List Char) :
    Text.replaceFirst get set (get ++ rest) = set ++ rest := rfl

/-- After a prefix there is an upper-case letter, or what is there is none. -/
theorem upper_or_other (rest : List Char) :
    (∃ c tail, rest = c :: tail ∧ isUppercase c = true) ∨
      ∀ c tail, rest = c :: tail → isUppercase c = false := by
  cases rest with
  | nil => exact .inr (by simp)
  | cons c tail =>
    cases hc : isUppercase c with
    | true => exact .inl ⟨c, tail, rfl, hc⟩
    | false =>
      refine .inr fun c' tail' h => ?_
      rw [← (List.cons.inj h).1, hc]

/-- The getter that follows from a method has the property of the method, unless `ẞ` follows the
prefix there. A name without an upper-case letter is a property too; it starts with the lower case
of `G`. -/
theorem propertyChars_getter_iff (hs : start ∈ accessorPrefixes) (rest : List Char) :
    propertyChars (start ++ capitalizeChars (propertyChars (get ++ rest))) =
      propertyChars (get ++ rest) ↔ rest.head? ≠ some 'ẞ' := by
  rcases upper_or_other rest with ⟨c, tail, rfl, hc⟩ | hother
  · rw [propertyChars_upper get_mem hc, List.head?_cons, ne_eq, Option.some.injEq]
    by_cases hsharp : c = 'ẞ'
    · subst hsharp
      simp only [not_true_eq_false, iff_false]
      exact propertyChars_capitalize_sharp hs tail
    · simp only [hsharp, not_false_eq_true, iff_true]
      exact propertyChars_capitalize hs (Text.recases_of_isUppercase hc hsharp)
  · obtain ⟨hupper, hlower⟩ := Text.toLower_capital_g
    have hname : get ++ rest = toLower 'G' ++ ('e' :: 't' :: rest) := by
      rw [hlower]
      rfl
    rw [propertyChars_other get_mem hother, hname,
      propertyChars_capitalize hs (Text.recases_of_isUppercase hupper (by decide))]
    refine iff_of_true rfl ?_
    intro hhead
    obtain ⟨tail, hrest⟩ := List.head?_eq_some_iff.mp hhead
    have hsharp := hother _ _ hrest
    rw [Text.isUppercase_sharp] at hsharp
    contradiction

/-- The setter that follows from a method has the property of the method exactly when an upper-case
letter follows the prefix. -/
theorem propertyChars_setter_iff (rest : List Char) :
    propertyChars (Text.replaceFirst get set (get ++ rest)) = propertyChars (get ++ rest) ↔
      ∃ c tail, rest = c :: tail ∧ isUppercase c = true := by
  rw [replaceFirst_get]
  rcases upper_or_other rest with ⟨c, tail, rfl, hc⟩ | hother
  · rw [propertyChars_upper get_mem hc, propertyChars_upper set_mem hc]
    exact iff_of_true rfl ⟨c, tail, rfl, hc⟩
  · rw [propertyChars_other get_mem hother, propertyChars_other set_mem hother]
    refine iff_of_false (fun h => absurd (List.append_cancel_right h) (by decide)) ?_
    rintro ⟨c, tail, hrest, hc⟩
    rw [hother c tail hrest] at hc
    contradiction

end AccessorUpgrade.Naming
