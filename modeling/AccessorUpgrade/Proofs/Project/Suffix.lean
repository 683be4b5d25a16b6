import AccessorUpgrade.Project
import AccessorUpgrade.Proofs.Text.LetterCase
import AccessorUpgrade.Proofs.Text.Segments
import Mathlib.Logic.Relation

/-!
# The suffix of a project's registration classes

The suffix turns hyphens into nothing and joins what is between them: it is a homomorphism from
names joined with a hyphen to words (`suffixChars_append`), and a name without a hyphen is only
capitalized (`suffixChars_of_not_mem`). So hyphens that separate nothing, at either end of a name or
next to another hyphen, leave the registration classes alone (`suffixOf_homomorphism`).
-/

namespace AccessorUpgrade

namespace Naming

/-- Only an empty name is empty when it is capitalized. -/
theorem capitalizeChars_eq_nil_iff (name : List Char) : capitalizeChars name = [] ↔ name = [] := by
  cases name with
  | nil => simp [capitalizeChars]
  | cons first rest => simp [capitalizeChars, Text.toUpper_ne_nil]

/-- A name without a hyphen has none when it is capitalized. -/
theorem hyphen_not_mem_capitalizeChars {name : List Char} (h : '-' ∉ name) :
    '-' ∉ capitalizeChars name := by
  cases name with
  | nil => exact List.not_mem_nil
  | cons first rest =>
    obtain ⟨hfirst, hrest⟩ := List.ne_and_not_mem_of_not_mem_cons h
    intro hmem
    rw [capitalizeChars, List.mem_append] at hmem
    obtain hupper | hmem := hmem
    · exact hfirst (Text.eq_hyphen_of_mem_toUpper hupper).symm
    · exact hrest hmem

end Naming

namespace Project

variable {s : List Char} {p q : Project}

/-! ## Suffixes of lists of characters -/

/-- The suffix of two names with a hyphen between them is the suffix of the one before that of the
other. -/
theorem suffixChars_append (s t : List Char) :
    suffixChars (s ++ '-' :: t) = suffixChars s ++ suffixChars t := by
  rw [suffixChars, Text.segments_append, List.filter_append, List.flatMap_append]
  rfl

/-- A name without a hyphen is capitalized. -/
theorem suffixChars_of_not_mem (h : '-' ∉ s) : suffixChars s = Naming.capitalizeChars s := by
  rw [suffixChars, Text.segments_of_not_mem h]
  cases s with
  | nil => rfl
  | cons c rest => simp

/-- What the suffix consists of: the capitalized parts of the name that are not empty. -/
theorem mem_suffixChars_iff {c : Char} : c ∈ suffixChars s ↔
    ∃ part ∈ Text.segments '-' s, part ≠ [] ∧ c ∈ Naming.capitalizeChars part := by
  simp [suffixChars, and_assoc]

/-- A suffix has no hyphen. -/
theorem hyphen_not_mem_suffixChars (s : List Char) : '-' ∉ suffixChars s := by
  intro h
  obtain ⟨part, hpart, -, hmem⟩ := mem_suffixChars_iff.mp h
  exact Naming.hyphen_not_mem_capitalizeChars (Text.separator_not_mem_segment '-' s part hpart) hmem

/-- The suffix is empty exactly when the name has nothing but hyphens. -/
theorem suffixChars_eq_nil_iff (s : List Char) : suffixChars s = [] ↔ ∀ c ∈ s, c = '-' := by
  constructor
  · intro h c hc
    obtain rfl | ⟨part, hpart, hin⟩ := Text.mem_segments '-' hc
    · rfl
    -- A part with a character in it is in the suffix, and capitalizing does not make it empty.
    · have hne := List.ne_nil_of_mem hin
      obtain ⟨d, hd⟩ := List.exists_mem_of_ne_nil _
        (mt (Naming.capitalizeChars_eq_nil_iff part).mp hne)
      have hmem := mem_suffixChars_iff.mpr ⟨part, hpart, hne, hd⟩
      rw [h] at hmem
      exact absurd hmem List.not_mem_nil
  · intro h
    induction s with
    | nil => rfl
    | cons c rest ih =>
      obtain ⟨rfl, hrest⟩ := List.forall_mem_cons.mp h
      exact (suffixChars_append [] rest).trans (ih hrest)

/-! ## Suffixes of names -/

/-- The suffix that the project of a name has; nothing, if there is no such project. -/
def suffixOf (name : String) : String := ((ofName? name).map classSuffix).getD ""

/-- Only the empty name has no project. -/
theorem ofName?_eq_none_iff (name : String) : ofName? name = none ↔ name = "" := by
  rw [ofName?]
  split
  · next h => exact iff_of_true rfl h
  · next h => exact iff_of_false (Option.some_ne_none _) h

/-- The suffix of a name is that of its characters, also if the name is empty. -/
theorem suffixOf_eq (name : String) : suffixOf name = String.ofList (suffixChars name.toList) := by
  rw [suffixOf, ofName?]
  split
  · next h => rw [h]; rfl
  · rfl

/-- The suffix of a project is that of its name. -/
theorem suffixOf_name (p : Project) : suffixOf p.name = p.classSuffix := suffixOf_eq p.name

/-- The suffix of two names with a hyphen between them. -/
theorem suffixOf_append (a b : String) : suffixOf (a ++ "-" ++ b) = suffixOf a ++ suffixOf b := by
  have hchars : (a ++ "-" ++ b).toList = a.toList ++ '-' :: b.toList := by
    simp [String.toList_append]
  rw [suffixOf_eq, suffixOf_eq, suffixOf_eq, hchars, suffixChars_append, String.ofList_append]

/-- The empty name has no suffix. -/
theorem suffixOf_empty : suffixOf "" = "" := rfl

/-- The second name has a hyphen more than the first, in a place where it separates nothing: before
the name, after it, or next to another hyphen. -/
inductive MoreHyphens : String → String → Prop where
  | leading (name : String) : MoreHyphens name ("-" ++ name)
  | trailing (name : String) : MoreHyphens name (name ++ "-")
  | repeated (a b : String) : MoreHyphens (a ++ "-" ++ b) (a ++ "--" ++ b)

/-- A hyphen that separates nothing does not change the suffix. -/
theorem MoreHyphens.suffixOf_eq {x y : String} (h : MoreHyphens x y) :
    suffixOf x = suffixOf y := by
  cases h with
  | leading =>
    have happend := suffixOf_append "" x
    rwa [String.empty_append, suffixOf_empty, String.empty_append, eq_comm] at happend
  | trailing =>
    have happend := suffixOf_append x ""
    rwa [String.append_empty, suffixOf_empty, String.append_empty, eq_comm] at happend
  | repeated a b =>
    have hempty : a ++ "--" ++ b = a ++ "-" ++ "" ++ "-" ++ b := by
      simp [String.append_assoc]
    rw [hempty, suffixOf_append, suffixOf_append, suffixOf_append, suffixOf_empty,
      String.append_empty]

/-- Names that differ only in hyphens that separate nothing. -/
def SameParts : String → String → Prop := Relation.EqvGen MoreHyphens

/-- Names that differ only in hyphens that separate nothing have the same suffix. -/
theorem SameParts.suffixOf_eq {x y : String} (h : SameParts x y) : suffixOf x = suffixOf y := by
  induction h with
  | rel x y h => exact h.suffixOf_eq
  | refl x => rfl
  | symm x y _ ih => exact ih.symm
  | trans x y z _ _ ih ih' => exact ih.trans ih'

/-- The suffix is a homomorphism over hyphens: that of two names with a hyphen between them is the
suffix of the one before that of the other, and a name without a hyphen is capitalized. A suffix
has no hyphen, and it is empty exactly when the name has nothing but hyphens. So hyphens that
separate nothing never change the registration class of a project, in either channel. Only the
empty name has no project. -/
theorem suffixOf_homomorphism :
    (∀ a b : String, suffixOf (a ++ "-" ++ b) = suffixOf a ++ suffixOf b) ∧
    (∀ name : String, '-' ∉ name.toList → suffixOf name = Naming.capitalize name) ∧
    (∀ name : String, '-' ∉ (suffixOf name).toList) ∧
    (∀ name : String, suffixOf name = "" ↔ ∀ c ∈ name.toList, c = '-') ∧
    (∀ p q : Project, SameParts p.name q.name →
      ∀ channel, p.registrationClass channel = q.registrationClass channel) ∧
    ∀ name : String, ofName? name = none ↔ name = "" := by
  refine ⟨suffixOf_append, fun name h => ?_, fun name => ?_, fun name => ?_,
    fun p q h channel => ?_, ofName?_eq_none_iff⟩
  · rw [suffixOf_eq, suffixChars_of_not_mem h]
    rfl
  · rw [suffixOf_eq, String.toList_ofList]
    exact hyphen_not_mem_suffixChars name.toList
  · rw [suffixOf_eq, String.ofList_eq_empty_iff, suffixChars_eq_nil_iff]
  · rw [registrationClass, registrationClass, ← suffixOf_name, ← suffixOf_name, h.suffixOf_eq]

/-- Hyphens around a name and between its parts do not change the registration classes. -/
theorem suffixOf_homomorphism_repeated :
    '-' ∉ "core".toList ∧ suffixOf "core" = "Core" ∧
      SameParts "core-runtime" "-core--runtime-" ∧
      (⟨"core-runtime", by decide⟩ : Project).registrationClass .directCalls =
        (⟨"-core--runtime-", by decide⟩ : Project).registrationClass .directCalls := by
  obtain ⟨-, hcapitalize, -, -, hclass, -⟩ := suffixOf_homomorphism
  have hcore : '-' ∉ "core".toList := by decide
  have hsame : SameParts "core-runtime" "-core--runtime-" := by
    refine .trans _ "core--runtime" _ (.rel _ _ (.repeated "core" "runtime")) ?_
    exact .trans _ "core--runtime-" _ (.rel _ _ (.trailing _)) (.rel _ _ (.leading _))
  refine ⟨hcore, ?_, hsame, hclass ⟨"core-runtime", by decide⟩ ⟨_, by decide⟩ hsame .directCalls⟩
  rw [hcapitalize "core" hcore]
  decide +kernel

end Project

end AccessorUpgrade
