import AccessorUpgrade.ErasedType.Spelling
import AccessorUpgrade.Proofs.Text.Blank

/-!
# The parts of a spelling

A spelling has a name, with white space before it, and after it white space and pairs of brackets.
When the name gives off all that may stand around it, every text has exactly one name and one number
of pairs: those that the reader finds (`hasParts_splitSpelling`, `HasParts.splitSpelling_eq`).

The reader takes white space and pairs off the end of a text, one by one. What may stand after a
name is described from the front here, so the proofs turn the text around: what stands there is
taken off as a whole, whatever comes before it (`Dimensions.peelBrackets`).
-/

namespace AccessorUpgrade.ErasedType

variable {s name after rest : List Char} {pairs m n : Nat} {c : Char}

/-- What may stand after a name: white space, and some number of bracket pairs in it. -/
inductive Dimensions : Nat → List Char → Prop where
  | nil : Dimensions 0 []
  | blank {n : Nat} {c : Char} {rest : List Char} (hc : Text.isBlank c = true)
      (h : Dimensions n rest) : Dimensions n (c :: rest)
  | pair {n : Nat} {rest : List Char} (h : Dimensions n rest) :
      Dimensions (n + 1) ('[' :: ']' :: rest)

/-- The name of a text and the number of its bracket pairs: white space stands before the name, and
white space and the pairs after it. Neither can be taken off the name. -/
structure HasParts (s name : List Char) (pairs : Nat) : Prop where
  exists_around : ∃ before after, s = before ++ (name ++ after) ∧
    (∀ c ∈ before, Text.isBlank c = true) ∧ Dimensions pairs after
  first_not_blank : ∀ c ∈ name.head?, Text.isBlank c = false
  last_not_blank : ∀ c ∈ name.getLast?, Text.isBlank c = false
  no_pair : ¬['[', ']'] <:+ name

namespace Dimensions

/-- White space may stand after a name. -/
theorem of_blanks (h : ∀ c ∈ rest, Text.isBlank c = true) : Dimensions 0 rest := by
  induction rest with
  | nil => exact nil
  | cons c rest ih =>
    obtain ⟨hc, hrest⟩ := List.forall_mem_cons.mp h
    exact blank hc (ih hrest)

/-- Pairs may stand after pairs. -/
theorem append (h : Dimensions m after) (hrest : Dimensions n rest) :
    Dimensions (m + n) (after ++ rest) := by
  induction h with
  | nil => rwa [Nat.zero_add]
  | blank hc _ ih => exact blank hc ih
  | pair _ ih =>
    rw [Nat.add_right_comm]
    exact pair ih

end Dimensions

/-! ## Taking brackets off -/

/-- White space at the end is taken off. -/
theorem peelBrackets_blank (hc : Text.isBlank c = true) (r : List Char) :
    peelBrackets (c :: r) = peelBrackets r := by
  rw [peelBrackets.eq_def]
  split
  · contradiction
  · next heq =>
    obtain ⟨rfl, -⟩ := List.cons.inj heq
    exact absurd hc (by decide)
  · next heq =>
    obtain ⟨rfl, rfl⟩ := List.cons.inj heq
    rw [if_pos hc]

/-- Nothing is taken off a text that ends with neither white space nor a pair. -/
theorem peelBrackets_eq_self {r : List Char} (hblank : ∀ c ∈ r.head?, Text.isBlank c = false)
    (hpair : ¬[']', '['] <+: r) : peelBrackets r = (0, r) := by
  rw [peelBrackets.eq_def]
  split
  · rfl
  · next rest => exact absurd ⟨rest, rfl⟩ hpair
  · next c rest _ => rw [if_neg (by simp [hblank c rfl])]

/-- All that may stand after a name is taken off, whatever comes before it. -/
theorem Dimensions.peelBrackets (h : Dimensions n after) (r : List Char) :
    ErasedType.peelBrackets (after.reverse ++ r) =
      ((ErasedType.peelBrackets r).1 + n, (ErasedType.peelBrackets r).2) := by
  induction h generalizing r with
  | nil => rfl
  | blank hc _ ih =>
    rw [List.reverse_cons, List.append_assoc, ih, List.singleton_append, peelBrackets_blank hc]
  | @pair n rest _ ih =>
    have hturn : ('[' :: ']' :: rest).reverse ++ r = rest.reverse ++ ']' :: '[' :: r := by simp
    rw [hturn, ih, ErasedType.peelBrackets]
    simp only [Nat.add_assoc, Nat.add_comm 1 n]

/-- What has been taken off may stand after a name. -/
theorem exists_dimensions (r : List Char) :
    ∃ after, r.reverse = (peelBrackets r).2.reverse ++ after ∧
      Dimensions (peelBrackets r).1 after := by
  fun_induction peelBrackets r with
  | case1 => exact ⟨[], rfl, .nil⟩
  | case2 rest pairs name hpeel ih =>
    rw [hpeel] at ih
    obtain ⟨after, hafter, hdimensions⟩ := ih
    exact ⟨after ++ ['[', ']'], by simp [hafter], hdimensions.append (.pair .nil)⟩
  | case3 c rest _ hc ih =>
    obtain ⟨after, hafter, hdimensions⟩ := ih
    exact ⟨after ++ [c], by simp [hafter], hdimensions.append (.blank hc .nil)⟩
  | case4 c rest _ _ => exact ⟨[], by simp, .nil⟩

/-- What is left ends with neither white space nor a pair. -/
theorem peelBrackets_ends (r : List Char) :
    (∀ c ∈ (peelBrackets r).2.head?, Text.isBlank c = false) ∧
      ¬[']', '['] <+: (peelBrackets r).2 := by
  fun_induction peelBrackets r with
  | case1 => simp
  | case2 rest pairs name hpeel ih => simpa [hpeel] using ih
  | case3 c rest _ _ ih => exact ih
  | case4 c rest hpair hc =>
    refine ⟨by simpa using hc, ?_⟩
    rintro ⟨more, hmore⟩
    obtain ⟨rfl, hrest⟩ := List.cons.inj hmore
    exact hpair more rfl hrest.symm

/-! ## The reader finds the parts -/

/-- What the reader finds are parts of the text. -/
theorem hasParts_splitSpelling (s : List Char) :
    HasParts s (splitSpelling s).1 (splitSpelling s).2 := by
  obtain ⟨after, hs, hafter⟩ := exists_dimensions s.reverse
  obtain ⟨hlast, hpair⟩ := peelBrackets_ends s.reverse
  -- The name is what is left of the text, without the white space at its start.
  obtain ⟨before, hbefore, hleft⟩ := Text.exists_blanks_append (peelBrackets s.reverse).2.reverse
  have hsuffix : (splitSpelling s).1 <:+ (peelBrackets s.reverse).2.reverse := ⟨before, hleft.symm⟩
  refine ⟨⟨before, after, ?_, hbefore, hafter⟩, Text.not_isBlank_of_head_trimLeft _, ?_, ?_⟩
  · rw [List.reverse_reverse, hleft, List.append_assoc] at hs
    exact hs
  · intro c hc
    obtain ⟨start, hstart⟩ := List.getLast?_eq_some_iff.mp hc
    refine hlast c ?_
    rw [← List.getLast?_reverse, hleft]
    simp [show Text.trimLeft (peelBrackets s.reverse).2.reverse = _ from hstart]
  · intro h
    rw [← List.reverse_suffix] at hpair
    exact hpair (h.trans hsuffix)

/-- No bracket is taken off a name with white space before it, and the white space is trimmed. -/
theorem peelBrackets_name {before : List Char} (hbefore : ∀ c ∈ before, Text.isBlank c = true)
    (hfirst : ∀ c ∈ name.head?, Text.isBlank c = false)
    (hlast : ∀ c ∈ name.getLast?, Text.isBlank c = false) (hpair : ¬['[', ']'] <:+ name) :
    (peelBrackets (name.reverse ++ before.reverse)).1 = 0 ∧
      Text.trimLeft (peelBrackets (name.reverse ++ before.reverse)).2.reverse = name := by
  cases hname : name.reverse with
  | nil =>
    -- Without a name all is white space, and taken off.
    obtain rfl := List.reverse_eq_nil_iff.mp hname
    have hpeel := (Dimensions.of_blanks hbefore).peelBrackets []
    rw [List.append_nil] at hpeel
    rw [List.nil_append, hpeel]
    exact ⟨rfl, rfl⟩
  | cons c more =>
    have hc : Text.isBlank c = false := by
      refine hlast c ?_
      rw [List.getLast?_eq_head?_reverse, hname]
      rfl
    have hends : ¬[']', '['] <+: c :: more ++ before.reverse := by
      intro h
      obtain ⟨rfl, hrest⟩ := List.cons_prefix_cons.mp h
      cases more with
      | nil =>
        -- A name that is a bracket makes no pair with the white space before it.
        have hopen := hbefore '[' (List.mem_reverse.mp (hrest.mem List.mem_cons_self))
        exact absurd hopen (by decide)
      | cons d more =>
        obtain ⟨rfl, -⟩ := List.cons_prefix_cons.mp hrest
        refine hpair (List.reverse_prefix.mp ?_)
        rw [hname]
        exact ⟨more, rfl⟩
    rw [peelBrackets_eq_self (by simpa using hc) hends, ← hname, List.reverse_append,
      List.reverse_reverse, List.reverse_reverse]
    exact ⟨rfl, Text.dropWhile_run hbefore hfirst⟩

/-- The reader finds the parts of a text. -/
theorem HasParts.splitSpelling_eq (h : HasParts s name pairs) :
    splitSpelling s = (name, pairs) := by
  obtain ⟨⟨before, after, rfl, hbefore, hafter⟩, hfirst, hlast, hpair⟩ := h
  obtain ⟨hpairs, htrim⟩ := peelBrackets_name hbefore hfirst hlast hpair
  have hpeel := hafter.peelBrackets (name.reverse ++ before.reverse)
  rw [hpairs, Nat.zero_add] at hpeel
  have hturn : (before ++ (name ++ after)).reverse =
      after.reverse ++ (name.reverse ++ before.reverse) := by simp
  rw [splitSpelling, hturn, hpeel]
  exact congrArg (·, pairs) htrim

end AccessorUpgrade.ErasedType
