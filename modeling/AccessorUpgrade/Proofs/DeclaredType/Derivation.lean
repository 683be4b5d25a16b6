import AccessorUpgrade.DeclaredType.Spelling
import AccessorUpgrade.Proofs.ErasedType.Characters
import AccessorUpgrade.Proofs.Text.Blank
import Mathlib.Logic.Function.Basic

/-!
# The grammar of declared types

A declared type is written as a name, or as a name, its type arguments between angle brackets with
commas between them, and white space. A name is any spelling of an erased type, with the white space
around it. A derivation is a tree of the grammar; it has a text, it stands for a declared type, and
its brackets are nested to some depth. The grammar is unambiguous: a derivation is determined by its
text (`text_injective`), since a name ends before the first bracket or comma, and white space after
a closing bracket before the next one.
-/

namespace AccessorUpgrade.DeclaredType

/-- A name in the grammar: a text that reads as an erased type. -/
structure Name where
  text : List Char
  erasure : ErasedType
  reads : ErasedType.read text = .ok erasure

/-- White space in the grammar, possibly none. -/
structure Blanks where
  text : List Char
  blank : ∀ c ∈ text, Text.isBlank c = true

mutual

/-- The derivations of a declared type. -/
inductive Derivation where
  | name (n : Name)
  | applied (n : Name) (arguments : Arguments) (blanks : Blanks)

/-- The derivations of a list of type arguments, of which there is at least one. -/
inductive Arguments where
  | last (d : Derivation)
  | more (d : Derivation) (others : Arguments)

end

mutual

/-- The text that a derivation produces. -/
def Derivation.text : Derivation → List Char
  | .name n => n.text
  | .applied n arguments blanks => n.text ++ '<' :: (arguments.text ++ '>' :: blanks.text)

/-- The text of type arguments, with a comma between each two. -/
def Arguments.text : Arguments → List Char
  | .last d => d.text
  | .more d others => d.text ++ ',' :: others.text

end

mutual

/-- The declared type that a derivation stands for. -/
def Derivation.tree : Derivation → DeclaredType
  | .name n => raw n.erasure
  | .applied n arguments _ => mk n.erasure arguments.trees

/-- The type arguments in the order they are written. -/
def Arguments.trees : Arguments → List DeclaredType
  | .last d => [d.tree]
  | .more d others => d.tree :: others.trees

end

mutual

/-- How deep the angle brackets of a derivation are nested. -/
def Derivation.nesting : Derivation → Nat
  | .name _ => 0
  | .applied _ arguments _ => arguments.nesting + 1

/-- How deep the angle brackets of some type arguments are nested: as deep as those of the deepest
one. -/
def Arguments.nesting : Arguments → Nat
  | .last d => d.nesting
  | .more d others => max d.nesting others.nesting

end

/-- What follows a text with type arguments follows the white space after its closing bracket. -/
theorem Derivation.text_applied_append (n : Name) (arguments : Arguments) (blanks : Blanks)
    (rest : List Char) : (Derivation.applied n arguments blanks).text ++ rest =
      n.text ++ '<' :: (arguments.text ++ '>' :: (blanks.text ++ rest)) := by
  simp [Derivation.text]

/-- What follows type arguments follows the last one. -/
theorem Arguments.text_more_append (d : Derivation) (others : Arguments) (rest : List Char) :
    (Arguments.more d others).text ++ rest = d.text ++ ',' :: (others.text ++ rest) := by
  simp [Arguments.text]

/-- The derivations of type arguments one by one. -/
def Arguments.toList : Arguments → List Derivation
  | .last d => [d]
  | .more d others => d :: others.toList

/-- Type arguments stand for the types of their derivations. -/
theorem Arguments.trees_eq_map (arguments : Arguments) :
    arguments.trees = arguments.toList.map Derivation.tree := by
  match arguments with
  | .last d => rfl
  | .more d others => rw [trees, toList, List.map_cons, others.trees_eq_map]

/-- Type arguments stay below a depth as soon as each of them does, however many they are. -/
theorem Arguments.nesting_lt_iff (arguments : Arguments) (k : Nat) :
    arguments.nesting < k ↔ ∀ d ∈ arguments.toList, d.nesting < k := by
  match arguments with
  | .last d => simp [nesting, toList]
  | .more d others =>
    rw [nesting, Nat.max_lt, nesting_lt_iff others k, toList]
    simp

/-! ## Where the parts of a text end -/

/-- A type ends with the text, before a comma, or before a closing bracket. -/
def EndsType (rest : List Char) : Prop := ∀ c ∈ rest.head?, c = ',' ∨ c = '>'

/-- A type ends before a comma. -/
theorem endsType_comma (rest : List Char) : EndsType (',' :: rest) := by
  intro c hc
  exact .inl (by simpa using hc.symm)

/-- A type ends before a closing bracket. -/
theorem endsType_close (rest : List Char) : EndsType ('>' :: rest) := by
  intro c hc
  exact .inr (by simpa using hc.symm)

/-- White space ends where a type ends. -/
theorem EndsType.not_isBlank {rest : List Char} (h : EndsType rest) :
    ∀ c ∈ rest.head?, Text.isBlank c = false := by
  intro c hc
  obtain rfl | rfl := h c hc
  · decide
  · decide

/-- Where a type ends there is no white space to trim. -/
theorem EndsType.trimLeft_eq {rest : List Char} (h : EndsType rest) :
    Text.trimLeft rest = rest := by
  cases rest with
  | nil => rfl
  | cons c tail => exact List.dropWhile_cons_of_neg (by simp [h.not_isBlank c rfl])

/-- A name ends where a type ends. -/
theorem EndsType.not_isNameText {rest : List Char} (h : EndsType rest) :
    ∀ c ∈ rest.head?, isNameText c = false := by
  intro c hc
  obtain rfl | rfl := h c hc
  · decide
  · decide

/-- A name ends before an opening bracket. -/
theorem not_isNameText_open (rest : List Char) :
    ∀ c ∈ ('<' :: rest).head?, isNameText c = false := by
  intro c hc
  obtain rfl : '<' = c := by simpa using hc
  decide

/-- No angle bracket and no comma stands in a spelling that reads as an erased type. -/
theorem isNameText_of_read {s : List Char} {t : ErasedType} (h : ErasedType.read s = .ok t) :
    ∀ c ∈ s, isNameText c = true := by
  intro c hc
  by_contra hne
  obtain rfl | rfl | rfl : c = '<' ∨ c = ',' ∨ c = '>' := by
    simpa [isNameText, or_assoc, imp_iff_not_or] using hne
  -- None of the three is among the characters that a spelling consists of.
  all_goals
    have := ErasedType.mem_of_read h hc
    revert this
    decide +kernel

/-- A name has no angle bracket and no comma. -/
theorem Name.isNameText (n : Name) : ∀ c ∈ n.text, isNameText c = true := isNameText_of_read n.reads

/-- A name has a text. -/
theorem Name.text_length_pos (n : Name) : 0 < n.text.length :=
  List.length_pos_iff.mpr (ErasedType.ne_nil_of_read n.reads)

/-- A name is determined by its text. -/
theorem Name.ext_text {n n' : Name} (h : n.text = n'.text) : n = n' := by
  obtain ⟨text, erasure, reads⟩ := n
  obtain ⟨text', erasure', reads'⟩ := n'
  obtain rfl : text = text' := h
  obtain rfl : erasure = erasure' := by
    rw [reads] at reads'
    exact Except.ok.inj reads'
  rfl

/-! ## A derivation is determined by its text -/

/-- Where a type ends after a name, no bracket opens after the same text. -/
theorem Name.not_opens (n n' : Name) {rest inner : List Char} (hr : EndsType rest)
    (h : n.text ++ rest = n'.text ++ '<' :: inner) : False := by
  obtain ⟨-, hrest⟩ := Text.run_append_inj n.isNameText hr.not_isNameText n'.isNameText
    (not_isNameText_open _) h
  -- The rest starts with the bracket then, but no type ends before one.
  obtain hc | hc := hr '<' (by rw [hrest]; rfl)
  · contradiction
  · contradiction

mutual

/-- Derivations whose texts start a common text, with a type ending after each, are the same. -/
theorem Derivation.append_inj : ∀ (d d' : Derivation) {rest rest' : List Char},
    EndsType rest → EndsType rest' → d.text ++ rest = d'.text ++ rest' → d = d' ∧ rest = rest'
  | .name n, .name n', rest, rest', hr, hr', h => by
    obtain ⟨hn, hrest⟩ := Text.run_append_inj n.isNameText hr.not_isNameText n'.isNameText
      hr'.not_isNameText h
    exact ⟨congrArg Derivation.name (Name.ext_text hn), hrest⟩
  | .name n, .applied n' arguments' blanks', rest, rest', hr, _, h => by
    rw [Derivation.text_applied_append] at h
    exact (n.not_opens n' hr h).elim
  | .applied n arguments blanks, .name n', rest, rest', _, hr', h => by
    rw [Derivation.text_applied_append] at h
    exact (n'.not_opens n hr' h.symm).elim
  | .applied n arguments blanks, .applied n' arguments' blanks', rest, rest', hr, hr', h => by
    rw [Derivation.text_applied_append, Derivation.text_applied_append] at h
    obtain ⟨hn, hinner⟩ := Text.run_append_inj n.isNameText (not_isNameText_open _) n'.isNameText
      (not_isNameText_open _) h
    -- Both lists of arguments end at their closing brackets, and the white space after those where
    -- the type ends.
    obtain ⟨harguments, hblanks⟩ := Arguments.append_inj arguments arguments'
      (List.cons.inj hinner).2
    obtain ⟨hb, hrest⟩ := Text.run_append_inj blanks.blank hr.not_isBlank blanks'.blank
      hr'.not_isBlank hblanks
    obtain ⟨btext, bblank⟩ := blanks
    obtain ⟨btext', bblank'⟩ := blanks'
    obtain rfl : btext = btext' := hb
    exact ⟨by rw [Name.ext_text hn, harguments], hrest⟩

/-- Type arguments whose texts start a common text, with a closing bracket after each, are the
same. -/
theorem Arguments.append_inj : ∀ (as as' : Arguments) {rest rest' : List Char},
    as.text ++ '>' :: rest = as'.text ++ '>' :: rest' → as = as' ∧ rest = rest'
  | .last d, .last d', rest, rest', h => by
    obtain ⟨hd, hrest⟩ := Derivation.append_inj d d' (endsType_close _) (endsType_close _) h
    exact ⟨congrArg Arguments.last hd, (List.cons.inj hrest).2⟩
  | .last d, .more d' others', rest, rest', h => by
    -- The first arguments are the same, so a bracket and a comma would stand in one place.
    rw [Arguments.text_more_append] at h
    have := (Derivation.append_inj d d' (endsType_close _) (endsType_comma _) h).2
    simp at this
  | .more d others, .last d', rest, rest', h => by
    rw [Arguments.text_more_append] at h
    have := (Derivation.append_inj d d' (endsType_comma _) (endsType_close _) h).2
    simp at this
  | .more d others, .more d' others', rest, rest', h => by
    rw [Arguments.text_more_append, Arguments.text_more_append] at h
    obtain ⟨hd, hothers⟩ := Derivation.append_inj d d' (endsType_comma _) (endsType_comma _) h
    obtain ⟨ho, hrest⟩ := Arguments.append_inj others others' (List.cons.inj hothers).2
    exact ⟨by rw [hd, ho], hrest⟩

end

/-- The grammar is unambiguous. -/
theorem Derivation.text_injective : Function.Injective Derivation.text := by
  intro d d' h
  have hnil : EndsType [] := by simp [EndsType]
  exact (d.append_inj d' hnil hnil (by rw [h])).1

end AccessorUpgrade.DeclaredType
