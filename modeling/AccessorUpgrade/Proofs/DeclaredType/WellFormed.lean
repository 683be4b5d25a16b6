import AccessorUpgrade.Proofs.DeclaredType.Reading
import AccessorUpgrade.Proofs.ErasedType.WellFormed

/-!
# Well-formed types and their spellings

A declared type is well-formed when each erased type in it is, and its arguments are nested at most
255 deep. Writing and reading are inverse on the well-formed types and on no others
(`parse_spelling_exact`).

A spelling is the text of a derivation: one blank follows each comma, and the grammar has it before
the name of the next argument. So the type is read from its spelling by what is known of the
grammar, and the two measures of depth agree.
-/

namespace AccessorUpgrade.DeclaredType

open ErasedType (nestingLimit)

mutual

/-- The erased types in a type, from left to right. -/
def erasures : DeclaredType → List ErasedType
  | mk erasure arguments => erasure :: argumentErasures arguments

/-- The erased types in type arguments. -/
def argumentErasures : List DeclaredType → List ErasedType
  | [] => []
  | t :: rest => t.erasures ++ argumentErasures rest

end

mutual

/-- How deep the arguments of a type are nested. -/
def nesting : DeclaredType → Nat
  | mk _ arguments => argumentNesting arguments

/-- How deep a list of type arguments makes a type: one deeper than the deepest of them. -/
def argumentNesting : List DeclaredType → Nat
  | [] => 0
  | t :: rest => max (t.nesting + 1) (argumentNesting rest)

end

/-- Every erased type in the type is well-formed, and its arguments are nested at most 255 deep. -/
def WellFormed (t : DeclaredType) : Prop :=
  (∀ erasure ∈ t.erasures, erasure.WellFormed) ∧ t.nesting ≤ 255

/-! ## Depth and erasures of a derivation -/

mutual

/-- A type is nested as deep as the brackets of its derivation. -/
theorem Derivation.nesting_tree : ∀ d : Derivation, d.tree.nesting = d.nesting
  | .name n => rfl
  | .applied n arguments blanks => by
    rw [Derivation.tree, Derivation.nesting, DeclaredType.nesting, arguments.nesting_trees]

/-- Type arguments make a type one deeper than their brackets. -/
theorem Arguments.nesting_trees : ∀ arguments : Arguments,
    argumentNesting arguments.trees = arguments.nesting + 1
  | .last d => by
    rw [Arguments.trees, Arguments.nesting, argumentNesting, argumentNesting, d.nesting_tree]
    omega
  | .more d others => by
    rw [Arguments.trees, Arguments.nesting, argumentNesting, d.nesting_tree, others.nesting_trees]
    omega

end

mutual

/-- Every erased type in a type has been read as a name. -/
theorem Derivation.wellFormed_erasures : ∀ d : Derivation,
    ∀ erasure ∈ d.tree.erasures, erasure.WellFormed
  | .name n, erasure, h => by
    obtain rfl : erasure = n.erasure := by
      simpa [Derivation.tree, raw, erasures, argumentErasures] using h
    exact ErasedType.wellFormed_of_read n.reads
  | .applied n arguments blanks, erasure, h => by
    rw [Derivation.tree, erasures, List.mem_cons] at h
    obtain rfl | h := h
    · exact ErasedType.wellFormed_of_read n.reads
    · exact arguments.wellFormed_erasures erasure h

/-- Every erased type in type arguments has been read as a name. -/
theorem Arguments.wellFormed_erasures : ∀ arguments : Arguments,
    ∀ erasure ∈ argumentErasures arguments.trees, erasure.WellFormed
  | .last d, erasure, h => by
    rw [Arguments.trees, argumentErasures, argumentErasures, List.append_nil] at h
    exact d.wellFormed_erasures erasure h
  | .more d others, erasure, h => by
    rw [Arguments.trees, argumentErasures, List.mem_append] at h
    obtain h | h := h
    · exact d.wellFormed_erasures erasure h
    · exact others.wellFormed_erasures erasure h

end

/-! ## Spellings have derivations -/

/-- The spelling of a type with arguments, character by character. -/
theorem spelling_cons (erasure : ErasedType) (first : DeclaredType) (rest : List DeclaredType) :
    (mk erasure (first :: rest)).spelling.toList = erasure.spelling.toList ++
      '<' :: (first.spelling.toList ++ (restSpelling rest).toList ++ ['>']) := by
  rw [spelling]
  simp [String.toList_append]

/-- The arguments after the first, character by character. -/
theorem restSpelling_cons (t : DeclaredType) (rest : List DeclaredType) :
    (restSpelling (t :: rest)).toList =
      ',' :: ([' '] ++ (t.spelling.toList ++ (restSpelling rest).toList)) := by
  rw [restSpelling]
  simp [String.toList_append]

/-- The name of a well-formed type, after any white space. -/
def Name.ofWellFormed {erasure : ErasedType} (h : erasure.WellFormed) (blanks : Blanks) : Name :=
  ⟨blanks.text ++ erasure.spelling.toList, erasure, ErasedType.read_spelling h blanks.blank⟩

/-- White space that is not there. -/
def Blanks.none : Blanks := ⟨[], by simp⟩

/-- A single blank. -/
def Blanks.single : Blanks := ⟨[' '], List.forall_mem_singleton.mpr rfl⟩

mutual

/-- The spelling of a type whose erased types are well-formed has a derivation, also after white
space. -/
theorem exists_derivation_of_spelling : ∀ (t : DeclaredType) (blanks : Blanks),
    (∀ erasure ∈ t.erasures, erasure.WellFormed) →
      ∃ d : Derivation, d.text = blanks.text ++ t.spelling.toList ∧ d.tree = t
  | mk erasure [], blanks, h =>
    ⟨.name (.ofWellFormed (h erasure List.mem_cons_self) blanks), by rw [spelling]; rfl, rfl⟩
  | mk erasure (first :: rest), blanks, h => by
    rw [erasures, argumentErasures, List.forall_mem_cons, List.forall_mem_append] at h
    obtain ⟨herasure, hfirst, hrest⟩ := h
    obtain ⟨d, hd, htree⟩ := exists_derivation_of_spelling first .none hfirst
    obtain ⟨arguments, htext, htrees⟩ := exists_arguments_of_spelling rest d hrest
    refine ⟨.applied (.ofWellFormed herasure blanks) arguments .none, ?_, ?_⟩
    · rw [Derivation.text, htext, hd, spelling_cons]
      simp [Name.ofWellFormed, Blanks.none]
    · rw [Derivation.tree, htrees, htree]
      rfl

/-- A first type argument and the spelling of others after it are type arguments. -/
theorem exists_arguments_of_spelling : ∀ (rest : List DeclaredType) (d : Derivation),
    (∀ erasure ∈ argumentErasures rest, erasure.WellFormed) →
      ∃ arguments : Arguments, arguments.text = d.text ++ (restSpelling rest).toList ∧
        arguments.trees = d.tree :: rest
  | [], d, _ => ⟨.last d, by rw [restSpelling]; simp [Arguments.text], rfl⟩
  | t :: rest, d, h => by
    rw [argumentErasures, List.forall_mem_append] at h
    -- The blank after the comma belongs to the next argument.
    obtain ⟨next, hnext, htree⟩ := exists_derivation_of_spelling t .single h.1
    obtain ⟨arguments, htext, htrees⟩ := exists_arguments_of_spelling rest next h.2
    refine ⟨.more d arguments, ?_, ?_⟩
    · rw [Arguments.text, htext, hnext, restSpelling_cons]
      simp [Blanks.single]
    · rw [Arguments.trees, htrees, htree]

end

/-! ## Reading back -/

/-- Whatever is read is well-formed. -/
theorem wellFormed_of_parse {s : String} {t : DeclaredType} (h : parse s = .ok t) :
    t.WellFormed := by
  obtain ⟨d, -, hnesting, rfl⟩ := (parse_eq_ok_iff_exists s t).mp h
  exact ⟨d.wellFormed_erasures, by rw [d.nesting_tree]; exact hnesting⟩

/-- A well-formed type is read from its spelling. -/
theorem WellFormed.parse_spelling {t : DeclaredType} (h : t.WellFormed) :
    parse t.spelling = .ok t := by
  obtain ⟨d, htext, htree⟩ := exists_derivation_of_spelling t .none h.1
  refine (parse_eq_ok_iff_exists _ _).mpr ⟨d, htext, ?_, htree⟩
  rw [← d.nesting_tree, htree]
  exact h.2

/-- A type that some text spells. -/
def IsSpelled (t : DeclaredType) : Prop := ∃ s, parse s = .ok t

/-- A type that is spelled at all is read back from its own spelling. -/
theorem IsSpelled.parse_spelling {t : DeclaredType} (h : t.IsSpelled) :
    parse t.spelling = .ok t := by
  obtain ⟨s, hs⟩ := h
  exact (wellFormed_of_parse hs).parse_spelling

/-- Writing and reading are inverse on the well-formed types and on no others, for erased types and
for declared ones. A type is read from its own spelling exactly when it is well-formed, and it is
read from any text at all exactly then. So the spelling of a type that has been read is canonical: a
text, if it is read at all, and the spelling of what is read from it are read alike. -/
theorem parse_spelling_exact :
    (∀ t : ErasedType, (ErasedType.parse t.spelling = .ok t ↔ t.WellFormed) ∧
      ((∃ s, ErasedType.parse s = .ok t) ↔ t.WellFormed)) ∧
    (∀ t : DeclaredType, (parse t.spelling = .ok t ↔ t.WellFormed) ∧
      ((∃ s, parse s = .ok t) ↔ t.WellFormed)) ∧
    (∀ s : String,
      (ErasedType.parse s).bind (fun t => ErasedType.parse t.spelling) = ErasedType.parse s) ∧
    ∀ s : String, (parse s).bind (fun t => parse t.spelling) = parse s := by
  refine ⟨fun t => ⟨ErasedType.parse_spelling_iff t, ErasedType.isSpelled_iff t⟩,
    fun t => ⟨⟨wellFormed_of_parse, WellFormed.parse_spelling⟩,
      fun ⟨_, h⟩ => wellFormed_of_parse h, fun h => ⟨_, h.parse_spelling⟩⟩,
    fun s => ?_, fun s => ?_⟩
  · cases h : ErasedType.parse s with
    | error e => rfl
    | ok t => exact ErasedType.IsSpelled.parse_spelling ⟨s, h⟩
  · cases h : parse s with
    | error e => rfl
    | ok t => exact IsSpelled.parse_spelling ⟨s, h⟩

end AccessorUpgrade.DeclaredType
