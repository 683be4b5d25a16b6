import AccessorUpgrade.Proofs.ErasedType.Characters

/-!
# Well-formed erased types

A type is well-formed when it is a keyword or a class with a class name, in at most 255 array
brackets. These are the types that can be written: a well-formed type is read back from its
spelling, whatever white space stands before it (`read_spelling`), and whatever is read from any
text is well-formed (`wellFormed_of_read`).

The parts of the spelling of an array are the name of its element and its brackets
(`IsElement.hasParts_spelling`): the name neither ends with a bracket nor has white space at an end.
-/

namespace AccessorUpgrade

namespace Text

/-- A code point of a set lies in one of its ranges. -/
theorem CodeRanges.exists_range_of_has {ranges : CodeRanges} {n : Nat} (h : ranges.has n = true) :
    ∃ range ∈ ranges, range.1 ≤ n ∧ n ≤ range.2 := by
  induction ranges with
  | nil => simp [CodeRanges.has] at h
  | cons range rest ih =>
    rw [CodeRanges.has] at h
    split at h
    · simp at h
    · next hfirst =>
      obtain hlast | hrest := Bool.or_eq_true_iff.mp h
      · exact ⟨range, List.mem_cons_self, by omega, by simpa using hlast⟩
      · obtain ⟨other, hmem, hother⟩ := ih hrest
        exact ⟨other, List.mem_cons_of_mem _ hmem, hother⟩

end Text

/-- Every keyword is among all keywords. -/
theorem Keyword.mem_all (k : Keyword) : k ∈ Keyword.all := by
  cases k <;> decide

namespace ErasedType

/-! ## Class names -/

/-- A name that stands for a class: segments with dots between them, and no keyword. -/
structure NamesClass (name : String) : Prop where
  exists_segments : ∃ segments : List (List Char), segments ≠ [] ∧
    (∀ segment ∈ segments, isNameSegment segment = true) ∧
    name.toList = ['.'].intercalate segments
  not_keyword : ∀ k : Keyword, name ≠ k.word

/-- A name has no dot in a segment. -/
theorem dot_not_mem_segment {segment : List Char} (h : isNameSegment segment = true) :
    '.' ∉ segment := by
  intro hmem
  have hpart := (isNameSegment_iff.mp h).2 _ hmem
  revert hpart
  decide +kernel

/-- A class name is made of segments with dots between them. -/
theorem isClassName_iff (name : List Char) :
    isClassName name = true ↔ ∃ segments : List (List Char), segments ≠ [] ∧
      (∀ segment ∈ segments, isNameSegment segment = true) ∧
      name = ['.'].intercalate segments := by
  rw [isClassName, List.all_eq_true, Text.segments_eq_splitOn]
  constructor
  · intro h
    exact ⟨_, List.splitOn_ne_nil _ _, h, (List.intercalate_splitOn _).symm⟩
  · rintro ⟨segments, hne, hall, rfl⟩
    rwa [List.splitOn_intercalate _ (fun s hs => dot_not_mem_segment (hall s hs)) hne]

/-- No character of a name is white space. -/
theorem not_isBlank_of_isNamePart {c : Char} (h : isNamePart c = true) :
    Text.isBlank c = false := by
  -- The table of white space is looked through, a code point at a time.
  have hall : Text.whiteSpace.all (fun range =>
      (List.range' range.1 (range.2 + 1 - range.1)).all fun n =>
        !(Text.alphabetic.has n || Text.numeric.has n || n == '_'.toNat ||
          n == '$'.toNat)) = true := by
    decide +kernel
  rw [Bool.eq_false_iff]
  intro hblank
  obtain ⟨range, hmem, hfirst, hlast⟩ := Text.CodeRanges.exists_range_of_has hblank
  have hn := List.all_eq_true.mp (List.all_eq_true.mp hall range hmem) c.toNat
    (List.mem_range'_1.mpr ⟨hfirst, by omega⟩)
  simp only [Bool.not_eq_true', Bool.or_eq_false_iff, beq_eq_false_iff_ne, ne_eq] at hn
  obtain ⟨⟨⟨halpha, hnumeric⟩, hline⟩, hdollar⟩ := hn
  simp only [isNamePart, Text.isAlphanumeric, Text.isAlphabetic, halpha, hnumeric, Bool.or_false,
    Bool.false_or, Bool.or_eq_true, beq_iff_eq] at h
  obtain rfl | rfl := h
  · exact hline rfl
  · exact hdollar rfl

/-! ## Well-formed types -/

/-- The types that need no brackets to be written. -/
inductive IsElement : ErasedType → Prop where
  | keyword (k : Keyword) : IsElement (.keyword k)
  | object {name : String} (h : NamesClass name) : IsElement (.object name)

/-- At most 255 arrays around a keyword or a class. -/
def WellFormed (t : ErasedType) : Prop :=
  ∃ dimensions element, dimensions ≤ 255 ∧ IsElement element ∧ t = inArrays dimensions element

/-- The spelling of an array is that of its element, and a pair of brackets. -/
theorem spelling_inArrays_succ (n : Nat) (element : ErasedType) :
    (inArrays (n + 1) element).spelling.toList =
      (inArrays n element).spelling.toList ++ ['[', ']'] := by
  rw [inArrays, spelling, String.toList_append]
  rfl

/-- The name of a keyword or a class is not empty, and each of its characters is a dot or one of
name segments. -/
theorem IsElement.spelling_characters {element : ErasedType} (h : IsElement element) :
    element.spelling.toList ≠ [] ∧
      ∀ c ∈ element.spelling.toList, c = '.' ∨ isNamePart c = true := by
  cases h with
  | keyword k =>
    refine ⟨?_, fun c hc => .inr (isNamePart_of_mem_word k c hc)⟩
    cases k <;> decide
  | @object name h =>
    have hclass : isClassName name.toList = true := (isClassName_iff _).mpr h.exists_segments
    refine ⟨?_, fun c hc => mem_className hclass hc⟩
    intro hnil
    rw [spelling] at hnil
    rw [hnil] at hclass
    exact absurd hclass (by decide)

/-- A keyword or a class is known by its name. -/
theorem IsElement.ofName_spelling {element : ErasedType} (h : IsElement element) :
    ofName element.spelling.toList = .ok element := by
  obtain ⟨hne, -⟩ := h.spelling_characters
  rw [ofName.eq_def]
  split
  · next hnil => exact absurd hnil hne
  · rw [String.ofList_toList]
    cases h with
    | keyword k => cases k <;> rfl
    | @object name h =>
      have hkeyword : Keyword.ofWord? name = none := by
        rw [Keyword.ofWord?, List.find?_eq_none]
        intro k _
        simpa using (h.not_keyword k).symm
      have hclass : isClassName name.toList = true := (isClassName_iff _).mpr h.exists_segments
      simp [spelling, hkeyword, hclass]

/-- What is known by a name is a keyword or a class. -/
theorem isElement_of_ofName {name : List Char} {t : ErasedType} (h : ofName name = .ok t) :
    IsElement t := by
  rw [ofName.eq_def] at h
  split at h
  · simp at h
  · split at h
    · next k hk =>
      obtain rfl := Except.ok.inj h
      exact .keyword k
    · next hnone =>
      split at h
      · next hclass =>
        obtain rfl := Except.ok.inj h
        refine .object ⟨?_, ?_⟩
        · rw [String.toList_ofList]
          exact (isClassName_iff name).mp hclass
        · intro k hk
          have := List.find?_eq_none.mp hnone k k.mem_all
          simp [hk] at this
      · simp at h

/-! ## Reading a spelling -/

/-- The spelling of an array goes on with its brackets after that of its element. -/
theorem exists_dimensions_of_spelling (n : Nat) (element : ErasedType) :
    ∃ after, (inArrays n element).spelling.toList = element.spelling.toList ++ after ∧
      Dimensions n after := by
  induction n with
  | zero => exact ⟨[], by rw [inArrays, List.append_nil], .nil⟩
  | succ n ih =>
    obtain ⟨after, hafter, hdimensions⟩ := ih
    refine ⟨after ++ ['[', ']'], ?_, hdimensions.append (.pair .nil)⟩
    rw [spelling_inArrays_succ, hafter, List.append_assoc]

/-- The parts of a spelling are the name of the element and the brackets around it. -/
theorem IsElement.hasParts_spelling {element : ErasedType} (h : IsElement element)
    {blanks : List Char} (hblanks : ∀ c ∈ blanks, Text.isBlank c = true) (n : Nat) :
    HasParts (blanks ++ (inArrays n element).spelling.toList) element.spelling.toList n := by
  obtain ⟨-, hcharacters⟩ := h.spelling_characters
  have hblank : ∀ c ∈ element.spelling.toList, Text.isBlank c = false := by
    intro c hc
    obtain rfl | hpart := hcharacters c hc
    · decide
    · exact not_isBlank_of_isNamePart hpart
  obtain ⟨after, hafter, hdimensions⟩ := exists_dimensions_of_spelling n element
  refine ⟨⟨blanks, after, by rw [hafter], hblanks, hdimensions⟩,
    fun c hc => hblank c (List.mem_of_mem_head? hc),
    fun c hc => hblank c (List.mem_of_mem_getLast? hc), fun hpair => ?_⟩
  have hclose := hcharacters ']' (hpair.mem (by simp))
  revert hclose
  decide +kernel

/-- A well-formed type is read from its spelling, after any white space. -/
theorem read_spelling {t : ErasedType} (h : t.WellFormed) {blanks : List Char}
    (hblanks : ∀ c ∈ blanks, Text.isBlank c = true) :
    read (blanks ++ t.spelling.toList) = .ok t := by
  obtain ⟨n, element, hn, helement, rfl⟩ := h
  have hlimit : ¬ nestingLimit < n := by
    rw [nestingLimit]
    omega
  rw [read, (helement.hasParts_spelling hblanks n).splitSpelling_eq]
  simp only [hlimit, if_false, helement.ofName_spelling, Except.map]

/-- Whatever is read is well-formed. -/
theorem wellFormed_of_read {s : List Char} {t : ErasedType} (h : read s = .ok t) :
    t.WellFormed := by
  obtain ⟨hlimit, element, hname, rfl⟩ := read_ok_cases h
  exact ⟨_, element, hlimit, isElement_of_ofName hname, rfl⟩

/-- The well-formed types are those that are read back from their spelling. -/
theorem parse_spelling_iff (t : ErasedType) : parse t.spelling = .ok t ↔ t.WellFormed :=
  ⟨wellFormed_of_read, fun h => read_spelling h (List.forall_mem_nil _)⟩

/-- A type that some text spells. -/
def IsSpelled (t : ErasedType) : Prop := ∃ s, parse s = .ok t

/-- The well-formed types are those that some text spells. -/
theorem isSpelled_iff (t : ErasedType) : t.IsSpelled ↔ t.WellFormed :=
  ⟨fun ⟨_, h⟩ => wellFormed_of_read h, fun h => ⟨_, (parse_spelling_iff t).mpr h⟩⟩

/-- A type that is spelled at all is read back from its own spelling. -/
theorem IsSpelled.parse_spelling {t : ErasedType} (h : t.IsSpelled) : parse t.spelling = .ok t :=
  (parse_spelling_iff t).mpr ((isSpelled_iff t).mp h)

end ErasedType

end AccessorUpgrade
