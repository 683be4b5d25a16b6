import AccessorUpgrade.Proofs.ErasedType.Parts
import AccessorUpgrade.Proofs.Text.Segments

/-!
# The characters of an accepted spelling

A spelling that reads as an erased type consists of white space, brackets, dots, and characters of
name segments. None of these is an angle bracket or a comma, so the text of a name ends before each
of them.
-/

namespace AccessorUpgrade

namespace ErasedType

/-- White space and square brackets may stand after a name, and nothing else. -/
theorem Dimensions.mem {n : Nat} {after : List Char} (h : Dimensions n after) {c : Char}
    (hc : c ∈ after) : Text.isBlank c = true ∨ c = '[' ∨ c = ']' := by
  induction h with
  | nil => simp at hc
  | blank hblank _ ih =>
    rcases List.mem_cons.mp hc with rfl | hc
    · exact .inl hblank
    · exact ih hc
  | pair _ ih =>
    obtain rfl | rfl | hc : c = '[' ∨ c = ']' ∨ c ∈ _ := by simpa using hc
    · exact .inr (.inl rfl)
    · exact .inr (.inr rfl)
    · exact ih hc

/-- Every character of a spelling is white space, a square bracket, or a character of its name. -/
theorem mem_splitSpelling {s : List Char} {c : Char} (hc : c ∈ s) :
    Text.isBlank c = true ∨ c = '[' ∨ c = ']' ∨ c ∈ (splitSpelling s).1 := by
  obtain ⟨before, after, hs, hbefore, hafter⟩ := (hasParts_splitSpelling s).exists_around
  rw [hs, List.mem_append, List.mem_append] at hc
  obtain hc | hc | hc := hc
  · exact .inl (hbefore c hc)
  · exact .inr (.inr (.inr hc))
  · obtain hblank | hopen | hclose := hafter.mem hc
    · exact .inl hblank
    · exact .inr (.inl hopen)
    · exact .inr (.inr (.inl hclose))

/-- The word of a keyword consists of characters of name segments. -/
theorem isNamePart_of_mem_word (k : Keyword) : ∀ c ∈ k.word.toList, isNamePart c = true := by
  have hall : k.word.toList.all isNamePart = true := by cases k <;> decide +kernel
  exact List.all_eq_true.mp hall

/-- What may start a segment of a class name may also go on in it. -/
theorem isNamePart_of_isNameStart {c : Char} (h : isNameStart c = true) : isNamePart c = true := by
  simp only [isNameStart, Bool.or_eq_true] at h
  obtain (halpha | hline) | hdollar := h
  · simp [isNamePart, Text.isAlphanumeric, halpha]
  · simp [isNamePart, hline]
  · simp [isNamePart, hdollar]

/-- A text is a segment of a class name when its characters may go on in one and the first of them
may start one. -/
theorem isNameSegment_iff {segment : List Char} : isNameSegment segment = true ↔
    (∃ c ∈ segment.head?, isNameStart c = true) ∧ ∀ c ∈ segment, isNamePart c = true := by
  cases segment with
  | nil => simp [isNameSegment]
  | cons first rest =>
    simp only [isNameSegment, Bool.and_eq_true, List.all_eq_true, List.head?_cons,
      Option.mem_some_iff, exists_eq_left', List.forall_mem_cons]
    exact ⟨fun ⟨hfirst, hrest⟩ => ⟨hfirst, isNamePart_of_isNameStart hfirst, hrest⟩,
      fun ⟨hfirst, _, hrest⟩ => ⟨hfirst, hrest⟩⟩

/-- A class name consists of dots and characters of name segments. -/
theorem mem_className {name : List Char} (h : isClassName name = true) {c : Char} (hc : c ∈ name) :
    c = '.' ∨ isNamePart c = true := by
  obtain hdot | ⟨segment, hmem, hin⟩ := Text.mem_segments '.' hc
  · exact .inl hdot
  · exact .inr ((isNameSegment_iff.mp (List.all_eq_true.mp h segment hmem)).2 c hin)

/-- A keyword is found by its word only. -/
theorem eq_word_of_ofWord? {word : String} {k : Keyword} (h : Keyword.ofWord? word = some k) :
    word = k.word := by
  have := List.find?_some h
  exact (eq_of_beq this).symm

/-- A name that stands for a type consists of dots and characters of name segments. -/
theorem mem_of_ofName {name : List Char} {t : ErasedType} (h : ofName name = .ok t) {c : Char}
    (hc : c ∈ name) : c = '.' ∨ isNamePart c = true := by
  unfold ofName at h
  split at h
  · simp at h
  · split at h
    · next k hk =>
      have hname : name = k.word.toList := by
        rw [← eq_word_of_ofWord? hk, String.toList_ofList]
      exact .inr (isNamePart_of_mem_word k c (hname ▸ hc))
    · split at h
      · next hclass => exact mem_className hclass hc
      · simp at h

/-- What a successful reading says about a spelling: it is not too deep, and its name stands for
the element type. -/
theorem read_ok_cases {s : List Char} {t : ErasedType} (h : read s = .ok t) :
    (splitSpelling s).2 ≤ nestingLimit ∧
      ∃ element, ofName (splitSpelling s).1 = .ok element ∧
        t = inArrays (splitSpelling s).2 element := by
  unfold read at h
  split at h
  next name pairs hsplit =>
  split at h
  · simp at h
  · next hlimit =>
    cases hname : ofName name with
    | error cause => simp [hname, Except.map] at h
    | ok element =>
      rw [hname] at h
      simp only [Except.map, Except.ok.injEq] at h
      exact ⟨by rw [hsplit]; omega, element, by rw [hsplit]; exact hname, by rw [hsplit, h]⟩

/-- A spelling that is read consists of white space, square brackets, dots, and characters of name
segments. -/
theorem mem_of_read {s : List Char} {t : ErasedType} (h : read s = .ok t) {c : Char} (hc : c ∈ s) :
    Text.isBlank c = true ∨ c = '[' ∨ c = ']' ∨ c = '.' ∨ isNamePart c = true := by
  obtain ⟨-, element, hname, -⟩ := read_ok_cases h
  obtain hblank | hopen | hclose | hin := mem_splitSpelling hc
  · exact .inl hblank
  · exact .inr (.inl hopen)
  · exact .inr (.inr (.inl hclose))
  · exact .inr (.inr (.inr (mem_of_ofName hname hin)))

/-- Nothing is no spelling. -/
theorem ne_nil_of_read {s : List Char} {t : ErasedType} (h : read s = .ok t) : s ≠ [] := by
  rintro rfl
  simp [read, splitSpelling, peelBrackets, Text.trimLeft, ofName, nestingLimit, Except.map] at h

end ErasedType

end AccessorUpgrade
