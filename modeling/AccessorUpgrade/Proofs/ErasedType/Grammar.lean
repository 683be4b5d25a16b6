import AccessorUpgrade.Proofs.ErasedType.Descriptor

/-!
# The grammar of descriptors

The virtual machine takes a text for a method descriptor if it has field descriptors between
parentheses and then one for the result, which alone may be that of `void`. The descriptor of some
types belongs to this grammar exactly when `void` is none of the parameters and the element of no
array (`isMethodDescriptor_methodDescriptor_iff`): whichever way the text is cut into field
descriptors, it is cut between the types (`IsFieldDescriptor.isValue_of_append`).
-/

namespace AccessorUpgrade

/-! ## The grammar -/

/-- A class name as descriptors have it: parts with slashes between them, none of them empty and
none with a character that means something there. -/
def IsInternalName (name : List Char) : Prop :=
  ∃ parts : List (List Char), parts ≠ [] ∧
    (∀ part ∈ parts, part ≠ [] ∧ ∀ c ∈ part, c ∉ ['.', ';', '[', '/']) ∧
    name = ['/'].intercalate parts

/-- The descriptor of a field: a letter for a primitive type, a class name between `L` and a
semicolon, or a bracket and the descriptor of the element of an array. -/
inductive IsFieldDescriptor : List Char → Prop where
  | primitive {letter : Char} (h : letter ∈ ['Z', 'B', 'C', 'S', 'I', 'J', 'F', 'D']) :
    IsFieldDescriptor [letter]
  | object {name : List Char} (h : IsInternalName name) : IsFieldDescriptor ('L' :: name ++ [';'])
  | array {element : List Char} (h : IsFieldDescriptor element) : IsFieldDescriptor ('[' :: element)

/-- The descriptor of a method: those of its parameters between parentheses, then that of its
result, for which `V` stands if there is none. -/
def IsMethodDescriptor (text : List Char) : Prop :=
  ∃ (parameters : List (List Char)) (result : List Char),
    (∀ p ∈ parameters, IsFieldDescriptor p) ∧ (IsFieldDescriptor result ∨ result = ['V']) ∧
    text = '(' :: parameters.flatten ++ ')' :: result

/-- A class name in a descriptor goes on up to the first semicolon. -/
theorem IsInternalName.ne_semicolon {name : List Char} (h : IsInternalName name) :
    ∀ c ∈ name, (c != ';') = true := by
  obtain ⟨parts, -, hparts, rfl⟩ := h
  induction parts with
  | nil => simp
  | cons first others ih =>
    obtain ⟨⟨-, hfirst⟩, hothers⟩ := List.forall_mem_cons.mp hparts
    have hmark : ∀ c ∈ first, (c != ';') = true := by
      intro c hc
      rw [bne_iff_ne]
      rintro rfl
      exact hfirst _ hc (by decide)
    cases others with
    | nil => simpa using hmark
    | cons second others =>
      rw [List.intercalate_cons_cons, List.append_assoc, List.forall_mem_append,
        List.forall_mem_append]
      exact ⟨hmark, by simp, ih hothers⟩

namespace ErasedType

/-- Whether a variable can be of the type, which is not `void` and no array of it. -/
def isValue : ErasedType → Bool
  | keyword k => k != .void
  | object _ => true
  | array element => element.isValue

/-- Whether a method can return the type. -/
def isResult (t : ErasedType) : Bool := t == .void || t.isValue

variable {t element : ErasedType} {d rest rest' : List Char}

/-! ## Types in the grammar -/

/-- Slashes for the dots between the segments of a name are between the same segments. -/
theorem slashed_intercalate {segments : List (List Char)}
    (h : ∀ segment ∈ segments, '.' ∉ segment) :
    slashed (['.'].intercalate segments) = ['/'].intercalate segments := by
  have hsegment : ∀ segment ∈ segments, slashed segment = segment := by
    intro segment hmem
    refine (List.map_congr_left fun c hc => ?_).trans (List.map_id segment)
    have hdot : c ≠ '.' := fun hdot => h segment hmem (hdot ▸ hc)
    simp [hdot]
  induction segments with
  | nil => rfl
  | cons first others ih =>
    obtain ⟨hfirst, hothers⟩ := List.forall_mem_cons.mp hsegment
    cases others with
    | nil => simpa using hfirst
    | cons second others =>
      have hrest := ih (fun segment hmem => h segment (List.mem_cons_of_mem _ hmem)) hothers
      rw [List.intercalate_cons_cons, List.intercalate_cons_cons, ← hrest]
      simp only [slashed, List.map_append, List.map_cons, List.map_nil] at hfirst ⊢
      rw [hfirst]
      rfl

/-- A segment of a class name is a part of the name in descriptors. -/
theorem not_mem_of_isNameSegment {segment : List Char} (h : isNameSegment segment = true) :
    segment ≠ [] ∧ ∀ c ∈ segment, c ∉ ['.', ';', '[', '/'] := by
  obtain ⟨⟨first, hfirst, -⟩, hparts⟩ := isNameSegment_iff.mp h
  refine ⟨List.ne_nil_of_mem (List.mem_of_mem_head? hfirst), fun c hc hmark => ?_⟩
  have hmarks : ['.', ';', '[', '/'].all (fun c => !isNamePart c) = true := by decide +kernel
  have := List.all_eq_true.mp hmarks c hmark
  simp [hparts c hc] at this

/-- The name of a class is a class name in its descriptor too. -/
theorem NamesClass.isInternalName {name : String} (h : NamesClass name) :
    IsInternalName (slashed name.toList) := by
  obtain ⟨segments, hne, hsegments, hname⟩ := h.exists_segments
  refine ⟨segments, hne, fun segment hmem => not_mem_of_isNameSegment (hsegments segment hmem), ?_⟩
  rw [hname, slashed_intercalate fun segment hmem => dot_not_mem_segment (hsegments segment hmem)]

/-- The descriptor of a type that a variable can have is a field descriptor. -/
theorem WellFormed.isFieldDescriptor (h : t.WellFormed) (hvalue : t.isValue = true) :
    IsFieldDescriptor t.descriptorText := by
  obtain ⟨n, element, -, helement, rfl⟩ := h
  induction n with
  | succ n ih => exact .array (ih hvalue)
  | zero =>
    cases helement with
    | object hname => exact .object hname.isInternalName
    | keyword k =>
      refine .primitive ?_
      cases k with
      | void => cases hvalue
      | _ => decide

/-! ## Texts of the grammar -/

/-- A field descriptor is not empty, and it starts with neither a parenthesis nor the letter of
`void`. -/
theorem head_isFieldDescriptor (h : IsFieldDescriptor d) :
    ∃ c tail, d = c :: tail ∧ c ≠ ')' ∧ c ≠ 'V' := by
  cases h with
  | primitive hletter =>
    refine ⟨_, _, rfl, ?_, ?_⟩
    · rintro rfl
      simp at hletter
    · rintro rfl
      simp at hletter
  | object _ => exact ⟨_, _, rfl, by decide, by decide⟩
  | array _ => exact ⟨_, _, rfl, by decide, by decide⟩

/-- If a text starts with a field descriptor and with the descriptor of a keyword or a class, then
they are the same, and not that of `void`. -/
theorem IsElement.isValue_of_append (h : IsElement element) (hd : IsFieldDescriptor d)
    (heq : d ++ rest = element.descriptorText ++ rest') :
    element.isValue = true ∧ rest = rest' := by
  have hname := h.ne_of_mem_spelling
  cases h with
  | keyword k =>
    cases hd with
    | primitive hletter =>
      obtain ⟨rfl, hrest⟩ := List.cons.inj heq
      refine ⟨?_, hrest⟩
      cases k with
      | void => simp [Keyword.letter] at hletter
      | _ => rfl
    | object _ => exact absurd (List.cons.inj heq).1.symm k.letter_ne_object
    | array _ => exact absurd (List.cons.inj heq).1 (by cases k <;> decide)
  | @object name _ =>
    refine ⟨rfl, ?_⟩
    cases hd with
    | primitive hletter =>
      obtain ⟨rfl, -⟩ := List.cons.inj heq
      simp at hletter
    | @object name' hname' =>
      have htail : name' ++ ';' :: rest = slashed name.toList ++ ';' :: rest' := by
        simpa [descriptorText] using heq
      -- Both names end at the first semicolon.
      obtain ⟨-, hrest⟩ := Text.run_append_inj hname'.ne_semicolon (by simp)
        (slashed_ne_semicolon hname) (by simp) htail
      exact (List.cons.inj hrest).2
    | array _ => exact absurd (List.cons.inj heq).1 (by decide)

/-- If a text starts with a field descriptor and with the descriptor of a type, then they are the
same, and a variable can be of the type. -/
theorem isValue_of_append (h : t.WellFormed) (hd : IsFieldDescriptor d)
    (heq : d ++ rest = t.descriptorText ++ rest') : t.isValue = true ∧ rest = rest' := by
  obtain ⟨n, element, -, helement, rfl⟩ := h
  induction n generalizing d with
  | zero => exact helement.isValue_of_append hd heq
  | succ n ih =>
    cases hd with
    | primitive hletter =>
      obtain ⟨rfl, -⟩ := List.cons.inj heq
      simp at hletter
    | object _ => exact absurd (List.cons.inj heq).1 (by decide)
    | array hd => exact ih hd (List.cons.inj heq).2

/-- Field descriptors and descriptors of types that go on to the same closing parenthesis are one by
one the same, and variables can be of all the types. -/
theorem forall_isValue_of_append {ds : List (List Char)} {ts : List ErasedType}
    (hts : ∀ t ∈ ts, t.WellFormed) (hds : ∀ d ∈ ds, IsFieldDescriptor d)
    (heq : ds.flatten ++ ')' :: rest = ts.flatMap descriptorText ++ ')' :: rest') :
    (∀ t ∈ ts, t.isValue = true) ∧ rest = rest' := by
  induction ts generalizing ds with
  | nil =>
    cases ds with
    | nil => exact ⟨nofun, (List.cons.inj heq).2⟩
    | cons d ds =>
      obtain ⟨c, tail, rfl, hclose, -⟩ := head_isFieldDescriptor (hds d List.mem_cons_self)
      exact absurd (List.cons.inj heq).1 hclose
  | cons t ts ih =>
    obtain ⟨ht, hts⟩ := List.forall_mem_cons.mp hts
    rw [List.flatMap_cons, List.append_assoc] at heq
    cases ds with
    | nil => exact (descriptorText_ne_close ht heq.symm).elim
    | cons d ds =>
      obtain ⟨hd, hds⟩ := List.forall_mem_cons.mp hds
      rw [List.flatten_cons, List.append_assoc] at heq
      obtain ⟨hvalue, heq⟩ := isValue_of_append ht hd heq
      obtain ⟨hvalues, hrest⟩ := ih hts hds heq
      exact ⟨List.forall_mem_cons.mpr ⟨hvalue, hvalues⟩, hrest⟩

/-- Only `void` has the letter of `void` for its descriptor. -/
theorem eq_void_of_descriptorText (h : t.descriptorText = ['V']) : t = .void := by
  cases t with
  | keyword k =>
    have hletter : k.letter = Keyword.void.letter := (List.cons.inj h).1
    rw [Keyword.letter_injective hletter]
    rfl
  | object name => exact absurd (List.cons.inj h).1 (by decide)
  | array element => exact absurd (List.cons.inj h).1 (by decide)

/-- The descriptor of a method belongs to the grammar exactly when variables can be of the types of
all its parameters, and the method can return its result. -/
theorem isMethodDescriptor_methodDescriptor_iff {result : ErasedType}
    {parameters : List ErasedType} (hresult : result.WellFormed)
    (hparameters : ∀ p ∈ parameters, p.WellFormed) :
    IsMethodDescriptor (methodDescriptor result parameters).toList ↔
      (∀ p ∈ parameters, p.isValue = true) ∧ result.isResult = true := by
  rw [methodDescriptor, String.toList_ofList]
  constructor
  · rintro ⟨ds, d, hds, hd, heq⟩
    obtain ⟨hvalues, htail⟩ := forall_isValue_of_append hparameters hds (List.cons.inj heq).2.symm
    refine ⟨hvalues, ?_⟩
    obtain hd | rfl := hd
    · have hend : d ++ [] = result.descriptorText ++ [] := by rw [htail]
      simp [isResult, (isValue_of_append hresult hd hend).1]
    · rw [eq_void_of_descriptorText htail.symm]
      rfl
  · rintro ⟨hvalues, hreturn⟩
    refine ⟨parameters.map descriptorText, result.descriptorText, ?_, ?_, ?_⟩
    · intro d hd
      obtain ⟨p, hp, rfl⟩ := List.mem_map.mp hd
      exact (hparameters p hp).isFieldDescriptor (hvalues p hp)
    · obtain hvoid | hvalue := Bool.or_eq_true_iff.mp hreturn
      · exact .inr (by rw [eq_of_beq hvoid]; rfl)
      · exact .inl (hresult.isFieldDescriptor hvalue)
    · rw [List.flatMap_def]

end ErasedType

end AccessorUpgrade
