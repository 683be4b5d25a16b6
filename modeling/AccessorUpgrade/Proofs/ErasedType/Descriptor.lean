import AccessorUpgrade.Proofs.ErasedType.WellFormed
import Mathlib.Data.List.Nodup

/-!
# Descriptors are uniquely decodable

No separator stands between the parameters in a method descriptor, and class names are written with
slashes. Still a descriptor tells which method it is one of (`descriptors_decodable`): of two
descriptors that start a common text, both are those of one type (`descriptorText_append_inj`), as
the first letter tells the kind of a type, a class name has no semicolon, and no slash but those
that stand for its dots. So parameters can be taken off one by one, up to the closing parenthesis,
which starts no descriptor.
-/

namespace AccessorUpgrade

/-- Different keywords have different letters. -/
theorem Keyword.letter_injective : Function.Injective Keyword.letter := by
  have hnodup : (Keyword.all.map Keyword.letter).Nodup := by decide
  intro k k' h
  exact List.inj_on_of_nodup_map hnodup k.mem_all k'.mem_all h

/-- No keyword has the letter that starts the descriptor of a class. -/
theorem Keyword.letter_ne_object (k : Keyword) : k.letter ≠ 'L' := by
  cases k <;> decide

namespace ErasedType

variable {t t' element element' : ErasedType} {rest rest' : List Char}

/-! ## Class names with slashes -/

/-- Neither a slash nor a semicolon stands in the name of a keyword or a class. -/
theorem IsElement.ne_of_mem_spelling (h : IsElement element) :
    ∀ c ∈ element.spelling.toList, c ≠ '/' ∧ c ≠ ';' := by
  intro c hc
  constructor
  · rintro rfl
    exact absurd (h.spelling_characters.2 _ hc) (by decide +kernel)
  · rintro rfl
    exact absurd (h.spelling_characters.2 _ hc) (by decide +kernel)

/-- A class name with slashes goes on up to the first semicolon. -/
theorem slashed_ne_semicolon {name : List Char} (h : ∀ c ∈ name, c ≠ '/' ∧ c ≠ ';') :
    ∀ c ∈ slashed name, (c != ';') = true := by
  intro c hc
  obtain ⟨d, hd, rfl⟩ := List.mem_map.mp hc
  split
  · rfl
  · simpa using (h d hd).2

/-- Dots for slashes give a name without slashes back. -/
theorem map_dot_slashed {name : List Char} (h : ∀ c ∈ name, c ≠ '/' ∧ c ≠ ';') :
    (slashed name).map (fun c => if c == '/' then '.' else c) = name := by
  rw [slashed, List.map_map]
  refine (List.map_congr_left fun c hc => ?_).trans (List.map_id name)
  have hslash := (h c hc).1
  by_cases hdot : c = '.'
  · simp [hdot]
  · simp [hdot, hslash]

/-- A name without slashes is known by the name with slashes for its dots. -/
theorem slashed_inj {name name' : List Char} (h : ∀ c ∈ name, c ≠ '/' ∧ c ≠ ';')
    (h' : ∀ c ∈ name', c ≠ '/' ∧ c ≠ ';') (heq : slashed name = slashed name') : name = name' := by
  rw [← map_dot_slashed h, heq, map_dot_slashed h']

/-! ## One type after another -/

/-- Descriptors of keywords and classes that start a common text are those of one type. -/
theorem IsElement.descriptorText_append_inj (h : IsElement element) (h' : IsElement element')
    (heq : element.descriptorText ++ rest = element'.descriptorText ++ rest') :
    element = element' ∧ rest = rest' := by
  have hname := h.ne_of_mem_spelling
  have hname' := h'.ne_of_mem_spelling
  cases h with
  | keyword k =>
    cases h' with
    | keyword k' =>
      obtain ⟨hletter, hrest⟩ := List.cons.inj heq
      exact ⟨by rw [Keyword.letter_injective hletter], hrest⟩
    | object _ => exact absurd (List.cons.inj heq).1 k.letter_ne_object
  | @object name _ =>
    cases h' with
    | keyword k' => exact absurd (List.cons.inj heq).1.symm k'.letter_ne_object
    | @object name' _ =>
      have htail : slashed name.toList ++ ';' :: rest = slashed name'.toList ++ ';' :: rest' := by
        simpa [descriptorText] using heq
      -- Both names end at the first semicolon.
      obtain ⟨hslashed, hrest⟩ := Text.run_append_inj (slashed_ne_semicolon hname) (by simp)
        (slashed_ne_semicolon hname') (by simp) htail
      have hnames : name = name' := String.toList_inj.mp (slashed_inj hname hname' hslashed)
      exact ⟨by rw [hnames], (List.cons.inj hrest).2⟩

/-- The descriptor of a keyword or a class is not empty, and it starts with no bracket. -/
theorem IsElement.head_descriptorText (h : IsElement element) :
    ∃ c tail, element.descriptorText = c :: tail ∧ c ≠ '[' ∧ c ≠ ')' := by
  cases h with
  | keyword k => exact ⟨_, _, rfl, by cases k <;> decide, by cases k <;> decide⟩
  | object _ => exact ⟨_, _, rfl, by decide, by decide⟩

/-- Descriptors that start a common text are those of one type. -/
theorem descriptorText_append_inj (h : t.WellFormed) (h' : t'.WellFormed)
    (heq : t.descriptorText ++ rest = t'.descriptorText ++ rest') : t = t' ∧ rest = rest' := by
  obtain ⟨n, element, -, hs, rfl⟩ := h
  obtain ⟨n', element', -, hs', rfl⟩ := h'
  obtain ⟨c, tail, hc, hopen, -⟩ := hs.head_descriptorText
  obtain ⟨c', tail', hc', hopen', -⟩ := hs'.head_descriptorText
  -- The brackets are taken off both, one by one, until one of the types has none.
  induction n generalizing n' with
  | zero =>
    cases n' with
    | zero => exact hs.descriptorText_append_inj hs' heq
    | succ n' =>
      rw [inArrays, inArrays, hc] at heq
      exact absurd (List.cons.inj heq).1 hopen
  | succ n ih =>
    cases n' with
    | zero =>
      rw [inArrays, inArrays, hc'] at heq
      exact absurd (List.cons.inj heq).1.symm hopen'
    | succ n' =>
      obtain ⟨hsame, hrest⟩ := ih n' (List.cons.inj heq).2
      exact ⟨by rw [inArrays, hsame, inArrays], hrest⟩

/-- No descriptor starts with a closing parenthesis. -/
theorem descriptorText_ne_close (h : t.WellFormed) (heq : t.descriptorText ++ rest = ')' :: rest') :
    False := by
  obtain ⟨n, element, -, hs, rfl⟩ := h
  cases n with
  | zero =>
    obtain ⟨c, tail, hc, -, hclose⟩ := hs.head_descriptorText
    rw [inArrays, hc] at heq
    exact hclose (List.cons.inj heq).1
  | succ n => exact absurd (List.cons.inj heq).1 (by decide)

/-- Parameters up to a closing parenthesis are known by their descriptors. -/
theorem flatMap_descriptorText_append_inj {ps ps' : List ErasedType}
    (h : ∀ p ∈ ps, p.WellFormed) (h' : ∀ p ∈ ps', p.WellFormed)
    (heq : ps.flatMap descriptorText ++ ')' :: rest = ps'.flatMap descriptorText ++ ')' :: rest') :
    ps = ps' ∧ rest = rest' := by
  induction ps generalizing ps' with
  | nil =>
    cases ps' with
    | nil => exact ⟨rfl, (List.cons.inj heq).2⟩
    | cons p' ps' =>
      rw [List.flatMap_cons, List.append_assoc] at heq
      exact (descriptorText_ne_close (h' p' List.mem_cons_self) heq.symm).elim
  | cons p ps ih =>
    rw [List.flatMap_cons, List.append_assoc] at heq
    cases ps' with
    | nil => exact (descriptorText_ne_close (h p List.mem_cons_self) heq).elim
    | cons p' ps' =>
      rw [List.flatMap_cons, List.append_assoc] at heq
      obtain ⟨rfl, hparameters⟩ := descriptorText_append_inj (h p List.mem_cons_self)
        (h' p' List.mem_cons_self) heq
      obtain ⟨rfl, hrest⟩ := ih (fun q hq => h q (List.mem_cons_of_mem _ hq))
        (fun q hq => h' q (List.mem_cons_of_mem _ hq)) hparameters
      exact ⟨rfl, hrest⟩

/-- The descriptor of a method tells its result and its parameters. -/
theorem methodDescriptor_inj {r r' : ErasedType} {ps ps' : List ErasedType} (hr : r.WellFormed)
    (hr' : r'.WellFormed) (hps : ∀ p ∈ ps, p.WellFormed) (hps' : ∀ p ∈ ps', p.WellFormed)
    (h : methodDescriptor r ps = methodDescriptor r' ps') : r = r' ∧ ps = ps' := by
  have htail : ps.flatMap descriptorText ++ ')' :: r.descriptorText =
      ps'.flatMap descriptorText ++ ')' :: r'.descriptorText := by
    simpa using String.ofList_inj.mp h
  obtain ⟨hparameters, hresult⟩ := flatMap_descriptorText_append_inj hps hps' htail
  have hall : r.descriptorText ++ [] = r'.descriptorText ++ [] := by rw [hresult]
  exact ⟨(descriptorText_append_inj hr hr' hall).1, hparameters⟩

/-! ## Decoding -/

/-- Descriptors of types that can be spelled are uniquely decodable. The descriptor of a method
tells its result and its parameters, however many there are. That of a field tells its type, and it
starts no descriptor but itself. -/
theorem descriptors_decodable {r r' : ErasedType} {ps ps' : List ErasedType} (hr : r.IsSpelled)
    (hr' : r'.IsSpelled) (hps : ∀ p ∈ ps, p.IsSpelled) (hps' : ∀ p ∈ ps', p.IsSpelled) :
    (methodDescriptor r ps = methodDescriptor r' ps' → r = r' ∧ ps = ps') ∧
    (r.descriptor = r'.descriptor → r = r') ∧
    (r.descriptor.toList <+: r'.descriptor.toList → r.descriptor = r'.descriptor) := by
  have hwf := (isSpelled_iff r).mp hr
  have hwf' := (isSpelled_iff r').mp hr'
  have hstart : r.descriptor.toList <+: r'.descriptor.toList → r = r' := by
    rintro ⟨rest, hrest⟩
    have hall : r.descriptorText ++ rest = r'.descriptorText ++ [] := by
      simpa [descriptor] using hrest
    exact (descriptorText_append_inj hwf hwf' hall).1
  have hmethods : methodDescriptor r ps = methodDescriptor r' ps' → r = r' ∧ ps = ps' :=
    methodDescriptor_inj hwf hwf' (fun p hp => (isSpelled_iff p).mp (hps p hp))
      fun p hp => (isSpelled_iff p).mp (hps' p hp)
  exact ⟨hmethods, fun h => hstart (h ▸ List.prefix_rfl), fun h => by rw [hstart h]⟩

/-- Arrays of a class are told from each other. -/
theorem descriptors_decodable_arrays :
    (parse "a.B[]" = .ok (array (object "a.B")) ∧
      parse "a.B[][]" = .ok (array (array (object "a.B")))) ∧
    ¬ (array (object "a.B")).descriptor.toList <+:
        (array (array (object "a.B"))).descriptor.toList ∧
    methodDescriptor (array (object "a.B")) [array (array (object "a.B")), array (object "a.B")] ≠
      methodDescriptor (array (array (object "a.B")))
        [array (object "a.B"), array (array (object "a.B"))] := by
  have h1 : parse "a.B[]" = .ok (array (object "a.B")) := by rfl
  have h2 : parse "a.B[][]" = .ok (array (array (object "a.B"))) := by rfl
  have hs1 : (array (object "a.B")).IsSpelled := ⟨_, h1⟩
  have hs2 : (array (array (object "a.B"))).IsSpelled := ⟨_, h2⟩
  have hps : ∀ p ∈ [array (array (object "a.B")), array (object "a.B")], p.IsSpelled := by
    simp [hs1, hs2]
  have hps' : ∀ p ∈ [array (object "a.B"), array (array (object "a.B"))], p.IsSpelled := by
    simp [hs1, hs2]
  obtain ⟨hmethods, hfields, hstart⟩ := descriptors_decodable hs1 hs2 hps hps'
  refine ⟨⟨h1, h2⟩, fun h => ?_, fun h => ?_⟩
  · exact absurd (hfields (hstart h)) (by simp)
  · exact absurd (hmethods h).1 (by simp)

end ErasedType

end AccessorUpgrade
