import AccessorUpgrade.Proofs.DeclaredType.Derivation

/-!
# Reading accepts the grammar

A text is read as a declared type exactly when it has a derivation with its brackets nested within
the limit, and the type is that of the derivation (`parse_eq_ok_iff_derivation`).

The reader and a derivation differ in one place: the white space after a closing bracket belongs to
the derivation, but the reader leaves it to whoever looks at what follows. So both directions speak
of the rest of the text without the white space at its start. Completeness goes by recursion on the
derivation, and the length of its text bounds the reading. Soundness goes by induction on the bound.
-/

namespace AccessorUpgrade.DeclaredType

open ErasedType (nestingLimit)

variable {bound depth : Nat} {input : String} {c later : Cursor} {t : DeclaredType}
  {ts : List DeclaredType} {rest : List Char}

/-! ## The steps of the reader -/

/-- A name that a type ends after is a type without arguments. -/
theorem readTypeWithin_name (n : Name) (hr : EndsType rest) :
    readTypeWithin (bound + 1) input ⟨n.text ++ rest, depth⟩ =
      .ok (raw n.erasure, ⟨rest, depth⟩) := by
  rw [readTypeWithin]
  simp only [Text.takeWhile_run n.isNameText hr.not_isNameText,
    Text.dropWhile_run n.isNameText hr.not_isNameText, n.reads]
  split
  · obtain hc | hc := hr '<' rfl
    · contradiction
    · contradiction
  · rfl

/-- A name before an opening bracket gets the arguments that are read after the bracket. -/
theorem readTypeWithin_applied (n : Name) {inner : List Char} (hd : depth ≠ nestingLimit)
    (h : readArgumentsWithin bound input ⟨inner, depth + 1⟩ = .ok (ts, later)) :
    readTypeWithin (bound + 1) input ⟨n.text ++ '<' :: inner, depth⟩ =
      .ok (mk n.erasure ts, later) := by
  rw [readTypeWithin]
  simp only [Text.takeWhile_run n.isNameText (not_isNameText_open _),
    Text.dropWhile_run n.isNameText (not_isNameText_open _), n.reads, beq_iff_eq, hd, if_false, h]

/-- A type before a closing bracket is the last argument. -/
theorem readArgumentsWithin_last (h : readTypeWithin bound input c = .ok (t, later))
    (hclose : Text.trimLeft later.rest = '>' :: rest) :
    readArgumentsWithin (bound + 1) input c = .ok ([t], ⟨rest, later.depth - 1⟩) := by
  rw [readArgumentsWithin, h]
  simp only [hclose]

/-- A type before a comma is an argument before those that are read after the comma. -/
theorem readArgumentsWithin_more (h : readTypeWithin bound input c = .ok (t, later))
    (hcomma : Text.trimLeft later.rest = ',' :: rest) {last : Cursor}
    (hothers : readArgumentsWithin bound input ⟨rest, later.depth⟩ = .ok (ts, last)) :
    readArgumentsWithin (bound + 1) input c = .ok (t :: ts, last) := by
  rw [readArgumentsWithin, h]
  simp only [hcomma, hothers]

/-- There is no other way to read a type: it starts with a name, and either the type ends there, or
a bracket opens that is not nested too deep, and arguments are read after it. -/
theorem readTypeWithin_ok_cases (h : readTypeWithin (bound + 1) input c = .ok (t, later)) :
    ∃ (n : Name) (tail : List Char), c.rest = n.text ++ tail ∧
      (EndsType tail ∧ t = raw n.erasure ∧ later = ⟨tail, c.depth⟩ ∨
        ∃ inner ts, tail = '<' :: inner ∧ c.depth ≠ nestingLimit ∧
          readArgumentsWithin bound input ⟨inner, c.depth + 1⟩ = .ok (ts, later) ∧
          t = mk n.erasure ts) := by
  rw [readTypeWithin] at h
  split at h
  · simp at h
  · next erasure hread =>
    refine ⟨⟨_, erasure, hread⟩, c.rest.dropWhile isNameText,
      (List.takeWhile_append_dropWhile).symm, ?_⟩
    split at h
    · next inner htail =>
      split at h
      · simp at h
      · next hdepth =>
        split at h
        · simp at h
        · next ts last harguments =>
          simp only [Except.ok.injEq, Prod.mk.injEq] at h
          obtain ⟨rfl, rfl⟩ := h
          exact .inr ⟨inner, ts, htail, by simpa using hdepth, harguments, rfl⟩
    · next tail hopen =>
      simp only [Except.ok.injEq, Prod.mk.injEq] at h
      refine .inl ⟨?_, h.1.symm, h.2.symm⟩
      -- The name ends at a bracket or a comma, and it is no opening bracket.
      intro d hd
      have hend := List.head?_dropWhile_not isNameText c.rest
      rw [Option.mem_def.mp hd] at hend
      obtain ⟨tail, htail⟩ := List.head?_eq_some_iff.mp hd
      have hne : d ≠ '<' := fun hd' => hopen tail (by rw [htail, hd'])
      simpa [isNameText, hne, or_iff_not_imp_left] using hend

/-- There is no other way to read arguments: first a type is read, and after it, up to white space,
comes a comma with more arguments after it, or the closing bracket. -/
theorem readArgumentsWithin_ok_cases
    (h : readArgumentsWithin (bound + 1) input c = .ok (ts, later)) :
    ∃ first mid next, readTypeWithin bound input c = .ok (first, mid) ∧
      (Text.trimLeft mid.rest = '>' :: next ∧ ts = [first] ∧ later = ⟨next, mid.depth - 1⟩ ∨
        Text.trimLeft mid.rest = ',' :: next ∧ ∃ others,
          readArgumentsWithin bound input ⟨next, mid.depth⟩ = .ok (others, later) ∧
          ts = first :: others) := by
  rw [readArgumentsWithin] at h
  split at h
  · simp at h
  · next first mid hfirst =>
    split at h
    · next next hcomma =>
      split at h
      · simp at h
      · next others last hothers =>
        simp only [Except.ok.injEq, Prod.mk.injEq] at h
        obtain ⟨rfl, rfl⟩ := h
        exact ⟨first, mid, next, hfirst, .inr ⟨hcomma, others, hothers, rfl⟩⟩
    · next next hclose =>
      simp only [Except.ok.injEq, Prod.mk.injEq] at h
      exact ⟨first, mid, next, hfirst, .inl ⟨hclose, h.1.symm, h.2.symm⟩⟩
    · simp at h

/-! ## What is derived is read -/

/-- A derivation has a text. -/
theorem Derivation.text_length_pos (d : Derivation) : 0 < d.text.length := by
  cases d with
  | name n => exact n.text_length_pos
  | applied n arguments blanks =>
    rw [Derivation.text, List.length_append, List.length_cons]
    omega

mutual

/-- A derivation that a type ends after is read as its type, up to white space after it. -/
theorem Derivation.readTypeWithin_text (input : String) : ∀ (d : Derivation) (bound depth : Nat)
    (rest : List Char), EndsType rest → d.text.length ≤ bound → depth + d.nesting ≤ nestingLimit →
    ∃ later : Cursor, readTypeWithin bound input ⟨d.text ++ rest, depth⟩ = .ok (d.tree, later) ∧
      later.depth = depth ∧ Text.trimLeft later.rest = rest
  | .name n, bound, depth, rest, hr, hb, _ => by
    have hpos := Derivation.text_length_pos (.name n)
    obtain ⟨b, rfl⟩ : ∃ b, bound = b + 1 := ⟨bound - 1, by omega⟩
    exact ⟨⟨rest, depth⟩, readTypeWithin_name n hr, rfl, hr.trimLeft_eq⟩
  | .applied n arguments blanks, bound, depth, rest, hr, hb, hd => by
    rw [Derivation.nesting] at hd
    rw [Derivation.text, List.length_append, List.length_cons, List.length_append,
      List.length_cons] at hb
    obtain ⟨b, rfl⟩ : ∃ b, bound = b + 1 := ⟨bound - 1, by omega⟩
    -- The two brackets leave enough of the bound for the arguments, whatever the name is.
    have harguments := arguments.readArgumentsWithin_text input b (depth + 1)
      (blanks.text ++ rest) (by omega) (by omega)
    rw [Derivation.text_applied_append]
    exact ⟨_, readTypeWithin_applied n (by omega) harguments, rfl,
      Text.dropWhile_run blanks.blank hr.not_isBlank⟩

/-- Arguments before a closing bracket are read as their types, together with the bracket. -/
theorem Arguments.readArgumentsWithin_text (input : String) : ∀ (arguments : Arguments)
    (bound depth : Nat) (rest : List Char), arguments.text.length < bound →
    depth + arguments.nesting ≤ nestingLimit →
    readArgumentsWithin bound input ⟨arguments.text ++ '>' :: rest, depth⟩ =
      .ok (arguments.trees, ⟨rest, depth - 1⟩)
  | .last d, bound, depth, rest, hb, hd => by
    rw [Arguments.text] at hb
    obtain ⟨b, rfl⟩ : ∃ b, bound = b + 1 := ⟨bound - 1, by omega⟩
    obtain ⟨later, hread, rfl, htrim⟩ := d.readTypeWithin_text input b depth ('>' :: rest)
      (endsType_close rest) (by omega) hd
    exact readArgumentsWithin_last hread htrim
  | .more d others, bound, depth, rest, hb, hd => by
    rw [Arguments.text, List.length_append, List.length_cons] at hb
    rw [Arguments.nesting] at hd
    -- The first argument has a text, so the others are shorter than what is read.
    have hpos := d.text_length_pos
    obtain ⟨b, rfl⟩ : ∃ b, bound = b + 1 := ⟨bound - 1, by omega⟩
    obtain ⟨later, hread, rfl, htrim⟩ := d.readTypeWithin_text input b depth
      (',' :: (others.text ++ '>' :: rest)) (endsType_comma _) (by omega) (by omega)
    have hothers := others.readArgumentsWithin_text input b later.depth rest (by omega) (by omega)
    rw [Arguments.text_more_append]
    exact readArgumentsWithin_more hread htrim hothers

end

/-! ## What is read is derived -/

/-- At each bound, a type that is read has a derivation if a type ends after the white space that
follows it, and arguments that are read have derivations. The derivations are nested no deeper than
the brackets that are open leave room for, and the cursor ends as deep as it has to. -/
theorem exists_derivation_of_ok (bound : Nat) :
    (∀ c t later, readTypeWithin bound input c = .ok (t, later) → c.depth ≤ nestingLimit →
      later.depth = c.depth ∧ (EndsType (Text.trimLeft later.rest) →
        ∃ d : Derivation, c.rest = d.text ++ Text.trimLeft later.rest ∧ d.tree = t ∧
          c.depth + d.nesting ≤ nestingLimit)) ∧
    (∀ c ts later, readArgumentsWithin bound input c = .ok (ts, later) → c.depth ≤ nestingLimit →
      later.depth = c.depth - 1 ∧
        ∃ arguments : Arguments, c.rest = arguments.text ++ '>' :: later.rest ∧
          arguments.trees = ts ∧ c.depth + arguments.nesting ≤ nestingLimit) := by
  induction bound with
  | zero =>
    constructor
    · intro c t later h
      simp [readTypeWithin] at h
    · intro c ts later h
      simp [readArgumentsWithin] at h
  | succ bound ih =>
    obtain ⟨ihType, ihArguments⟩ := ih
    constructor
    · intro c t later h hdepth
      obtain ⟨n, tail, hrest, ⟨hend, rfl, rfl⟩ | ⟨inner, ts, rfl, hlimit, harguments, rfl⟩⟩ :=
        readTypeWithin_ok_cases h
      · refine ⟨rfl, fun _ => ⟨.name n, ?_, rfl, hdepth⟩⟩
        rw [hrest, hend.trimLeft_eq]
        rfl
      · obtain ⟨hlater, arguments, hinner, htrees, hnesting⟩ :=
          ihArguments _ _ _ harguments (by simp only; omega)
        simp only at hlater hinner hnesting
        -- White space that the reader leaves after the bracket belongs to the derivation.
        obtain ⟨blanks, hblank, hblanks⟩ := Text.exists_blanks_append later.rest
        refine ⟨by omega, fun _ => ⟨.applied n arguments ⟨blanks, hblank⟩, ?_, ?_, ?_⟩⟩
        · rw [hrest, hinner, Derivation.text_applied_append, ← hblanks]
        · rw [Derivation.tree, htrees]
        · rw [Derivation.nesting]
          omega
    · intro c ts later h hdepth
      obtain ⟨first, mid, next, hfirst, ⟨hclose, rfl, rfl⟩ | ⟨hcomma, others, hothers, rfl⟩⟩ :=
        readArgumentsWithin_ok_cases h
      -- In both cases the argument is known to end, as a bracket or a comma comes after it.
      · obtain ⟨hmid, hderivation⟩ := ihType _ _ _ hfirst hdepth
        obtain ⟨d, hrest, htree, hnesting⟩ := hderivation (by rw [hclose]; exact endsType_close _)
        exact ⟨by rw [hmid], .last d, by rw [hrest, hclose, Arguments.text],
          by rw [Arguments.trees, htree], hnesting⟩
      · obtain ⟨hmid, hderivation⟩ := ihType _ _ _ hfirst hdepth
        obtain ⟨d, hrest, htree, hnesting⟩ := hderivation (by rw [hcomma]; exact endsType_comma _)
        obtain ⟨hlater, arguments, hinner, htrees, hothersNesting⟩ :=
          ihArguments _ _ _ hothers (by rw [hmid]; exact hdepth)
        simp only [hmid] at hlater hinner hothersNesting
        refine ⟨hlater, .more d arguments, ?_, ?_, ?_⟩
        · rw [hrest, hcomma, hinner, Arguments.text_more_append]
        · rw [Arguments.trees, htree, htrees]
        · rw [Arguments.nesting]
          omega

/-! ## Whole spellings -/

/-- A spelling is read when a type is read from its start and only white space follows. -/
theorem parse_eq_ok_iff (s : String) (t : DeclaredType) :
    parse s = .ok t ↔ ∃ later : Cursor, Cursor.readType s ⟨s.toList, 0⟩ = .ok (t, later) ∧
      Text.trimLeft later.rest = [] := by
  unfold parse
  cases hread : Cursor.readType s ⟨s.toList, 0⟩ with
  | error stop => simp
  | ok result =>
    obtain ⟨u, later⟩ := result
    simp only [Except.ok.injEq, Prod.mk.injEq]
    constructor
    · intro h
      split at h
      · next htrim =>
        exact ⟨later, ⟨Except.ok.inj h, rfl⟩, (Text.trim_eq_nil_iff _).mp htrim⟩
      · split at h
        · simp at h
        · simp at h
    · rintro ⟨later', ⟨rfl, rfl⟩, htrim⟩
      rw [(Text.trim_eq_nil_iff _).mpr htrim]

/-- A spelling is read as a type exactly when the type has a derivation with that text. -/
theorem parse_eq_ok_iff_exists (s : String) (t : DeclaredType) :
    parse s = .ok t ↔ ∃ d : Derivation,
      d.text = s.toList ∧ d.nesting ≤ nestingLimit ∧ d.tree = t := by
  have hnil : EndsType [] := by simp [EndsType]
  rw [parse_eq_ok_iff]
  constructor
  · rintro ⟨later, hread, htrim⟩
    obtain ⟨-, hderivation⟩ := (exists_derivation_of_ok _).1 _ _ _ hread (Nat.zero_le _)
    obtain ⟨d, hrest, htree, hnesting⟩ := hderivation (by rw [htrim]; exact hnil)
    rw [htrim, List.append_nil] at hrest
    exact ⟨d, hrest.symm, by simpa using hnesting, htree⟩
  · rintro ⟨d, htext, hnesting, rfl⟩
    obtain ⟨later, hread, -, htrim⟩ := d.readTypeWithin_text s d.text.length 0 [] hnil
      (le_refl _) (by omega)
    rw [List.append_nil, htext] at hread
    exact ⟨later, hread, htrim⟩

/-- Reading accepts the grammar. A spelling is read as a type exactly when it has a derivation whose
brackets are nested at most 255 deep, and the type is the one that the derivation stands for. There
is no second derivation of the same text. And a list of arguments is accepted, however long it is,
exactly when each argument leaves room for the brackets around the list. -/
theorem parse_eq_ok_iff_derivation (s : String) (t : DeclaredType) :
    (parse s = .ok t ↔ ∃ d : Derivation, d.text = s.toList ∧ d.nesting ≤ 255 ∧ d.tree = t) ∧
    Function.Injective Derivation.text ∧
    ∀ (n : Name) (arguments : Arguments) (blanks : Blanks),
      (parse (String.ofList (Derivation.applied n arguments blanks).text) =
        .ok (mk n.erasure (arguments.toList.map Derivation.tree)) ↔
        ∀ d ∈ arguments.toList, d.nesting < 255) := by
  refine ⟨parse_eq_ok_iff_exists s t, Derivation.text_injective, fun n arguments blanks => ?_⟩
  have hdeep : (Derivation.applied n arguments blanks).nesting ≤ nestingLimit ↔
      ∀ d ∈ arguments.toList, d.nesting < 255 := by
    rw [Derivation.nesting, Nat.add_one_le_iff, arguments.nesting_lt_iff, nestingLimit]
  rw [parse_eq_ok_iff_exists, String.toList_ofList, ← hdeep]
  constructor
  · rintro ⟨d, htext, hnesting, -⟩
    rwa [← Derivation.text_injective htext]
  · intro hnesting
    exact ⟨_, rfl, hnesting, by rw [Derivation.tree, arguments.trees_eq_map]⟩

end AccessorUpgrade.DeclaredType
