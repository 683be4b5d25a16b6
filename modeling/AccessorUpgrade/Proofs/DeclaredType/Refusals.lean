import AccessorUpgrade.Proofs.DeclaredType.WellFormed
import AccessorUpgrade.Proofs.ErasedType.Verdict

/-!
# Why a declared type is refused

A text is refused where a name is refused, where brackets are nested too deep, where an argument is
followed by neither a comma nor a closing bracket, or for what follows a complete type. The steps
of the reader that refuse are taken apart here, as those that read are in `Reading`.

What follows a complete type is refused as trailing input exactly when the type ends with a closing
bracket, and neither such a bracket nor a comma comes next (`parse_trailingInput_iff`). A type with
arguments is read up to its closing bracket whatever follows it (`readTypeWithin_closed`), so the
same type is read from the text and from its start alone; a type without arguments ends before a
bracket or a comma, and leaves no other input.
-/

namespace AccessorUpgrade.DeclaredType

open ErasedType (nestingLimit)

variable {bound depth : Nat} {input s : String} {c later : Cursor} {stop : Stop} {t : DeclaredType}
  {p q p' q' rest : List Char}

/-! ## Types up to their closing bracket -/

/-- The white space after a closing bracket may as well be counted to what follows it. -/
theorem Derivation.text_applied_blanks (n : Name) (arguments : Arguments) (blanks : Blanks)
    (rest : List Char) :
    (applied n arguments blanks).text ++ rest =
      (applied n arguments .none).text ++ (blanks.text ++ rest) := by
  rw [text_applied_append, text_applied_append]
  rfl

/-- A type with arguments is read up to its closing bracket, whatever follows. -/
theorem readTypeWithin_closed (n : Name) (arguments : Arguments) (rest : List Char)
    (hbound : (Derivation.applied n arguments .none).text.length ≤ bound)
    (hdepth : depth + arguments.nesting < nestingLimit) :
    readTypeWithin bound input ⟨(Derivation.applied n arguments .none).text ++ rest, depth⟩ =
      .ok ((Derivation.applied n arguments .none).tree, ⟨rest, depth⟩) := by
  rw [Derivation.text, List.length_append, List.length_cons, List.length_append,
    List.length_cons] at hbound
  obtain ⟨b, rfl⟩ : ∃ b, bound = b + 1 := ⟨bound - 1, by omega⟩
  rw [Derivation.text_applied_append]
  exact readTypeWithin_applied n (by omega)
    (arguments.readArgumentsWithin_text input b (depth + 1) rest (by omega) (by omega))

/-- What is read is a name that a type ends after, or a type up to its closing bracket. -/
theorem text_of_readTypeWithin (h : readTypeWithin bound input c = .ok (t, later))
    (hdepth : c.depth ≤ nestingLimit) :
    (∃ n : Name, c.rest = n.text ++ later.rest ∧ t = raw n.erasure ∧ EndsType later.rest) ∨
      ∃ (n : Name) (arguments : Arguments), c.depth + arguments.nesting < nestingLimit ∧
        c.rest = (Derivation.applied n arguments .none).text ++ later.rest ∧
        t = (Derivation.applied n arguments .none).tree := by
  cases bound with
  | zero => simp [readTypeWithin] at h
  | succ bound =>
    obtain ⟨n, tail, hrest, ⟨hend, rfl, rfl⟩ | ⟨inner, ts, rfl, hlimit, harguments, rfl⟩⟩ :=
      readTypeWithin_ok_cases h
    · exact .inl ⟨n, hrest, rfl, hend⟩
    · obtain ⟨-, arguments, hinner, htrees, hnesting⟩ :=
        (exists_derivation_of_ok bound).2 _ _ _ harguments (by simp only; omega)
      refine .inr ⟨n, arguments, by simp only at hnesting; omega, ?_, by rw [Derivation.tree, htrees]⟩
      rw [hrest, Derivation.text_applied_append]
      exact congrArg (n.text ++ '<' :: ·) hinner

/-! ## The steps that refuse -/

/-- A name is not refused for what follows it. -/
theorem cause_of_read_error {name : List Char} {cause : SpellingError}
    (h : ErasedType.read name = .error cause) :
    (∀ i, cause ≠ .unbalancedArguments i) ∧ ∀ i r, cause ≠ .trailingInput i r := by
  obtain ⟨_, _, -, hverdict⟩ := ErasedType.read_eq_iff_verdict.mp h
  cases hverdict <;> simp

/-- A type is refused for its name, or for its depth, or within its arguments. -/
theorem readTypeWithin_error_cases (h : readTypeWithin (bound + 1) input c = .error stop) :
    (∃ name, ErasedType.read name = .error stop.cause) ∨
      ∃ (n : Name) (inner : List Char), c.rest = n.text ++ '<' :: inner ∧
        (c.depth = nestingLimit ∧ stop.cause = .tooDeep nestingLimit ∨
          c.depth ≠ nestingLimit ∧
            readArgumentsWithin bound input ⟨inner, c.depth + 1⟩ = .error stop) := by
  rw [readTypeWithin] at h
  split at h
  · next cause hname =>
    obtain rfl := Except.error.inj h
    exact .inl ⟨_, hname⟩
  · next erasure hread =>
    split at h
    · next inner htail =>
      refine .inr ⟨⟨_, erasure, hread⟩, inner, ?_, ?_⟩
      · rw [← htail]
        exact (List.takeWhile_append_dropWhile).symm
      · split at h
        · next hlimit =>
          obtain rfl := Except.error.inj h
          exact .inl ⟨eq_of_beq hlimit, rfl⟩
        · next hlimit =>
          split at h
          · next harguments =>
            obtain rfl := Except.error.inj h
            exact .inr ⟨by simpa using hlimit, harguments⟩
          · contradiction
    · contradiction

/-- Arguments are refused for the first of them, or for those after a comma, or because neither a
comma nor a closing bracket follows the first. -/
theorem readArgumentsWithin_error_cases
    (h : readArgumentsWithin (bound + 1) input c = .error stop) :
    readTypeWithin bound input c = .error stop ∨
      ∃ first later, readTypeWithin bound input c = .ok (first, later) ∧
        ((∃ next, Text.trimLeft later.rest = ',' :: next ∧
            readArgumentsWithin bound input ⟨next, later.depth⟩ = .error stop) ∨
          (∀ d ∈ (Text.trimLeft later.rest).head?, d ≠ ',' ∧ d ≠ '>') ∧
            stop.cause = .unbalancedArguments input) := by
  rw [readArgumentsWithin] at h
  split at h
  · next hfirst =>
    obtain rfl := Except.error.inj h
    exact .inl hfirst
  · next first later hfirst =>
    refine .inr ⟨first, later, hfirst, ?_⟩
    split at h
    · next next hcomma =>
      split at h
      · next hothers =>
        obtain rfl := Except.error.inj h
        exact .inl ⟨next, hcomma, hothers⟩
      · contradiction
    · contradiction
    · next hcomma hclose =>
      obtain rfl := Except.error.inj h
      refine .inr ⟨fun d hd => ?_, rfl⟩
      obtain ⟨tail, htail⟩ := List.head?_eq_some_iff.mp (Option.mem_def.mp hd)
      exact ⟨fun hd => hcomma tail (by rw [htail, hd]), fun hd => hclose tail (by rw [htail, hd])⟩

/-- Within a type nothing is refused as trailing input. -/
theorem cause_ne_trailingInput (bound : Nat) :
    (∀ c stop, readTypeWithin bound input c = .error stop →
      ∀ i r, stop.cause ≠ .trailingInput i r) ∧
    ∀ c stop, readArgumentsWithin bound input c = .error stop →
      ∀ i r, stop.cause ≠ .trailingInput i r := by
  induction bound with
  | zero =>
    constructor
    · intro c stop h
      obtain rfl := Except.error.inj h
      nofun
    · intro c stop h
      obtain rfl := Except.error.inj h
      nofun
  | succ bound ih =>
    constructor
    · intro c stop h
      obtain ⟨_, hname⟩ | ⟨_, _, -, ⟨-, hcause⟩ | ⟨-, harguments⟩⟩ := readTypeWithin_error_cases h
      · exact (cause_of_read_error hname).2
      · rw [hcause]
        nofun
      · exact ih.2 _ _ harguments
    · intro c stop h
      obtain hfirst | ⟨_, _, -, ⟨_, -, hothers⟩ | ⟨-, hcause⟩⟩ := readArgumentsWithin_error_cases h
      · exact ih.1 _ _ hfirst
      · exact ih.2 _ _ hothers
      · rw [hcause]
        nofun

/-- A text is refused within the type at its start, or for what follows the type. -/
theorem parse_eq_error_iff {cause : SpellingError} :
    parse s = .error cause ↔
      (∃ stop, Cursor.readType s ⟨s.toList, 0⟩ = .error stop ∧ stop.cause = cause) ∨
      ∃ t later d tail, Cursor.readType s ⟨s.toList, 0⟩ = .ok (t, later) ∧
        Text.trim later.rest = d :: tail ∧
        cause = if d = '>' ∨ d = ',' then .unbalancedArguments s
          else .trailingInput s (String.ofList (d :: tail)) := by
  rw [parse]
  cases hread : Cursor.readType s ⟨s.toList, 0⟩ with
  | error stop => simp
  | ok result =>
    obtain ⟨t, later⟩ := result
    simp only [reduceCtorEq, false_and, exists_false, false_or, Except.ok.injEq, Prod.mk.injEq]
    cases htrim : Text.trim later.rest with
    | nil =>
      simp only [reduceCtorEq, false_iff]
      rintro ⟨_, _, d, tail, ⟨rfl, rfl⟩, h, -⟩
      rw [htrim] at h
      contradiction
    | cons d tail =>
      simp only [beq_iff_eq, Bool.or_eq_true]
      constructor
      · intro h
        refine ⟨t, later, d, tail, ⟨rfl, rfl⟩, htrim, ?_⟩
        rw [← apply_ite Except.error] at h
        exact (Except.error.inj h).symm
      · rintro ⟨_, _, d', tail', ⟨rfl, rfl⟩, h, rfl⟩
        obtain ⟨rfl, rfl⟩ := List.cons.inj (htrim.symm.trans h)
        rw [apply_ite Except.error]

/-! ## Trailing input -/

/-- A text starts with a complete type that ends with a closing bracket: `p` is a spelling of its
own, and `q` is what follows. -/
structure ClosedStart (s p q : List Char) : Prop where
  append_eq : p ++ q = s
  closes : p.getLast? = some '>'
  accepted : ∃ t, parse (String.ofList p) = .ok t

/-- A spelling that ends with a closing bracket is a name with its arguments. -/
theorem closedStart_iff {s : List Char} :
    ClosedStart s p q ↔ ∃ (n : Name) (arguments : Arguments), arguments.nesting < nestingLimit ∧
      p = (Derivation.applied n arguments .none).text ∧ p ++ q = s := by
  constructor
  · rintro ⟨happend, hcloses, t, ht⟩
    obtain ⟨d, htext, hnesting, -⟩ := (parse_eq_ok_iff_exists _ t).mp ht
    rw [String.toList_ofList] at htext
    subst htext
    cases d with
    | name n => exact absurd (n.isNameText '>' (List.mem_of_mem_getLast? hcloses)) (by decide)
    | applied n arguments blanks =>
      obtain ⟨blanks, hblanks⟩ := blanks
      cases blanks with
      | nil => exact ⟨n, arguments, hnesting, rfl, happend⟩
      | cons b blanks =>
        -- The text would end with white space.
        have hlast : '>' ∈ (b :: blanks).getLast? := by
          simpa [Derivation.text, List.getLast?_append, List.getLast?_cons] using hcloses
        exact absurd (hblanks '>' (List.mem_of_mem_getLast? hlast)) (by decide)
  · rintro ⟨n, arguments, hnesting, rfl, happend⟩
    refine ⟨happend, by simp [Derivation.text, Blanks.none, List.getLast?_cons], _,
      (parse_eq_ok_iff_exists _ _).mpr ⟨_, String.toList_ofList.symm, hnesting, rfl⟩⟩

/-- A text starts with at most one complete type that ends with a closing bracket. -/
theorem ClosedStart.unique {s : List Char} (h : ClosedStart s p q) (h' : ClosedStart s p' q') :
    p = p' ∧ q = q' := by
  obtain ⟨n, arguments, -, rfl, rfl⟩ := closedStart_iff.mp h
  obtain ⟨n', arguments', -, rfl, happend⟩ := closedStart_iff.mp h'
  rw [Derivation.text_applied_append, Derivation.text_applied_append] at happend
  obtain ⟨hname, hinner⟩ := Text.run_append_inj n'.isNameText (not_isNameText_open _) n.isNameText
    (not_isNameText_open _) happend
  obtain ⟨rfl, hrest⟩ := Arguments.append_inj arguments' arguments (List.cons.inj hinner).2
  exact ⟨by rw [Name.ext_text hname], hrest.symm⟩

/-- What follows a type that ends with its name is a comma or a closing bracket. -/
theorem EndsType.head_trim {d : Char} {tail : List Char} (h : EndsType rest)
    (htrim : Text.trim rest = d :: tail) : d = '>' ∨ d = ',' := by
  cases rest with
  | nil => contradiction
  | cons c more =>
    rw [Text.trim_eq_cons h.trimLeft_eq] at htrim
    obtain ⟨rfl, -⟩ := List.cons.inj htrim
    exact (h c rfl).symm

/-- What is refused as trailing input follows a type that ends with a closing bracket, and starts
with neither such a bracket nor a comma. -/
theorem exists_closedStart_of_parse {s input r : String}
    (h : parse s = .error (.trailingInput input r)) :
    input = s ∧ ∃ p q, ClosedStart s.toList p q ∧ Text.trim q = r.toList ∧
      r ≠ "" ∧ ∀ c ∈ r.toList.head?, c ≠ '>' ∧ c ≠ ',' := by
  obtain ⟨stop, hstop, hcause⟩ | ⟨t, later, d, tail, hread, htrim, hcause⟩ :=
    parse_eq_error_iff.mp h
  · exact absurd hcause ((cause_ne_trailingInput _).1 _ _ hstop _ _)
  · split at hcause
    · contradiction
    · next hnext =>
      obtain ⟨rfl, rfl⟩ := SpellingError.trailingInput.inj hcause
      obtain ⟨n, -, -, hend⟩ | ⟨n, arguments, hdepth, hrest, -⟩ :=
        text_of_readTypeWithin hread (Nat.zero_le _)
      · exact absurd (hend.head_trim htrim) hnext
      · rw [Nat.zero_add] at hdepth
        have hstart : ClosedStart input.toList _ later.rest :=
          closedStart_iff.mpr ⟨n, arguments, hdepth, rfl, hrest.symm⟩
        refine ⟨rfl, _, later.rest, hstart, ?_⟩
        rw [Ne, String.ofList_eq_empty_iff, String.toList_ofList]
        refine ⟨htrim, List.cons_ne_nil d tail, fun c hc => ?_⟩
        obtain rfl : d = c := by simpa using hc
        exact not_or.mp hnext

/-- What follows a type that ends with a closing bracket is refused as trailing input, unless a
bracket or a comma comes next. -/
theorem ClosedStart.parse_eq {s r : String} (h : ClosedStart s.toList p q)
    (htrim : Text.trim q = r.toList) (hne : r ≠ "")
    (hnext : ∀ c ∈ r.toList.head?, c ≠ '>' ∧ c ≠ ',') :
    parse s = .error (.trailingInput s r) := by
  obtain ⟨n, arguments, hdepth, rfl, happend⟩ := closedStart_iff.mp h
  obtain ⟨d, tail, hr⟩ : ∃ d tail, r.toList = d :: tail :=
    List.exists_cons_of_ne_nil (by simpa using hne)
  -- The type is read from the start of the text, and what follows it is left.
  have hread : readTypeWithin s.toList.length s
      ⟨(Derivation.applied n arguments .none).text ++ q, 0⟩ = .ok (_, ⟨q, 0⟩) :=
    readTypeWithin_closed n arguments q (by rw [← happend, List.length_append]; omega) (by omega)
  rw [happend] at hread
  refine parse_eq_error_iff.mpr (.inr ⟨_, _, d, tail, hread, htrim.trans hr, ?_⟩)
  rw [if_neg (not_or.mpr (hnext d (by rw [hr]; rfl))), ← hr, String.ofList_toList]

/-- A text is refused for trailing input exactly when it starts with a complete type that ends with
a closing bracket, and what follows, without the white space around it, is not nothing and starts
with neither such a bracket nor a comma. This is what the refusal reports, with the whole text.
There is only one way to cut the text so. -/
theorem parse_trailingInput_iff (s : String) :
    (∀ input r, parse s = .error (.trailingInput input r) ↔
      input = s ∧ ∃ p q, ClosedStart s.toList p q ∧ Text.trim q = r.toList ∧
        r ≠ "" ∧ ∀ c ∈ r.toList.head?, c ≠ '>' ∧ c ≠ ',') ∧
    ∀ p q p' q', ClosedStart s.toList p q → ClosedStart s.toList p' q' → p = p' ∧ q = q' := by
  refine ⟨fun input r => ⟨exists_closedStart_of_parse, ?_⟩, fun p q p' q' => ClosedStart.unique⟩
  rintro ⟨rfl, p, q, hstart, htrim, hne, hnext⟩
  exact hstart.parse_eq htrim hne hnext

/-- Brackets of an array after type arguments are trailing input. -/
theorem parse_trailingInput_iff_array :
    parse "a.B<c.D>[]" = .error (.trailingInput "a.B<c.D>[]" "[]") ∧
      ∀ p q, ClosedStart "a.B<c.D>[]".toList p q → p = "a.B<c.D>".toList ∧ q = "[]".toList := by
  have haccepted : parse "a.B<c.D>" = .ok (mk (.object "a.B") [raw (.object "c.D")]) := by
    decide +kernel
  have hstart : ClosedStart "a.B<c.D>[]".toList "a.B<c.D>".toList "[]".toList :=
    ⟨rfl, rfl, _, by rw [String.ofList_toList]; exact haccepted⟩
  obtain ⟨hrefused, hunique⟩ := parse_trailingInput_iff "a.B<c.D>[]"
  have hnext : ∀ c ∈ "[]".toList.head?, c ≠ '>' ∧ c ≠ ',' :=
    fun _ hc => Option.some.inj hc ▸ by decide
  exact ⟨(hrefused _ _).mpr ⟨rfl, _, _, hstart, rfl, by decide, hnext⟩,
    fun p q h => hunique _ _ _ _ h hstart⟩

end AccessorUpgrade.DeclaredType
