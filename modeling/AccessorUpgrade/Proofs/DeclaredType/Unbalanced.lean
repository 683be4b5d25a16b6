import AccessorUpgrade.Proofs.DeclaredType.Refusals
import Mathlib.Data.List.Infix

/-!
# Unbalanced arguments

A text is refused for unbalanced arguments where a complete type is followed by something that does
not belong there: outside of all argument lists by a closing bracket or a comma, and inside of one
by the end of the text, or by any character but these two. In two of the four cases the brackets of
the text do not match, whatever comes later (`Mismatched.not_balanced`). In the others something
stray stands in the text, and the brackets may balance all the same; the two kinds are all there is
(`parse_unbalancedArguments_iff`).

`TypeAt` names the places where the reader starts to read a type. Soundness carries it along as an
invariant: each step of the reader leads from such a place to such a place. Completeness goes the
way back: what is refused at such a place is refused at the place from which it was reached, and so
at the start of the text.
-/

namespace AccessorUpgrade.DeclaredType

open ErasedType (nestingLimit)

variable {bound depth : Nat} {input : String} {c later : Cursor} {stop : Stop} {t : DeclaredType}
  {s rest inner : List Char} {cause : SpellingError}

/-! ## Brackets -/

/-- The angle brackets of a text balance: none is closed before it is opened, and all are closed. -/
structure Balanced (s : List Char) : Prop where
  opens_first : ∀ p, p <+: s → p.count '>' ≤ p.count '<'
  closes_all : s.count '<' = s.count '>'

/-- A name has no angle brackets. -/
theorem Name.count_bracket (n : Name) : n.text.count '<' = 0 ∧ n.text.count '>' = 0 := by
  rw [List.count_eq_zero, List.count_eq_zero]
  exact ⟨fun h => absurd (n.isNameText _ h) (by decide),
    fun h => absurd (n.isNameText _ h) (by decide)⟩

/-- White space has no angle brackets. -/
theorem Blanks.count_bracket (b : Blanks) : b.text.count '<' = 0 ∧ b.text.count '>' = 0 := by
  rw [List.count_eq_zero, List.count_eq_zero]
  exact ⟨fun h => absurd (b.blank _ h) (by decide), fun h => absurd (b.blank _ h) (by decide)⟩

mutual

/-- The text of a derivation has as many closing brackets as opening ones. -/
theorem Derivation.count_bracket : ∀ d : Derivation, d.text.count '<' = d.text.count '>'
  | .name n => by
    obtain ⟨hopen, hclose⟩ := n.count_bracket
    rw [Derivation.text, hopen, hclose]
  | .applied n arguments blanks => by
    obtain ⟨hopen, hclose⟩ := n.count_bracket
    obtain ⟨hopen', hclose'⟩ := blanks.count_bracket
    have harguments := arguments.count_bracket
    simp [Derivation.text, List.count_append, hopen, hclose, hopen', hclose', harguments]

/-- The text of type arguments has as many closing brackets as opening ones. -/
theorem Arguments.count_bracket : ∀ arguments : Arguments,
    arguments.text.count '<' = arguments.text.count '>'
  | .last d => d.count_bracket
  | .more d others => by
    have hd := d.count_bracket
    have hothers := others.count_bracket
    simp [Arguments.text, List.count_append, hd, hothers]

end

/-! ## Places in a text -/

/-- A type starts where `rest` is left of the text, inside of `depth` argument lists: at the start
of the text, after an opening bracket, or after an argument and a comma. -/
inductive TypeAt (s : List Char) : Nat → List Char → Prop where
  | whole : TypeAt s 0 s
  | first {depth : Nat} {inner : List Char} (n : Name) (hdepth : depth < 255)
      (h : TypeAt s depth (n.text ++ '<' :: inner)) : TypeAt s (depth + 1) inner
  | next {depth : Nat} {rest : List Char} (d : Derivation) (hdepth : depth + 1 + d.nesting ≤ 255)
      (h : TypeAt s (depth + 1) (d.text ++ ',' :: rest)) : TypeAt s (depth + 1) rest

/-- The brackets of a text do not match: one more is closed after a complete type, or the text ends
after an argument, before all are closed. -/
inductive Mismatched (s : List Char) : Prop where
  | closedTwice (d : Derivation) (rest : List Char) (hdepth : d.nesting ≤ 255)
      (h : d.text ++ '>' :: rest = s)
  | neverClosed (depth : Nat) (d : Derivation) (hdepth : depth + 1 + d.nesting ≤ 255)
      (h : TypeAt s (depth + 1) d.text)

/-- Something stray follows a complete type: a comma outside of all argument lists, or, inside of
one and after arguments of its own, what is neither a comma nor a closing bracket. -/
inductive Stray (s : List Char) : Prop where
  | comma (d : Derivation) (rest : List Char) (hdepth : d.nesting ≤ 255)
      (h : d.text ++ ',' :: rest = s)
  | afterArguments (depth : Nat) (n : Name) (arguments : Arguments) (blanks : Blanks) (c : Char)
      (rest : List Char) (hdepth : depth + 1 + arguments.nesting < 255)
      (hc : Text.isBlank c = false ∧ c ≠ ',' ∧ c ≠ '>')
      (h : TypeAt s (depth + 1) ((Derivation.applied n arguments blanks).text ++ c :: rest))

/-- No place is deeper than the limit. -/
theorem TypeAt.depth_le (h : TypeAt s depth rest) : depth ≤ 255 := by
  cases h with
  | whole => exact Nat.zero_le _
  | first _ hdepth _ => exact hdepth
  | next d hdepth _ => omega

/-- What is left at a place is the end of the text. -/
theorem TypeAt.suffix (h : TypeAt s depth rest) : rest <:+ s := by
  induction h with
  | whole => exact List.suffix_refl s
  | @first _ inner n _ _ ih => exact .trans ⟨n.text ++ ['<'], by simp⟩ ih
  | @next _ rest d _ _ ih => exact .trans ⟨d.text ++ [','], by simp⟩ ih

/-- Up to a place as many brackets are open as there are argument lists around it. -/
theorem TypeAt.count_bracket (h : TypeAt s depth rest) :
    s.count '<' + rest.count '>' = s.count '>' + rest.count '<' + depth := by
  induction h with
  | whole => omega
  | first n _ _ ih =>
    obtain ⟨hopen, hclose⟩ := n.count_bracket
    rw [List.count_append, List.count_append, hopen, hclose, List.count_cons_self,
      List.count_cons_of_ne (by decide)] at ih
    omega
  | next d _ _ ih =>
    have hd := d.count_bracket
    rw [List.count_append, List.count_append, List.count_cons_of_ne (by decide),
      List.count_cons_of_ne (by decide)] at ih
    omega

/-- Brackets that do not match do not balance. -/
theorem Mismatched.not_balanced (h : Mismatched s) : ¬Balanced s := by
  rintro ⟨hopens, hcloses⟩
  cases h with
  | closedTwice d rest _ h =>
    have hprefix := hopens (d.text ++ ['>']) ⟨rest, by rw [← h]; simp⟩
    have hd := d.count_bracket
    rw [List.count_append, List.count_append, List.count_cons_self,
      List.count_cons_of_ne (by decide), List.count_nil, List.count_nil] at hprefix
    omega
  | neverClosed depth d _ h =>
    have hcount := h.count_bracket
    have hd := d.count_bracket
    omega

/-! ## What is refused for unbalanced arguments -/

/-- After a type that has been read, up to white space, comes the end of the text or a character: a
type ends there, or the type has arguments and the character is neither a comma nor a closing
bracket. -/
theorem exists_derivation_or_stray (h : readTypeWithin bound input c = .ok (t, later))
    (hdepth : c.depth ≤ nestingLimit) :
    (∃ d : Derivation, c.rest = d.text ++ Text.trimLeft later.rest ∧
        c.depth + d.nesting ≤ nestingLimit ∧ EndsType (Text.trimLeft later.rest)) ∨
      ∃ (n : Name) (arguments : Arguments) (blanks : Blanks) (d : Char) (tail : List Char),
        c.rest = (Derivation.applied n arguments blanks).text ++ d :: tail ∧
          c.depth + arguments.nesting < nestingLimit ∧ Text.trimLeft later.rest = d :: tail ∧
          Text.isBlank d = false ∧ d ≠ ',' ∧ d ≠ '>' := by
  by_cases hend : EndsType (Text.trimLeft later.rest)
  · obtain ⟨-, hderivation⟩ := (exists_derivation_of_ok bound).1 _ _ _ h hdepth
    obtain ⟨d, hrest, -, hnesting⟩ := hderivation hend
    exact .inl ⟨d, hrest, hnesting, hend⟩
  · obtain ⟨n, hrest, -, hname⟩ | ⟨n, arguments, hnesting, hrest, -⟩ :=
      text_of_readTypeWithin h hdepth
    · rw [hname.trimLeft_eq] at hend
      contradiction
    · obtain ⟨blanks, hblanks, hlater⟩ := Text.exists_blanks_append later.rest
      cases htrim : Text.trimLeft later.rest with
      | nil => exact absurd (by simp [htrim, EndsType]) hend
      | cons d tail =>
        have hd : Text.isBlank d = false :=
          Text.not_isBlank_of_head_trimLeft later.rest d (by rw [htrim]; rfl)
        have hnext : ¬(d = ',' ∨ d = '>') := by
          intro hd
          refine hend fun e he => ?_
          rw [htrim] at he
          obtain rfl : d = e := by simpa using he
          exact hd
        rw [htrim] at hlater
        refine .inr ⟨n, arguments, ⟨blanks, hblanks⟩, d, tail, ?_, hnesting, rfl, hd,
          not_or.mp hnext⟩
        rw [hrest, hlater]
        exact (Derivation.text_applied_blanks n arguments ⟨blanks, hblanks⟩ (d :: tail)).symm

/-- At each bound, what is refused for unbalanced arguments from a place in the text on shows that
the brackets of the text do not match or something stray stands in it. -/
theorem mismatched_or_stray (s : List Char) (bound : Nat) :
    (∀ c stop i, readTypeWithin bound input c = .error stop →
      stop.cause = .unbalancedArguments i → TypeAt s c.depth c.rest →
        i = input ∧ (Mismatched s ∨ Stray s)) ∧
    ∀ c stop i depth, readArgumentsWithin bound input c = .error stop →
      stop.cause = .unbalancedArguments i → c.depth = depth + 1 → TypeAt s (depth + 1) c.rest →
        i = input ∧ (Mismatched s ∨ Stray s) := by
  induction bound with
  | zero =>
    constructor
    · intro c stop i h hcause
      obtain rfl := Except.error.inj h
      contradiction
    · intro c stop i depth h hcause
      obtain rfl := Except.error.inj h
      contradiction
  | succ bound ih =>
    obtain ⟨ihType, ihArguments⟩ := ih
    constructor
    · intro c stop i h hcause hplace
      obtain ⟨_, hname⟩ | ⟨n, inner, hrest, ⟨-, hdeep⟩ | ⟨hlimit, harguments⟩⟩ :=
        readTypeWithin_error_cases h
      · exact absurd hcause ((cause_of_read_error hname).1 i)
      · rw [hdeep] at hcause
        contradiction
      · have hdepth : c.depth < 255 := Nat.lt_of_le_of_ne hplace.depth_le hlimit
        rw [hrest] at hplace
        exact ihArguments _ _ _ _ harguments hcause rfl (.first n hdepth hplace)
    · intro c stop i depth h hcause hc hplace
      have hdepth : c.depth ≤ nestingLimit := hc ▸ hplace.depth_le
      obtain hfirst | ⟨first, later, hfirst, hlater⟩ := readArgumentsWithin_error_cases h
      · exact ihType _ _ _ hfirst hcause (hc ▸ hplace)
      · obtain ⟨d, hrest, hnesting, hend⟩ | ⟨n, arguments, blanks, e, tail, hrest, hnesting, htrim,
          hstray⟩ := exists_derivation_or_stray hfirst hdepth
        · rw [hrest] at hplace
          rw [hc] at hnesting
          obtain ⟨next, hcomma, hothers⟩ | ⟨hnext, hunbalanced⟩ := hlater
          · obtain ⟨hlaterDepth, -⟩ := (exists_derivation_of_ok bound).1 _ _ _ hfirst hdepth
            rw [hcomma] at hplace
            exact ihArguments _ _ _ _ hothers hcause (hlaterDepth.trans hc)
              (.next d hnesting hplace)
          · rw [hunbalanced] at hcause
            refine ⟨(SpellingError.unbalancedArguments.inj hcause).symm, .inl ?_⟩
            -- A type ends, but neither with a comma nor with a bracket, so the text ends.
            cases htrim : Text.trimLeft later.rest with
            | nil =>
              rw [htrim, List.append_nil] at hplace
              exact .neverClosed depth d hnesting hplace
            | cons e tail =>
              rw [htrim] at hend hnext
              obtain ⟨hcomma, hclose⟩ := hnext e rfl
              exact absurd (hend e rfl) (not_or.mpr ⟨hcomma, hclose⟩)
        · obtain ⟨next, hcomma, -⟩ | ⟨-, hunbalanced⟩ := hlater
          · rw [htrim] at hcomma
            exact absurd (List.cons.inj hcomma).1 hstray.2.1
          · rw [hunbalanced] at hcause
            refine ⟨(SpellingError.unbalancedArguments.inj hcause).symm, .inr ?_⟩
            rw [hrest] at hplace
            exact .afterArguments depth n arguments blanks e tail (hc ▸ hnesting) hstray hplace

/-! ## Refusals reach the start of the text -/

/-- From a place on a text is refused for some cause, whenever the bound leaves room for what is
left: outside of argument lists a type is refused, and inside of one its arguments from there on. -/
def RefusedAt (input : String) (cause : SpellingError) : Nat → List Char → Prop
  | 0, rest => ∀ bound, rest.length ≤ bound →
    ∃ stop, readTypeWithin bound input ⟨rest, 0⟩ = .error stop ∧ stop.cause = cause
  | depth + 1, rest => ∀ bound, rest.length < bound →
    ∃ stop, readArgumentsWithin bound input ⟨rest, depth + 1⟩ = .error stop ∧ stop.cause = cause

/-- A refusal of the first argument is one of the arguments. -/
theorem readArgumentsWithin_error (h : readTypeWithin bound input c = .error stop) :
    readArgumentsWithin (bound + 1) input c = .error stop := by
  rw [readArgumentsWithin, h]

/-- A refusal of the arguments after a comma is one of all the arguments. -/
theorem readArgumentsWithin_error_more (h : readTypeWithin bound input c = .ok (t, later))
    (hcomma : Text.trimLeft later.rest = ',' :: rest)
    (hothers : readArgumentsWithin bound input ⟨rest, later.depth⟩ = .error stop) :
    readArgumentsWithin (bound + 1) input c = .error stop := by
  rw [readArgumentsWithin, h]
  simp only [hcomma, hothers]

/-- A refusal of the arguments after a name is one of the type. -/
theorem readTypeWithin_error_applied (n : Name) (hd : depth ≠ nestingLimit)
    (h : readArgumentsWithin bound input ⟨inner, depth + 1⟩ = .error stop) :
    readTypeWithin (bound + 1) input ⟨n.text ++ '<' :: inner, depth⟩ = .error stop := by
  rw [readTypeWithin]
  simp only [Text.takeWhile_run n.isNameText (not_isNameText_open _),
    Text.dropWhile_run n.isNameText (not_isNameText_open _), n.reads, beq_iff_eq, hd, if_false, h]

/-- Arguments are refused when what follows the first of them is neither a comma nor a closing
bracket. -/
theorem readArgumentsWithin_unbalanced (h : readTypeWithin bound input c = .ok (t, later))
    (hnext : ∀ d ∈ (Text.trimLeft later.rest).head?, d ≠ ',' ∧ d ≠ '>') :
    readArgumentsWithin (bound + 1) input c = .error ⟨.unbalancedArguments input, later⟩ := by
  rw [readArgumentsWithin, h]
  simp only
  split
  · next hcomma => exact absurd rfl (hnext ',' (by rw [hcomma]; rfl)).1
  · next hclose => exact absurd rfl (hnext '>' (by rw [hclose]; rfl)).2
  · rfl

/-- A type that is refused at a place is refused there, also as the first of some arguments. -/
theorem RefusedAt.of_type (h : ∀ bound, rest.length ≤ bound →
    ∃ stop, readTypeWithin bound input ⟨rest, depth⟩ = .error stop ∧ stop.cause = cause) :
    RefusedAt input cause depth rest := by
  cases depth with
  | zero => exact h
  | succ depth =>
    intro bound hbound
    obtain ⟨b, rfl⟩ : ∃ b, bound = b + 1 := ⟨bound - 1, by omega⟩
    obtain ⟨stop, hstop, hcause⟩ := h b (by omega)
    exact ⟨stop, readArgumentsWithin_error hstop, hcause⟩

/-- A text that is refused from a place on is refused from its start. -/
theorem RefusedAt.whole (hplace : TypeAt s depth rest) (h : RefusedAt input cause depth rest) :
    RefusedAt input cause 0 s := by
  induction hplace with
  | whole => exact h
  | @first depth inner n hdepth _ ih =>
    refine ih (.of_type fun bound hbound => ?_)
    have hpos := n.text_length_pos
    rw [List.length_append, List.length_cons] at hbound
    obtain ⟨b, rfl⟩ : ∃ b, bound = b + 1 := ⟨bound - 1, by omega⟩
    obtain ⟨stop, hstop, hcause⟩ := h b (by omega)
    exact ⟨stop, readTypeWithin_error_applied n (Nat.ne_of_lt hdepth) hstop, hcause⟩
  | @next depth rest d hdepth _ ih =>
    refine ih fun bound hbound => ?_
    rw [List.length_append, List.length_cons] at hbound
    obtain ⟨b, rfl⟩ : ∃ b, bound = b + 1 := ⟨bound - 1, by omega⟩
    obtain ⟨later, hread, hlater, htrim⟩ := d.readTypeWithin_text input b (depth + 1)
      (',' :: rest) (endsType_comma rest) (by omega) hdepth
    obtain ⟨stop, hstop, hcause⟩ := h b (by omega)
    exact ⟨stop, readArgumentsWithin_error_more hread htrim (hlater ▸ hstop), hcause⟩

/-- A text that is refused from a place on is refused. -/
theorem parse_of_refusedAt {s : String} (hplace : TypeAt s.toList depth rest)
    (h : RefusedAt s cause depth rest) : parse s = .error cause := by
  obtain ⟨stop, hstop, hcause⟩ := RefusedAt.whole hplace h _ (le_refl _)
  exact parse_eq_error_iff.mpr (.inl ⟨stop, hstop, hcause⟩)

/-- A complete type before a closing bracket or a comma that belongs to no list is refused. -/
theorem parse_of_derivation {s : String} (d : Derivation) {e : Char} (he : e = '>' ∨ e = ',')
    (hdepth : d.nesting ≤ 255) (h : d.text ++ e :: rest = s.toList) :
    parse s = .error (.unbalancedArguments s) := by
  have hend : EndsType (e :: rest) := by
    intro f hf
    obtain rfl : e = f := by simpa using hf
    exact he.symm
  obtain ⟨later, hread, -, htrim⟩ := d.readTypeWithin_text s s.toList.length 0 (e :: rest) hend
    (by rw [← h, List.length_append]; omega) (by rwa [Nat.zero_add])
  rw [h] at hread
  exact parse_eq_error_iff.mpr
    (.inr ⟨_, _, _, _, hread, Text.trim_eq_cons htrim, (if_pos he).symm⟩)

/-- Brackets that do not match are refused. -/
theorem Mismatched.parse_eq {s : String} (h : Mismatched s.toList) :
    parse s = .error (.unbalancedArguments s) := by
  cases h with
  | closedTwice d rest hdepth h => exact parse_of_derivation d (.inl rfl) hdepth h
  | neverClosed depth d hdepth hplace =>
    refine parse_of_refusedAt hplace fun bound hbound => ?_
    obtain ⟨b, rfl⟩ : ∃ b, bound = b + 1 := ⟨bound - 1, by omega⟩
    obtain ⟨later, hread, -, htrim⟩ := d.readTypeWithin_text s b (depth + 1) [] (by simp [EndsType])
      (by omega) hdepth
    rw [List.append_nil] at hread
    exact ⟨_, readArgumentsWithin_unbalanced hread (by simp [htrim]), rfl⟩

/-- Something stray is refused. -/
theorem Stray.parse_eq {s : String} (h : Stray s.toList) :
    parse s = .error (.unbalancedArguments s) := by
  cases h with
  | comma d rest hdepth h => exact parse_of_derivation d (.inr rfl) hdepth h
  | afterArguments depth n arguments blanks e rest hdepth he hplace =>
    refine parse_of_refusedAt hplace fun bound hbound => ?_
    rw [Derivation.text_applied_blanks, List.length_append] at hbound
    obtain ⟨b, rfl⟩ : ∃ b, bound = b + 1 := ⟨bound - 1, by omega⟩
    have hread : readTypeWithin b s
        ⟨(Derivation.applied n arguments .none).text ++ (blanks.text ++ e :: rest), depth + 1⟩ =
          .ok (_, ⟨blanks.text ++ e :: rest, depth + 1⟩) :=
      readTypeWithin_closed n arguments _ (by omega) hdepth
    have htrim : Text.trimLeft (blanks.text ++ e :: rest) = e :: rest :=
      Text.dropWhile_run blanks.blank (by simpa using he.1)
    rw [Derivation.text_applied_blanks]
    exact ⟨_, readArgumentsWithin_unbalanced hread (by simpa [htrim] using he.2), rfl⟩

/-- A closing bracket or a comma after the type at the start of a text shows that the brackets do
not match, or that the comma is stray. -/
theorem mismatched_or_stray_of_trim {d : Char} {tail : List Char}
    (h : readTypeWithin bound input ⟨s, 0⟩ = .ok (t, later))
    (htrim : Text.trim later.rest = d :: tail) (hd : d = '>' ∨ d = ',') :
    Mismatched s ∨ Stray s := by
  have hnext : ∃ more, Text.trimLeft later.rest = d :: more := by
    cases hleft : Text.trimLeft later.rest with
    | nil =>
      rw [(Text.trim_eq_nil_iff _).mpr hleft] at htrim
      contradiction
    | cons e more =>
      rw [Text.trim_eq_cons hleft] at htrim
      exact ⟨more, by rw [(List.cons.inj htrim).1]⟩
  obtain ⟨more, hmore⟩ := hnext
  obtain ⟨first, hrest, hdepth, -⟩ | ⟨_, _, _, e, _, -, -, he, -, hcomma, hclose⟩ :=
    exists_derivation_or_stray h (Nat.zero_le _)
  · rw [hmore] at hrest
    simp only [Nat.zero_add] at hdepth
    obtain rfl | rfl := hd
    · exact .inl (.closedTwice first more hdepth hrest.symm)
    · exact .inr (.comma first more hdepth hrest.symm)
  · obtain ⟨rfl, -⟩ := List.cons.inj (hmore.symm.trans he)
    exact absurd hd (not_or.mpr ⟨hclose, hcomma⟩)

/-- What is refused for unbalanced arguments is the whole text, and its brackets do not match or
something stray stands in it. -/
theorem mismatched_or_stray_of_parse {s input : String}
    (h : parse s = .error (.unbalancedArguments input)) :
    input = s ∧ (Mismatched s.toList ∨ Stray s.toList) := by
  obtain ⟨stop, hstop, hcause⟩ | ⟨t, later, d, tail, hread, htrim, hcause⟩ :=
    parse_eq_error_iff.mp h
  · exact (mismatched_or_stray s.toList _).1 _ _ _ hstop hcause .whole
  · split at hcause
    · next hd =>
      exact ⟨SpellingError.unbalancedArguments.inj hcause,
        mismatched_or_stray_of_trim hread htrim hd⟩
    · contradiction

/-- A text is refused for unbalanced arguments exactly when its brackets do not match or something
stray stands in it, and the refusal reports the whole text. Brackets that do not match do not
balance; so, unless something stray stands in the text, the refusal says that its brackets do not
balance. -/
theorem parse_unbalancedArguments_iff (s : String) :
    (∀ input, parse s = .error (.unbalancedArguments input) ↔
      input = s ∧ (Mismatched s.toList ∨ Stray s.toList)) ∧
    (Mismatched s.toList → ¬Balanced s.toList) ∧
    ∀ input, parse s = .error (.unbalancedArguments input) → ¬Stray s.toList →
      ¬Balanced s.toList := by
  refine ⟨fun input => ⟨mismatched_or_stray_of_parse, ?_⟩, Mismatched.not_balanced, ?_⟩
  · rintro ⟨rfl, hmismatched | hstray⟩
    · exact hmismatched.parse_eq
    · exact hstray.parse_eq
  · intro input h hstray
    obtain ⟨-, hmismatched⟩ := mismatched_or_stray_of_parse h
    exact (hmismatched.resolve_right hstray).not_balanced

/-- The name of a class, as it stands in a text. -/
def Name.generic : Name := ⟨"a.B".toList, .object "a.B", by decide +kernel⟩

/-- The name of another class, as it stands in a text. -/
def Name.argument : Name := ⟨"c.D".toList, .object "c.D", by decide +kernel⟩

/-- Nothing stray stands in a text without commas and closing brackets. -/
theorem not_stray_of_not_mem (hcomma : ',' ∉ s) (hclose : '>' ∉ s) : ¬Stray s := by
  intro h
  cases h with
  | comma d rest _ h => exact hcomma (h ▸ by simp)
  | afterArguments depth n arguments blanks c rest _ _ h =>
    exact hclose (h.suffix.mem (by simp [Derivation.text]))

/-- The text ends before the bracket after the first name is closed, and nothing stray stands in it.
-/
theorem parse_unbalancedArguments_iff_unclosed :
    Mismatched "a.B<c.D".toList ∧ ¬Stray "a.B<c.D".toList ∧
      parse "a.B<c.D" = .error (.unbalancedArguments "a.B<c.D") ∧ ¬Balanced "a.B<c.D".toList := by
  have hmismatched : Mismatched "a.B<c.D".toList :=
    .neverClosed 0 (.name .argument) (by decide) (.first .generic (by decide) .whole)
  have hstray : ¬Stray "a.B<c.D".toList := not_stray_of_not_mem (by decide) (by decide)
  obtain ⟨hrefused, -, hbalanced⟩ := parse_unbalancedArguments_iff "a.B<c.D"
  have hparse := (hrefused "a.B<c.D").mpr ⟨rfl, .inl hmismatched⟩
  exact ⟨hmismatched, hstray, hparse, hbalanced _ hparse hstray⟩

/-- Not every text that is refused for unbalanced arguments has brackets that do not balance: array
brackets after the arguments of an argument are enough. -/
theorem not_forall_unbalancedArguments :
    ¬∀ s input, parse s = .error (.unbalancedArguments input) → ¬Balanced s.toList := by
  intro h
  have hrefused : parse "a.B<c.D<e.F>[]>" = .error (.unbalancedArguments "a.B<c.D<e.F>[]>") := by
    decide +kernel
  have hprefixes : ∀ p ∈ "a.B<c.D<e.F>[]>".toList.inits, p.count '>' ≤ p.count '<' := by decide
  exact h _ _ hrefused ⟨fun p hp => hprefixes p ((List.mem_inits p _).mpr hp), by decide⟩

end AccessorUpgrade.DeclaredType
