import AccessorUpgrade.Proofs.DeclaredType.Refusals
import Mathlib.Logic.Function.Iterate

/-!
# The call stack of the reader

The reader of types calls itself for every type argument. Its calls are laid out here as a machine
with a stack: a frame for each call that waits for an argument, and a cursor. The machine has no
bound on its steps. It does what the reader does (`reaches_after`), and each step before the last
takes a character from the text (`Move.weight_lt`), so a call ends after as many steps as there are
characters left, and one more.

What a step keeps, every run keeps (`Within.step`, `Within.iterate`): the cursor moves on in the
text, and it is as deep as calls wait. No call is made at the limit, so neither the cursor nor the
stack exceeds it, whether the brackets of the text are closed or not (`readType_within_stack`).
-/

namespace AccessorUpgrade.DeclaredType

open ErasedType (nestingLimit)

/-- A call that waits for a type argument: the name it has read, and the arguments so far. -/
structure Frame where
  erasure : ErasedType
  arguments : List DeclaredType

/-- The frame with one more argument. -/
def Frame.push (frame : Frame) (t : DeclaredType) : Frame :=
  { frame with arguments := frame.arguments ++ [t] }

/-- The type of a frame that gets its last arguments. -/
def Frame.close (frame : Frame) (last : List DeclaredType) : DeclaredType :=
  DeclaredType.mk frame.erasure (frame.arguments ++ last)

/-- A state of the machine. The latest of the calls that wait comes first. -/
inductive State where
  /-- A call starts to read a type. -/
  | calls (waiting : List Frame) (c : Cursor)
  /-- A call has read a type. -/
  | returns (waiting : List Frame) (t : DeclaredType) (c : Cursor)
  /-- The first of all calls has ended. -/
  | ended (result : Except Stop (DeclaredType × Cursor))

namespace State

/-- A step of the machine. Nothing happens after the end. -/
def step (input : String) : State → State
  | calls waiting c =>
    let tail := c.rest.dropWhile isNameText
    match ErasedType.read (c.rest.takeWhile isNameText) with
    | .error cause => ended (.error ⟨cause, tail, c.depth⟩)
    | .ok erasure =>
      match tail with
      | '<' :: inner =>
        if c.depth == nestingLimit then
          ended (.error ⟨.tooDeep nestingLimit, inner, c.depth⟩)
        else calls (⟨erasure, []⟩ :: waiting) ⟨inner, c.depth + 1⟩
      | tail => returns waiting (raw erasure) ⟨tail, c.depth⟩
  | returns [] t c => ended (.ok (t, c))
  | returns (frame :: waiting) t c =>
    match Text.trimLeft c.rest with
    | ',' :: next => calls (frame.push t :: waiting) ⟨next, c.depth⟩
    | '>' :: next => returns waiting (frame.close [t]) ⟨next, c.depth - 1⟩
    | _ => ended (.error ⟨.unbalancedArguments input, c⟩)
  | ended result => ended result

/-- The place that the reader has come to. -/
def cursor : State → Cursor
  | calls _ c => c
  | returns _ _ c => c
  | ended (.ok (_, c)) => c
  | ended (.error stop) => stop.cursor

/-- The number of calls on the stack, with the one that reads a type or has read it. -/
def frames : State → Nat
  | calls waiting _ => waiting.length + 1
  | returns waiting _ _ => waiting.length + 1
  | ended _ => 0

/-- Where the first call was made at some depth, the cursor is deeper by one for each call that
waits, and as deep as then when the first call has read its type. -/
def Opened (depth : Nat) : State → Prop
  | calls waiting c => c.depth = depth + waiting.length
  | returns waiting _ c => c.depth = depth + waiting.length
  | ended (.ok (_, c)) => c.depth = depth
  | ended (.error _) => True

/-- How many steps the machine takes at most before the end. -/
def weight : State → Nat
  | calls _ c => c.rest.length + 1
  | returns _ _ c => c.rest.length + 1
  | ended _ => 0

end State

open State

/-! ## What a step does -/

/-- The moves of the machine: every way that a call goes on. -/
inductive Move (input : String) : State → State → Prop where
  | refuse (waiting : List Frame) (c : Cursor) (name tail : List Char) (cause : SpellingError)
      (hrest : c.rest = name ++ tail) (hname : ErasedType.read name = .error cause) :
      Move input (calls waiting c) (ended (.error ⟨cause, tail, c.depth⟩))
  | limit (waiting : List Frame) (c : Cursor) (n : Name) (inner : List Char)
      (hrest : c.rest = n.text ++ '<' :: inner) (hdepth : c.depth = nestingLimit) :
      Move input (calls waiting c) (ended (.error ⟨.tooDeep nestingLimit, inner, c.depth⟩))
  | opens (waiting : List Frame) (c : Cursor) (n : Name) (inner : List Char)
      (hrest : c.rest = n.text ++ '<' :: inner) (hdepth : c.depth ≠ nestingLimit) :
      Move input (calls waiting c) (calls (⟨n.erasure, []⟩ :: waiting) ⟨inner, c.depth + 1⟩)
  | name (waiting : List Frame) (c : Cursor) (n : Name) (tail : List Char)
      (hrest : c.rest = n.text ++ tail) (hopen : ∀ inner, tail ≠ '<' :: inner) :
      Move input (calls waiting c) (returns waiting (raw n.erasure) ⟨tail, c.depth⟩)
  | finish (t : DeclaredType) (c : Cursor) : Move input (returns [] t c) (ended (.ok (t, c)))
  | comma (frame : Frame) (waiting : List Frame) (t : DeclaredType) (c : Cursor)
      (next : List Char) (hnext : Text.trimLeft c.rest = ',' :: next) :
      Move input (returns (frame :: waiting) t c) (calls (frame.push t :: waiting) ⟨next, c.depth⟩)
  | close (frame : Frame) (waiting : List Frame) (t : DeclaredType) (c : Cursor)
      (next : List Char) (hnext : Text.trimLeft c.rest = '>' :: next) :
      Move input (returns (frame :: waiting) t c)
        (returns waiting (frame.close [t]) ⟨next, c.depth - 1⟩)
  | unbalanced (frame : Frame) (waiting : List Frame) (t : DeclaredType) (c : Cursor)
      (hnext : ∀ d next, Text.trimLeft c.rest = d :: next → d ≠ ',' ∧ d ≠ '>') :
      Move input (returns (frame :: waiting) t c) (ended (.error ⟨.unbalancedArguments input, c⟩))
  | stay (result : Except Stop (DeclaredType × Cursor)) : Move input (ended result) (ended result)

variable {bound : Nat} {input : String} {start c later : Cursor} {s s' s'' : State}

/-- Every step is one of the moves. -/
theorem move_step (input : String) (s : State) : Move input s (s.step input) := by
  match s with
  | calls waiting c =>
    have hrest : c.rest = c.rest.takeWhile isNameText ++ c.rest.dropWhile isNameText :=
      List.takeWhile_append_dropWhile.symm
    rw [step]
    split
    · next cause hname => exact .refuse _ _ _ _ _ hrest hname
    · next erasure hread =>
      split
      · next inner htail =>
        rw [htail] at hrest
        split
        · next hdepth => exact .limit _ _ ⟨_, erasure, hread⟩ _ hrest (eq_of_beq hdepth)
        · next hdepth => exact .opens _ _ ⟨_, erasure, hread⟩ _ hrest (by simpa using hdepth)
      · next hopen => exact .name _ _ ⟨_, erasure, hread⟩ _ hrest hopen
  | returns [] t c => exact .finish t c
  | returns (frame :: waiting) t c =>
    rw [step]
    split
    · next next hnext => exact .comma _ _ _ _ _ hnext
    · next next hnext => exact .close _ _ _ _ _ hnext
    · next hcomma hclose =>
      refine .unbalanced _ _ _ _ fun d next hnext => ⟨?_, ?_⟩
      · rintro rfl
        exact hcomma next hnext
      · rintro rfl
        exact hclose next hnext
  | ended result => exact .stay result

/-! ## What a step keeps -/

/-- A move goes on in the text. -/
theorem Move.suffix (h : Move input s s') : s'.cursor.rest <:+ s.cursor.rest := by
  cases h with
  | refuse waiting c name tail cause hrest => exact ⟨name, hrest.symm⟩
  | limit waiting c n inner hrest => exact ⟨n.text ++ ['<'], by simp [cursor, hrest]⟩
  | opens waiting c n inner hrest => exact ⟨n.text ++ ['<'], by simp [cursor, hrest]⟩
  | name waiting c n tail hrest => exact ⟨n.text, hrest.symm⟩
  | finish => exact List.suffix_rfl
  | comma frame waiting t c next hnext =>
    exact (List.suffix_cons ',' next).trans (Text.suffix_of_trimLeft_eq hnext)
  | close frame waiting t c next hnext =>
    exact (List.suffix_cons '>' next).trans (Text.suffix_of_trimLeft_eq hnext)
  | unbalanced => exact List.suffix_rfl
  | stay => exact List.suffix_rfl

/-- Every move before the end takes a character, or it is the last. -/
theorem Move.weight_lt (h : Move input s s') (hs : s.weight ≠ 0) : s'.weight < s.weight := by
  cases h with
  | refuse => exact Nat.succ_pos _
  | limit => exact Nat.succ_pos _
  | opens waiting c n inner hrest =>
    simp only [weight, hrest, List.length_append, List.length_cons]
    omega
  | name waiting c n tail hrest =>
    have hpos := n.text_length_pos
    simp only [weight, hrest, List.length_append]
    omega
  | finish => exact Nat.succ_pos _
  | comma frame waiting t c next hnext =>
    have hlength := (Text.suffix_of_trimLeft_eq hnext).length_le
    simp only [weight, List.length_cons] at hlength ⊢
    omega
  | close frame waiting t c next hnext =>
    have hlength := (Text.suffix_of_trimLeft_eq hnext).length_le
    simp only [weight, List.length_cons] at hlength ⊢
    omega
  | unbalanced => exact Nat.succ_pos _
  | stay => exact absurd rfl hs

/-- No move goes below the limit. -/
theorem Move.depth_le (h : Move input s s') (hs : s.cursor.depth ≤ nestingLimit) :
    s'.cursor.depth ≤ nestingLimit := by
  cases h with
  | opens waiting c n inner _ hdepth => exact Nat.lt_of_le_of_ne hs hdepth
  | close => exact (Nat.sub_le _ 1).trans hs
  | refuse | limit | name | finish | comma | unbalanced | stay => exact hs

/-- The cursor is deeper than the first call was by one for each call that waits. -/
theorem Move.opened {depth : Nat} (h : Move input s s') (hs : s.Opened depth) :
    s'.Opened depth := by
  cases h with
  | opens =>
    simp only [Opened, List.length_cons] at hs ⊢
    omega
  | close =>
    simp only [Opened, List.length_cons] at hs ⊢
    omega
  | name | finish | comma | stay => exact hs
  | refuse | limit | unbalanced => trivial

/-- A state of a run that starts at some place: the cursor has gone on in the text from there, and
it is as deep as calls wait, but not below the limit. -/
structure Within (start : Cursor) (s : State) : Prop where
  suffix : s.cursor.rest <:+ start.rest
  depth_le : s.cursor.depth ≤ nestingLimit
  opened : s.Opened start.depth

/-- A run is within the limit at its start. -/
theorem within_calls (h : start.depth ≤ nestingLimit) : Within start (calls [] start) :=
  ⟨List.suffix_rfl, h, rfl⟩

/-- A step of the machine stays within the limit. -/
theorem Within.step (h : Within start s) (input : String) : Within start (s.step input) where
  suffix := (move_step input s).suffix.trans h.suffix
  depth_le := (move_step input s).depth_le h.depth_le
  opened := (move_step input s).opened h.opened

/-- All steps of the machine stay within the limit. -/
theorem Within.iterate (h : Within start s) (input : String) (n : Nat) :
    Within start ((State.step input)^[n] s) := by
  induction n with
  | zero => exact h
  | succ n ih =>
    rw [Function.iterate_succ_apply']
    exact ih.step input

/-- No more calls are on the stack than the limit leaves room for. -/
theorem Within.frames_le (h : Within start s) : s.frames ≤ nestingLimit + 1 - start.depth := by
  obtain ⟨-, hdepth, hopened⟩ := h
  cases s with
  | calls waiting c =>
    simp only [cursor, Opened, frames] at hdepth hopened ⊢
    omega
  | returns waiting t c =>
    simp only [cursor, Opened, frames] at hdepth hopened ⊢
    omega
  | ended result => exact Nat.zero_le _

/-! ## The end of a run -/

/-- Only the end has no weight. -/
theorem exists_ended_of_weight (h : s.weight = 0) : ∃ result, s = ended result := by
  cases s with
  | calls | returns => contradiction
  | ended result => exact ⟨result, rfl⟩

/-- Every step takes from the weight what it can. -/
theorem weight_iterate_le (input : String) (s : State) (n : Nat) :
    ((State.step input)^[n] s).weight ≤ s.weight - n := by
  induction n with
  | zero => exact Nat.le_refl _
  | succ n ih =>
    rw [Function.iterate_succ_apply']
    by_cases hzero : ((State.step input)^[n] s).weight = 0
    · obtain ⟨result, hended⟩ := exists_ended_of_weight hzero
      rw [hended]
      exact Nat.zero_le _
    · have hlt := (move_step input ((State.step input)^[n] s)).weight_lt hzero
      omega

/-- The machine ends after as many steps as the weight of the state. -/
theorem exists_iterate_weight (input : String) (s : State) :
    ∃ result, (State.step input)^[s.weight] s = ended result := by
  have hweight := weight_iterate_le input s s.weight
  rw [Nat.sub_self] at hweight
  exact exists_ended_of_weight (Nat.le_zero.mp hweight)

/-- The machine comes from one state to another. -/
def Reaches (input : String) (s s' : State) : Prop := ∃ n, (State.step input)^[n] s = s'

/-- What comes after a step is reached. -/
theorem Reaches.head (h : Reaches input (s.step input) s') : Reaches input s s' := by
  obtain ⟨n, hn⟩ := h
  exact ⟨n + 1, hn⟩

/-- A state reaches itself. -/
theorem Reaches.refl (input : String) (s : State) : Reaches input s s := ⟨0, rfl⟩

/-- One run after another. -/
theorem Reaches.trans (h : Reaches input s s') (h' : Reaches input s' s'') :
    Reaches input s s'' := by
  obtain ⟨m, rfl⟩ := h
  obtain ⟨n, rfl⟩ := h'
  exact ⟨n + m, Function.iterate_add_apply _ n m s⟩

/-- What is reached is further on in the text. -/
theorem Reaches.suffix (h : Reaches input s s') : s'.cursor.rest <:+ s.cursor.rest := by
  obtain ⟨n, rfl⟩ := h
  induction n with
  | zero => exact List.suffix_rfl
  | succ n ih =>
    rw [Function.iterate_succ_apply']
    exact (move_step input _).suffix.trans ih

/-- The end that is reached is there after as many steps as the weight of the state. -/
theorem Reaches.iterate_weight {result : Except Stop (DeclaredType × Cursor)}
    (h : Reaches input s (ended result)) : (State.step input)^[s.weight] s = ended result := by
  obtain ⟨n, hn⟩ := h
  obtain ⟨result', hended⟩ := exists_iterate_weight input s
  have hfixed (m : Nat) (r : Except Stop (DeclaredType × Cursor)) :
      (State.step input)^[m] (ended r) = ended r := Function.iterate_fixed rfl m
  -- Both numbers of steps together lead to either end.
  calc (State.step input)^[s.weight] s = ended result' := hended
    _ = (State.step input)^[n] ((State.step input)^[s.weight] s) := by rw [hended, hfixed]
    _ = (State.step input)^[s.weight] ((State.step input)^[n] s) := by
        rw [← Function.iterate_add_apply, ← Function.iterate_add_apply, Nat.add_comm]
    _ = ended result := by rw [hn, hfixed]

/-! ## The machine and the reader -/

/-- How a call ends: the latest of the calls that wait gets the type, and a refusal ends all. -/
def State.after (waiting : List Frame) : Except Stop (DeclaredType × Cursor) → State
  | .ok (t, c) => returns waiting t c
  | .error stop => ended (.error stop)

/-- What becomes of a frame when its last arguments have been read. -/
def Frame.finish (frame : Frame) (result : List DeclaredType × Cursor) : DeclaredType × Cursor :=
  (frame.close result.1, result.2)

/-- The first step of a call ends it as the reading of a type ends, or it makes a call for the
arguments that are still to be read. -/
theorem step_calls (bound : Nat) (input : String) (waiting : List Frame) (c : Cursor) :
    step input (calls waiting c) = after waiting (readTypeWithin (bound + 1) input c) ∨
      ∃ (n : Name) (inner : List Char), c.rest = n.text ++ '<' :: inner ∧
        step input (calls waiting c) =
          calls (⟨n.erasure, []⟩ :: waiting) ⟨inner, c.depth + 1⟩ ∧
        readTypeWithin (bound + 1) input c =
          (readArgumentsWithin bound input ⟨inner, c.depth + 1⟩).map
            (Frame.finish ⟨n.erasure, []⟩) := by
  cases hread : ErasedType.read (c.rest.takeWhile isNameText) with
  | error cause => exact .inl (by simp only [step, readTypeWithin, hread, after])
  | ok erasure =>
    have hrest : c.rest = c.rest.takeWhile isNameText ++ c.rest.dropWhile isNameText :=
      List.takeWhile_append_dropWhile.symm
    cases htail : c.rest.dropWhile isNameText with
    | nil => exact .inl (by simp only [step, readTypeWithin, hread, htail, after])
    | cons d inner =>
      by_cases hopen : d = '<'
      · subst hopen
        rw [htail] at hrest
        by_cases hdepth : c.depth = nestingLimit
        · exact .inl (by simp [step, readTypeWithin, hread, htail, hdepth, after])
        · refine .inr ⟨⟨_, erasure, hread⟩, inner, hrest, ?_, ?_⟩
          · simp [step, hread, htail, hdepth]
          · simp only [readTypeWithin, hread, htail, beq_iff_eq, hdepth, if_false]
            cases readArgumentsWithin bound input ⟨inner, c.depth + 1⟩ <;> rfl
      · exact .inl (by simp [step, readTypeWithin, hread, htail, hopen, after])

/-- The step after the reading of an argument ends the call that waits for it as the reading of
arguments ends, or it makes a call for the next argument. -/
theorem step_returns {first : DeclaredType} (frame : Frame) (waiting : List Frame)
    (h : readTypeWithin bound input c = .ok (first, later)) :
    step input (returns (frame :: waiting) first later) =
        after waiting ((readArgumentsWithin (bound + 1) input c).map frame.finish) ∨
      ∃ next, Text.trimLeft later.rest = ',' :: next ∧
        step input (returns (frame :: waiting) first later) =
          calls (frame.push first :: waiting) ⟨next, later.depth⟩ ∧
        (readArgumentsWithin (bound + 1) input c).map frame.finish =
          (readArgumentsWithin bound input ⟨next, later.depth⟩).map (frame.push first).finish := by
  cases hnext : Text.trimLeft later.rest with
  | nil => exact .inl (by simp only [step, readArgumentsWithin, h, hnext, Except.map, after])
  | cons d next =>
    by_cases hcomma : d = ','
    · subst hcomma
      refine .inr ⟨next, rfl, by simp only [step, hnext], ?_⟩
      simp only [readArgumentsWithin, h, hnext]
      cases readArgumentsWithin bound input ⟨next, later.depth⟩ with
      | error stop => rfl
      | ok result => simp [Except.map, Frame.finish, Frame.close, Frame.push]
    · by_cases hclose : d = '>'
      · subst hclose
        exact .inl (by simp only [step, readArgumentsWithin, h, hnext, Except.map, after,
          Frame.finish])
      · exact .inl (by simp [step, readArgumentsWithin, h, hnext, hcomma, hclose, Except.map,
          after])

/-- Within the bound that the text gives, the machine does what the reader does: a call of the
machine ends as the reading of a type, and the call that waits for arguments ends as the reading of
arguments. -/
theorem reaches_after (input : String) (bound : Nat) :
    (∀ c waiting, c.rest.length ≤ bound →
      Reaches input (calls waiting c) (after waiting (readTypeWithin bound input c))) ∧
    ∀ c frame waiting, c.rest.length < bound →
      Reaches input (calls (frame :: waiting) c)
        (after waiting ((readArgumentsWithin bound input c).map frame.finish)) := by
  induction bound with
  | zero =>
    refine ⟨fun c waiting hbound => ?_, fun c frame waiting hbound => absurd hbound (by simp)⟩
    obtain ⟨rest, depth⟩ := c
    obtain rfl : rest = [] := List.length_eq_zero_iff.mp (Nat.le_zero.mp hbound)
    exact .head (.refl _ _)
  | succ bound ih =>
    obtain ⟨ihType, ihArguments⟩ := ih
    constructor
    · intro c waiting hbound
      refine .head ?_
      obtain hstep | ⟨n, inner, hrest, hstep, hread⟩ := step_calls bound input waiting c
      · rw [hstep]
        exact .refl _ _
      · have hpos := n.text_length_pos
        rw [hrest, List.length_append, List.length_cons] at hbound
        rw [hstep, hread]
        exact ihArguments _ _ _ (by simp only; omega)
    · intro c frame waiting hbound
      have hfirst := ihType c (frame :: waiting) (Nat.le_of_lt_succ hbound)
      cases hread : readTypeWithin bound input c with
      | error stop =>
        rw [hread] at hfirst
        rw [readArgumentsWithin, hread]
        exact hfirst
      | ok result =>
        obtain ⟨first, later⟩ := result
        rw [hread] at hfirst
        refine hfirst.trans (.head ?_)
        obtain hstep | ⟨next, hnext, hstep, hothers⟩ := step_returns frame waiting hread
        · rw [after, hstep]
          exact .refl _ _
        · -- The argument and the comma have left less of the text.
          have hlater : later.rest <:+ c.rest := hfirst.suffix
          have hlength := ((Text.suffix_of_trimLeft_eq hnext).trans hlater).length_le
          rw [List.length_cons] at hlength
          rw [after, hstep, hothers]
          exact ihArguments _ _ _ (by simp only; omega)

/-- The first call of the machine ends as the reading of a type, whatever bound the text leaves room
for. -/
theorem iterate_eq_ended (h : c.rest.length ≤ bound) :
    (State.step input)^[c.rest.length + 1] (calls [] c) =
      ended (readTypeWithin bound input c) := by
  have hreaches := (reaches_after input bound).1 c [] h
  have hended : Reaches input (after [] (readTypeWithin bound input c))
      (ended (readTypeWithin bound input c)) := by
    cases readTypeWithin bound input c with
    | error stop => exact .refl _ _
    | ok result => exact .head (.refl _ _)
  exact (hreaches.trans hended).iterate_weight

/-! ## Reading a type -/

/-- What is left after a type: the text has ended, or goes on with a comma or a closing bracket,
after a type without arguments; else what follows the bracket that closes the arguments. -/
inductive Leaves (c : Cursor) : DeclaredType → List Char → Prop where
  | raw (n : Name) (rest : List Char) (hrest : c.rest = n.text ++ rest)
      (hend : rest = [] ∨ ∃ d tail, rest = d :: tail ∧ (d = ',' ∨ d = '>')) :
      Leaves c (.raw n.erasure) rest
  | closed (n : Name) (arguments : Arguments) (rest : List Char)
      (hrest : c.rest = n.text ++ '<' :: (arguments.text ++ '>' :: rest)) :
      Leaves c (.mk n.erasure arguments.trees) rest

/-- A type is read with its own closing bracket, or up to where a type without arguments ends. -/
theorem leaves_of_readTypeWithin {t : DeclaredType}
    (h : readTypeWithin bound input c = .ok (t, later)) (hdepth : c.depth ≤ nestingLimit) :
    Leaves c t later.rest := by
  obtain ⟨n, hrest, rfl, hend⟩ | ⟨n, arguments, -, hrest, rfl⟩ := text_of_readTypeWithin h hdepth
  · refine .raw n later.rest hrest ?_
    cases hlater : later.rest with
    | nil => exact .inl rfl
    | cons d tail => exact .inr ⟨d, tail, rfl, hend d (by rw [hlater]; rfl)⟩
  · rw [Derivation.text_applied_append] at hrest
    exact .closed n arguments later.rest hrest

/-- A type takes at least one character. -/
theorem Leaves.length_lt {t : DeclaredType} {rest : List Char} (h : Leaves c t rest) :
    rest.length < c.rest.length := by
  cases h with
  | raw n rest hrest =>
    have hpos := n.text_length_pos
    rw [hrest, List.length_append]
    omega
  | closed n arguments rest hrest =>
    rw [hrest, List.length_append, List.length_cons, List.length_append, List.length_cons]
    omega

/-- From every place that is not below the limit, and whatever is left of the text there:

* The reading of a type ends. The machine has done it after as many steps as characters are left,
  and one more, and a larger bound would change nothing.
* Every call on the way starts further on in the text, one list of arguments deeper for each call
  that waits, and not below the limit. So there are never more than 256 calls on the stack.
* If a type is read, it takes at least one character, as many lists of arguments are open as before,
  and what is left follows the closing bracket of the type, or is where a type without arguments
  ends.
* If no type is read, what is left is still a suffix of the text. -/
theorem readType_within_stack (input : String) (c : Cursor) (hdepth : c.depth ≤ 255) :
    ((State.step input)^[c.rest.length + 1] (calls [] c) = ended (c.readType input) ∧
      ∀ bound, c.rest.length ≤ bound → readTypeWithin bound input c = c.readType input) ∧
    ((∀ n waiting later, (State.step input)^[n] (calls [] c) = calls waiting later →
        later.rest <:+ c.rest ∧ later.depth = c.depth + waiting.length ∧ later.depth ≤ 255) ∧
      ∀ n, ((State.step input)^[n] (calls [] c)).frames ≤ 256 - c.depth) ∧
    (∀ t later, c.readType input = .ok (t, later) →
      later.rest <:+ c.rest ∧ later.rest.length < c.rest.length ∧ later.depth = c.depth ∧
        Leaves c t later.rest) ∧
    ∀ stop, c.readType input = .error stop → stop.cursor.rest <:+ c.rest := by
  have hwithin (n : Nat) : Within c ((State.step input)^[n] (calls [] c)) :=
    (within_calls hdepth).iterate input n
  have hended : (State.step input)^[c.rest.length + 1] (calls [] c) = ended (c.readType input) :=
    iterate_eq_ended (Nat.le_refl _)
  have hlast : Within c (ended (c.readType input)) := hended ▸ hwithin _
  refine ⟨⟨hended, fun bound hbound => ?_⟩, ⟨fun n waiting later h => ?_, fun n => ?_⟩,
    fun t later h => ?_, fun stop h => ?_⟩
  · exact ended.inj ((iterate_eq_ended hbound).symm.trans hended)
  · obtain ⟨hsuffix, hdepth, hopened⟩ := h ▸ hwithin n
    exact ⟨hsuffix, hopened, hdepth⟩
  · exact (hwithin n).frames_le
  · rw [h] at hlast
    have hleaves := leaves_of_readTypeWithin h hdepth
    exact ⟨hlast.suffix, hleaves.length_lt, hlast.opened, hleaves⟩
  · rw [h] at hlast
    exact hlast.suffix

/-- One list of arguments above the limit, a type may have arguments, but these may not; their
brackets need not be closed for that to be seen. -/
theorem readType_within_stack_limit :
    Cursor.readType "a.B<c.D>, e.F" ⟨"a.B<c.D>, e.F".toList, 254⟩ =
        .ok (mk (.object "a.B") [raw (.object "c.D")], ⟨", e.F".toList, 254⟩) ∧
      Leaves ⟨"a.B<c.D>, e.F".toList, 254⟩ (mk (.object "a.B") [raw (.object "c.D")])
        ", e.F".toList ∧
      Cursor.readType "a.B<c.D<e.F" ⟨"a.B<c.D<e.F".toList, 254⟩ =
        .error ⟨.tooDeep 255, "e.F".toList, 255⟩ ∧
      "e.F".toList <:+ "a.B<c.D<e.F".toList ∧
      ∀ n, ((State.step "a.B<c.D<e.F")^[n] (calls [] ⟨"a.B<c.D<e.F".toList, 254⟩)).frames ≤ 2 := by
  have hread : Cursor.readType "a.B<c.D>, e.F" ⟨"a.B<c.D>, e.F".toList, 254⟩ =
      .ok (mk (.object "a.B") [raw (.object "c.D")], ⟨", e.F".toList, 254⟩) := by decide +kernel
  have hrefused : Cursor.readType "a.B<c.D<e.F" ⟨"a.B<c.D<e.F".toList, 254⟩ =
      .error ⟨.tooDeep 255, "e.F".toList, 255⟩ := by decide +kernel
  obtain ⟨-, -, hleaves, -⟩ :=
    readType_within_stack "a.B<c.D>, e.F" ⟨"a.B<c.D>, e.F".toList, 254⟩ (by decide)
  obtain ⟨-, ⟨-, hframes⟩, -, hleft⟩ :=
    readType_within_stack "a.B<c.D<e.F" ⟨"a.B<c.D<e.F".toList, 254⟩ (by decide)
  exact ⟨hread, (hleaves _ _ hread).2.2.2, hrefused, hleft _ hrefused, hframes⟩

end AccessorUpgrade.DeclaredType
