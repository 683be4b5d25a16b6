import AccessorUpgrade.Proofs.Json.Layout
import AccessorUpgrade.Proofs.Json.Tokens

/-!
# JSON text is read back

A tree that is complete, has only natural numbers of 64 bits, and is not nested too deep is read
back from its text, in every layout whose white space is white space of JSON (`Layout.read_text`),
so from compact text and from text with indentation (`read_compact`, `read_pretty`).

The proof goes by induction on the tree. A value brings the reader from any state that expects one
to the state with the value delivered; inside an array or object the induction is on the items or
members that are still to come, and what has been read so far stands in the innermost frame.
-/

namespace AccessorUpgrade.Json

open State (isSpace)

/-! ## Trees that can be written -/

/-- The trees that are read back from their text: complete, with natural numbers of 64 bits, and
with at most so many arrays and objects in each other. -/
inductive Writable : Nat → Json → Prop where
  | null {depth : Nat} : Writable depth null
  | bool {depth : Nat} (b : Bool) : Writable depth (bool b)
  | string {depth : Nat} (s : String) : Writable depth (string s)
  | natural {depth n : Nat} (h : n < 2 ^ 64) : Writable depth (natural n)
  | list {depth : Nat} {items : List Json} (h : ∀ item ∈ items, Writable depth item) :
    Writable (depth + 1) (list items)
  | record {depth : Nat} {members : List (String × Json)}
    (h : ∀ member ∈ members, Writable depth member.2) : Writable (depth + 1) (record members)

/-- The values of an object's members are nested less deep than the object. -/
theorem Writable.of_record {depth : Nat} {members : List (String × Json)}
    (h : Writable (depth + 1) (Json.record members)) :
    ∀ member ∈ members, Writable depth member.2 := by
  cases h with
  | record h => exact h

/-- A tree that can be written has a value throughout. -/
theorem Writable.readable {depth : Nat} {value : Json} (h : Writable depth value) :
    value.readable = true := by
  induction h with
  | null | bool _ | string _ | natural _ => rfl
  | @list depth items _ ih =>
    have hall : itemsReadable items = true := by
      clear * - ih
      induction items with
      | nil => rfl
      | cons item rest ihrest =>
        obtain ⟨hitem, hrest⟩ := List.forall_mem_cons.mp ih
        rw [itemsReadable, hitem, ihrest hrest, Bool.and_self]
    simp [Json.list, Json.readable, hall]
  | @record depth members _ ih =>
    have hall : membersReadable members = true := by
      clear * - ih
      induction members with
      | nil => rfl
      | cons member rest ihrest =>
        obtain ⟨hmember, hrest⟩ := List.forall_mem_cons.mp ih
        rw [membersReadable, hmember, ihrest hrest, Bool.and_self]
    simp [Json.record, Json.readable, hall]

/-! ## Arrays and objects -/

variable {stack : List Frame} {root : Option Json} {t : State} {frame : Frame} {mode : Mode}
  {value : Json}

/-- The bracket that closes an array or object. -/
def Frame.bracket : Frame → Char
  | .array .. => ']'
  | .object .. => '\x7d'

namespace State

/-- A closing bracket closes the innermost array or object. -/
theorem step_bracket (frame : Frame) (stack : List Frame) (root : Option Json) :
    step ⟨frame :: stack, .after, root, false⟩ frame.bracket =
      State.deliver ⟨stack, .after, root, false⟩ frame.close := by
  cases frame <;> rfl

/-- An array or object goes on to its closing bracket behind the last value. -/
theorem foldl_step_close (h : Completes ⟨frame :: stack, mode, root, false⟩ value t)
    {blanks : List Char} (hblanks : ∀ c ∈ blanks, isSpace c = true) :
    (blanks ++ [frame.bracket]).foldl step t =
      State.deliver ⟨stack, .after, root, false⟩ (frame.add value).close := by
  have hbracket : (frame.add value).bracket = frame.bracket := by
    cases frame with
    | array => rfl
    | object _ _ _ keys => cases keys <;> rfl
  have hdelivered : (blanks ++ [frame.bracket]).foldl step t =
      (blanks ++ [frame.bracket]).foldl step ⟨frame.add value :: stack, .after, root, false⟩ := by
    cases blanks with
    | nil => exact h.foldl rfl (by cases frame <;> rfl) _
    | cons c rest =>
      have hc := (List.forall_mem_cons.mp hblanks).1
      exact h.foldl rfl (by simp [endsValue, hc]) _
  rw [hdelivered, List.foldl_append, foldl_step_blanks rfl rfl hblanks, List.foldl_cons,
    List.foldl_nil, ← hbracket, step_bracket]

end State

namespace Layout

variable {l : Layout} {depth : Nat}

/-- The white space of a layout is white space of JSON. -/
structure IsBlank (l : Layout) : Prop where
  gap : ∀ level, ∀ c ∈ l.gap level, isSpace c = true
  afterColon : ∀ c ∈ l.afterColon, isSpace c = true

/-- Wherever a value may come that is nested so deep, the reader reads this one from its text. -/
def ReadsBack (l : Layout) (depth : Nat) (value : Json) : Prop :=
  ∀ (stack : List Frame) (closable : Bool) (root : Option Json) (level : Nat),
    State.nextLevel ⟨stack, .value closable, root, false⟩ + depth ≤ nestingLimit + 1 →
      State.Completes ⟨stack, .value closable, root, false⟩ value
        ((l.text level value).foldl State.step ⟨stack, .value closable, root, false⟩)

/-- An array is read from behind one of its items to its end. -/
theorem foldl_step_restItems (hl : l.IsBlank) {k level : Nat} (outer : Nat)
    (hk : k + 1 + depth ≤ nestingLimit + 1) {rest : List Json}
    (hrest : ∀ item ∈ rest, l.ReadsBack depth item) {items : List Json} {item : Json}
    (h : State.Completes ⟨.array k items :: stack, mode, root, false⟩ item t) :
    (l.restItems level rest ++ (l.gap outer ++ [']'])).foldl State.step t =
      State.deliver ⟨stack, .after, root, false⟩ (.list (items.reverse ++ item :: rest)) := by
  induction rest generalizing items item t mode with
  | nil =>
    have hlimit : ¬ nestingLimit < k := by omega
    rw [restItems, List.nil_append]
    refine (State.foldl_step_close h (hl.gap outer)).trans ?_
    simp [Frame.add, Frame.close, Frame.level, hlimit, Json.list]
  | cons next rest ih =>
    obtain ⟨hnext, hothers⟩ := List.forall_mem_cons.mp hrest
    have hcomma : State.step (State.deliver ⟨.array k items :: stack, mode, root, false⟩ item) ',' =
        ⟨.array k (item :: items) :: stack, .value false, root, false⟩ := rfl
    rw [restItems, List.cons_append, h.foldl rfl rfl, List.foldl_cons, hcomma]
    simp only [List.append_assoc, List.foldl_append]
    rw [State.foldl_step_blanks rfl rfl (hl.gap level), ← List.foldl_append,
      ← List.foldl_append, ih hothers (hnext _ _ _ _ hk)]
    simp

/-- A member is read where a key may come. -/
theorem foldl_step_member (hl : l.IsBlank) {k : Nat} (hk : k + 1 + depth ≤ nestingLimit + 1)
    (stack : List Frame) (closable : Bool) (root : Option Json) (level : Nat)
    (members : List (String × Json)) (old key : String) (hvalue : l.ReadsBack depth value)
    (rest : List Char) :
    ∃ t, State.Completes ⟨.object k members key .readable :: stack, .value false, root, false⟩
        value t ∧
      (quote key ++ ':' :: (l.afterColon ++ (l.text level value ++ rest))).foldl State.step
        ⟨.object k members old .readable :: stack, .key closable, root, false⟩ =
          rest.foldl State.step t := by
  refine ⟨_, hvalue (.object k members key .readable :: stack) false root level hk, ?_⟩
  have hcolon : State.step ⟨.object k members key .readable :: stack, .colon, root, false⟩ ':' =
      ⟨.object k members key .readable :: stack, .value false, root, false⟩ := rfl
  rw [List.foldl_append, State.foldl_step_quote_key, List.foldl_cons, hcolon, List.foldl_append,
    State.foldl_step_blanks rfl rfl hl.afterColon, List.foldl_append]

/-- An object is read from behind one of its members to its end. -/
theorem foldl_step_restMembers (hl : l.IsBlank) {k level : Nat} (outer : Nat)
    (hk : k + 1 + depth ≤ nestingLimit + 1) {rest : List (String × Json)}
    (hrest : ∀ member ∈ rest, l.ReadsBack depth member.2) {members : List (String × Json)}
    {key : String}
    (h : State.Completes ⟨.object k members key .readable :: stack, mode, root, false⟩ value t) :
    (l.restMembers level rest ++ (l.gap outer ++ ['\x7d'])).foldl State.step t =
      State.deliver ⟨stack, .after, root, false⟩
        (.record (members.reverse ++ (key, value) :: rest)) := by
  induction rest generalizing members key value t mode with
  | nil =>
    have hlimit : ¬ nestingLimit < k := by omega
    rw [restMembers, List.nil_append]
    refine (State.foldl_step_close h (hl.gap outer)).trans ?_
    simp [Frame.add, Frame.close, Frame.level, hlimit, Json.record, Keys.ending]
  | cons next rest ih =>
    obtain ⟨name, inner⟩ := next
    obtain ⟨hinner, hothers⟩ := List.forall_mem_cons.mp hrest
    have hcomma : State.step
        (State.deliver ⟨.object k members key .readable :: stack, mode, root, false⟩ value) ',' =
          ⟨.object k ((key, value) :: members) key .readable :: stack, .key false, root, false⟩ :=
      rfl
    obtain ⟨u, hu, hmember⟩ := foldl_step_member hl hk stack false root level
      ((key, value) :: members) key name hinner
      (l.restMembers level rest ++ (l.gap outer ++ ['\x7d']))
    rw [restMembers, List.cons_append, h.foldl rfl rfl, List.foldl_cons, hcomma, List.append_assoc,
      List.foldl_append, State.foldl_step_blanks rfl rfl (hl.gap level)]
    simp only [List.append_assoc, List.cons_append]
    rw [hmember, ih hothers hu]
    simp

/-- An array is read from its text if its items are. -/
theorem ReadsBack.list (hl : l.IsBlank) {items : List Json}
    (h : ∀ item ∈ items, l.ReadsBack depth item) : l.ReadsBack (depth + 1) (.list items) := by
  intro stack closable root level hlevel
  left
  generalize hk : State.nextLevel ⟨stack, .value closable, root, false⟩ = k at hlevel
  have hopen : State.step ⟨stack, .value closable, root, false⟩ '[' =
      ⟨.array k [] :: stack, .value true, root, false⟩ := by
    rw [← hk]
    rfl
  cases items with
  | nil =>
    have hlimit : ¬ nestingLimit < k := by omega
    have hclose : State.step ⟨.array k [] :: stack, .value true, root, false⟩ ']' =
        State.deliver ⟨stack, .value true, root, false⟩ (Frame.close (.array k [])) := rfl
    rw [Json.list, text, List.foldl_cons, hopen, List.foldl_cons, List.foldl_nil, hclose]
    simp only [Frame.close, Frame.level, hlimit, if_false]
    exact State.deliver_mode ⟨stack, .value closable, root, false⟩ (.value true) _
  | cons first rest =>
    obtain ⟨hfirst, hrest⟩ := List.forall_mem_cons.mp h
    have hinner : k + 1 + depth ≤ nestingLimit + 1 := by omega
    have hread := hfirst (.array k [] :: stack) true root (level + 1) hinner
    rw [Json.list, text, List.foldl_cons, hopen, List.foldl_append,
      State.foldl_step_blanks rfl rfl (hl.gap _), List.foldl_append,
      foldl_step_restItems hl level hinner hrest hread]
    exact State.deliver_mode ⟨stack, .value closable, root, false⟩ .after _

/-- An object is read from its text if the values of its members are. -/
theorem ReadsBack.record (hl : l.IsBlank) {members : List (String × Json)}
    (h : ∀ member ∈ members, l.ReadsBack depth member.2) :
    l.ReadsBack (depth + 1) (.record members) := by
  intro stack closable root level hlevel
  left
  generalize hk : State.nextLevel ⟨stack, .value closable, root, false⟩ = k at hlevel
  have hopen : State.step ⟨stack, .value closable, root, false⟩ '\x7b' =
      ⟨.object k [] "" .readable :: stack, .key true, root, false⟩ := by
    rw [← hk]
    rfl
  cases members with
  | nil =>
    have hlimit : ¬ nestingLimit < k := by omega
    have hclose : State.step ⟨.object k [] "" .readable :: stack, .key true, root, false⟩ '\x7d' =
        State.deliver ⟨stack, .key true, root, false⟩ (Frame.close (.object k [] "" .readable)) :=
      rfl
    rw [Json.record, text, List.foldl_cons, hopen, List.foldl_cons, List.foldl_nil, hclose]
    simp only [Frame.close, Frame.level, hlimit, if_false]
    exact State.deliver_mode ⟨stack, .value closable, root, false⟩ (.key true) _
  | cons member rest =>
    obtain ⟨key, first⟩ := member
    obtain ⟨hfirst, hrest⟩ := List.forall_mem_cons.mp h
    have hinner : k + 1 + depth ≤ nestingLimit + 1 := by omega
    obtain ⟨t, ht, hmember⟩ := foldl_step_member hl hinner stack true root (level + 1) [] "" key
      hfirst (l.restMembers (level + 1) rest ++ (l.gap level ++ ['\x7d']))
    rw [Json.record, text, List.foldl_cons, hopen, List.foldl_append,
      State.foldl_step_blanks rfl rfl (hl.gap _), hmember,
      foldl_step_restMembers hl level hinner hrest ht]
    exact State.deliver_mode ⟨stack, .value closable, root, false⟩ .after _

/-- Every tree that can be written is read from its text. -/
theorem readsBack_of_writable (hl : l.IsBlank) (h : Writable depth value) :
    l.ReadsBack depth value := by
  induction h with
  | null => exact fun _ closable _ _ _ => .inl (State.foldl_step_word closable (.inl rfl))
  | bool b =>
    exact fun _ closable _ _ _ => .inl (State.foldl_step_word closable (by cases b <;> simp))
  | string s => exact fun _ closable _ _ _ => .inl (State.foldl_step_quote_value closable s)
  | @natural _ n hn =>
    exact fun _ closable _ _ _ => .inr ⟨n, rfl, State.foldl_step_toDigits closable n hn⟩
  | list _ ih => exact .list hl ih
  | record _ ih => exact .record hl ih

/-! ## Whole texts -/

/-- A tree that can be written is read back from its text, and from its text with white space after
it. -/
theorem read_text (hl : l.IsBlank) (h : Writable nestingLimit value) (level : Nat)
    {blanks : List Char} (hblanks : ∀ c ∈ blanks, isSpace c = true) :
    Json.read (l.text level value ++ blanks) = ⟨value, true⟩ := by
  have hread := readsBack_of_writable hl h [] false none level (by
    rw [State.nextLevel, Nat.add_comm])
  have hfinish : ∀ t : State,
      t.settle = ⟨[], .after, some value, false⟩ → t.finish = ⟨value, true⟩ := by
    intro t ht
    simp [State.finish, ht]
  rw [Json.read, List.foldl_append]
  cases blanks with
  | nil => exact hfinish _ hread.settle
  | cons c rest =>
    have hc := (List.forall_mem_cons.mp hblanks).1
    refine hfinish _ ?_
    rw [State.start, hread.foldl rfl (by simp [State.endsValue, hc]),
      State.foldl_step_blanks rfl rfl hblanks]
    rfl

/-- Compact text has no white space. -/
theorem isBlank_compact : compact.IsBlank := ⟨by simp [compact], by simp [compact]⟩

/-- Lines are broken and indented with white space. -/
theorem isBlank_pretty : pretty.IsBlank := by
  refine ⟨fun level c hc => ?_, by simp [pretty, isSpace]⟩
  obtain rfl | hc := List.mem_cons.mp hc
  · rfl
  · rw [(List.mem_replicate.mp hc).2]
    rfl

end Layout

/-- A tree that can be written is read back from its compact text. -/
theorem read_compact (h : Writable nestingLimit value) {blanks : List Char}
    (hblanks : ∀ c ∈ blanks, isSpace c = true) :
    read (value.compact.toList ++ blanks) = ⟨value, true⟩ := by
  rw [compact, String.toList_ofList, compactText_eq 0]
  exact Layout.read_text Layout.isBlank_compact h 0 hblanks

/-- A tree that can be written is read back from its text with indentation. -/
theorem read_pretty (h : Writable nestingLimit value) {blanks : List Char}
    (hblanks : ∀ c ∈ blanks, isSpace c = true) :
    read (value.pretty.toList ++ blanks) = ⟨value, true⟩ := by
  rw [pretty, String.toList_ofList, prettyText_eq]
  exact Layout.read_text Layout.isBlank_pretty h 0 hblanks

end AccessorUpgrade.Json
