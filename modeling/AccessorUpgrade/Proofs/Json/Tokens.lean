import AccessorUpgrade.Json.Printer
import AccessorUpgrade.Json.Reader
import Mathlib.Tactic.IntervalCases

/-!
# Reading what has been written: white space, strings, words and numbers

The reader takes a text character by character. Here are the states that it comes to over the parts
of a written text, one lemma for each part. A string or a word brings it to the state with the value
complete. A number does so only with the character after it: until then the reader waits for more
digits (`Completes`).
-/

namespace AccessorUpgrade.Json

variable {s t : State} {stack : List Frame} {root : Option Json} {c : Char}

/-! ## White space -/

/-- Whether the reader stands between the parts of a value. -/
def Mode.isBetween : Mode → Bool
  | .value _ | .key _ | .colon | .after => true
  | .string .. | .word .. | .literal _ => false

namespace State

/-- Between the parts of a value a character means what it means there. -/
theorem step_of_isBetween (hs : s.stopped = false) (hmode : s.mode.isBetween = true) :
    s.step c = s.stepBetween c := by
  rw [step, if_neg (by simp [hs])]
  split
  · next h => simp [h, Mode.isBetween] at hmode
  · next h => simp [h, Mode.isBetween] at hmode
  · next h => simp [h, Mode.isBetween] at hmode
  · rfl

/-- White space between the parts of a value changes nothing. -/
theorem foldl_step_blanks (hs : s.stopped = false) (hmode : s.mode.isBetween = true)
    {blanks : List Char} (h : ∀ c ∈ blanks, isSpace c = true) : blanks.foldl step s = s := by
  induction blanks with
  | nil => rfl
  | cons c rest ih =>
    obtain ⟨hc, hrest⟩ := List.forall_mem_cons.mp h
    rw [List.foldl_cons, step_of_isBetween hs hmode, stepBetween, if_pos hc]
    exact ih hrest

end State

/-! ## Strings -/

/-- A string of which some characters have been read. -/
def StringText.ofChars (chars : List Char) : StringText := ⟨chars.reverse, .none, none, false⟩

/-- A string that has been read to its end has its characters for its value. -/
@[simp] theorem StringText.value_ofChars (chars : List Char) :
    (StringText.ofChars chars).value = some (String.ofList chars) := by
  simp [StringText.value, StringText.ofChars]

/-- One more character of a string. -/
theorem StringText.push_ofChars (chars : List Char) (c : Char) :
    (StringText.ofChars chars).push c = .ofChars (chars ++ [c]) := by
  simp [StringText.push, StringText.ofChars]

/-- A hexadecimal digit is read as it is written. -/
theorem hexValue?_hexDigit : ∀ n < 16, Text.hexValue? (hexDigit n) = some n := by
  decide

namespace State

variable {isKey : Bool} {chars : List Char}

/-- In a string the reader goes on as the string does. -/
theorem step_string {text text' : StringText} (h : text.next c = .continues text') :
    (⟨stack, .string isKey text, root, false⟩ : State).step c =
      ⟨stack, .string isKey text', root, false⟩ := by
  simp [step, h]

/-- A control character is read from its four digits, the first two of which are zeros. -/
theorem foldl_step_control (hc : c.toNat < 0x20) :
    ['\\', 'u', '0', '0', hexDigit (c.toNat / 16), hexDigit (c.toNat % 16)].foldl step
        ⟨stack, .string isKey (.ofChars chars), root, false⟩ =
      ⟨stack, .string isKey (.ofChars (chars ++ [c])), root, false⟩ := by
  have hthird : (⟨chars.reverse, .unit 2 0, none, false⟩ : StringText).next
      (hexDigit (c.toNat / 16)) =
        .continues ⟨chars.reverse, .unit 1 (c.toNat / 16), none, false⟩ := by
    simp [StringText.next, hexValue?_hexDigit (c.toNat / 16) (by omega)]
  have hfourth : (⟨chars.reverse, .unit 1 (c.toNat / 16), none, false⟩ : StringText).next
      (hexDigit (c.toNat % 16)) = .continues ((StringText.ofChars chars).push c) := by
    have hcode : c.toNat / 16 * 16 + c.toNat % 16 = c.toNat := by omega
    have hlow : ¬ 0xdc00 ≤ c.toNat := by omega
    have hhigh : ¬ 0xd800 ≤ c.toNat := by omega
    simp [StringText.next, hexValue?_hexDigit (c.toNat % 16) (by omega), hcode,
      StringText.pushUnit, hlow, hhigh, StringText.push, StringText.ofChars, Char.ofNat_toNat]
  calc ['\\', 'u', '0', '0', hexDigit (c.toNat / 16), hexDigit (c.toNat % 16)].foldl step
        ⟨stack, .string isKey (.ofChars chars), root, false⟩
      = [hexDigit (c.toNat / 16), hexDigit (c.toNat % 16)].foldl step
        ⟨stack, .string isKey ⟨chars.reverse, .unit 2 0, none, false⟩, root, false⟩ := rfl
    _ = [hexDigit (c.toNat % 16)].foldl step
        ⟨stack, .string isKey ⟨chars.reverse, .unit 1 (c.toNat / 16), none, false⟩, root,
          false⟩ := by
      rw [List.foldl_cons, step_string hthird]
    _ = ⟨stack, .string isKey ((StringText.ofChars chars).push c), root, false⟩ := by
      rw [List.foldl_cons, step_string hfourth, List.foldl_nil]
    _ = ⟨stack, .string isKey (.ofChars (chars ++ [c])), root, false⟩ := by
      rw [StringText.push_ofChars]

/-- A character is read in a string as it is written there. -/
theorem foldl_step_escape :
    (escape c).foldl step ⟨stack, .string isKey (.ofChars chars), root, false⟩ =
      ⟨stack, .string isKey (.ofChars (chars ++ [c])), root, false⟩ := by
  rw [escape.eq_def]
  split
  -- The seven short escapes.
  iterate 7 · rw [← StringText.push_ofChars]; rfl
  next hquote hbackslash _ _ _ _ _ =>
  split
  · next hcontrol => exact foldl_step_control hcontrol
  · next hprintable =>
    rw [← StringText.push_ofChars]
    refine step_string ?_
    simp only [StringText.next, StringText.ofChars, beq_iff_eq, hprintable, if_false]
    rw [if_neg hquote, if_neg hbackslash]

/-- The characters of a string are read as they are written. -/
theorem foldl_step_escapes (more : List Char) :
    (more.flatMap escape).foldl step ⟨stack, .string isKey (.ofChars chars), root, false⟩ =
      ⟨stack, .string isKey (.ofChars (chars ++ more)), root, false⟩ := by
  induction more generalizing chars with
  | nil => simp
  | cons c rest ih =>
    rw [List.flatMap_cons, List.foldl_append, foldl_step_escape, ih]
    simp

/-- A string is read up to its closing quote. -/
theorem foldl_step_quote (h : s.step '"' = ⟨stack, .string isKey (.ofChars []), root, false⟩)
    (text : String) : (quote text).foldl step s =
      step ⟨stack, .string isKey (.ofChars text.toList), root, false⟩ '"' := by
  simp only [quote, List.foldl_append, List.foldl_cons, List.foldl_nil, h, foldl_step_escapes,
    List.nil_append]

/-- A string that is written where a value may come is that value. -/
theorem foldl_step_quote_value (closable : Bool) (text : String) :
    (quote text).foldl step ⟨stack, .value closable, root, false⟩ =
      State.deliver ⟨stack, .value closable, root, false⟩ (.string text) := by
  have hvalue : (StringText.ofChars text.toList).value.elim unreadable string = string text := by
    simp
  rw [foldl_step_quote rfl, ← hvalue]
  cases stack <;> rfl

/-- A string that is written where a key may come is the key. -/
theorem foldl_step_quote_key (closable : Bool) (level : Nat) (members : List (String × Json))
    (old key : String) :
    (quote key).foldl step
        ⟨.object level members old .readable :: stack, .key closable, root, false⟩ =
      ⟨.object level members key .readable :: stack, .colon, root, false⟩ := by
  rw [foldl_step_quote rfl]
  simp [step, StringText.next, StringText.ofChars, setKey, StringText.value]

/-! ## Words -/

/-- A word that is written where a value may come is its value. -/
theorem foldl_step_word (closable : Bool) {value : Json}
    (h : value = .null ∨ value = .bool true ∨ value = .bool false) :
    value.scalarText.foldl step ⟨stack, .value closable, root, false⟩ =
      State.deliver ⟨stack, .value closable, root, false⟩ value := by
  obtain rfl | rfl | rfl := h <;> cases stack <;> rfl

end State

/-! ## Numbers -/

/-- The literal of a natural number after its last digit. -/
def Literal.ofNat (n : Nat) : Literal :=
  ⟨false, if n = 0 then .zero else .whole, n, 0, false, false, false, 0⟩

/-- A decimal digit is read as it is written. -/
theorem digitValue_digitChar : ∀ d < 10, (Nat.digitChar d).isDigit = true ∧
    Literal.digitValue (Nat.digitChar d) = d := by
  decide

/-- One more digit of a number, as long as it has 64 bits. -/
theorem Literal.next_ofNat {n d : Nat} (hn : n ≠ 0) (hd : d < 10) (h : n * 10 + d < 2 ^ 64) :
    (Literal.ofNat n).next (Nat.digitChar d) = .continues (.ofNat (n * 10 + d)) := by
  obtain ⟨hdigit, hvalue⟩ := digitValue_digitChar d hd
  have hroom : (Literal.ofNat n).hasRoom (Nat.digitChar d) = true := by
    simp only [hasRoom, ofNat, hvalue, Bool.not_false, Bool.true_and, decide_eq_true_eq]
    exact h
  have hpart : (Literal.ofNat n).part = .whole := by
    simp [ofNat, hn]
  rw [next, hpart]
  simp only [hdigit, if_true, wholeDigit, hroom, hvalue]
  simp [ofNat, hn]

/-- A number ends before a character that is neither digit nor point nor exponent mark. -/
theorem Literal.next_ofNat_ends {n : Nat} (hdigit : c.isDigit = false)
    (hc : c ≠ '.' ∧ c ≠ 'e' ∧ c ≠ 'E') : (Literal.ofNat n).next c = .ends := by
  have hafter : (Literal.ofNat n).afterWhole c = .ends := by
    simp [afterWhole, hc]
  rw [next]
  by_cases hn : n = 0
  · have hpart : (Literal.ofNat n).part = .zero := by simp [ofNat, hn]
    simp only [hpart, hdigit, hafter, Bool.false_eq_true, if_false]
  · have hpart : (Literal.ofNat n).part = .whole := by simp [ofNat, hn]
    simp only [hpart, hdigit, hafter, Bool.false_eq_true, if_false]

namespace State

/-- The digits of a number of 64 bits are read as the number. The first digit is no zero if there
are others. -/
theorem foldl_step_toDigits (closable : Bool) (n : Nat) (h : n < 2 ^ 64) :
    (Nat.toDigits 10 n).foldl step ⟨stack, .value closable, root, false⟩ =
      ⟨stack, .literal (.ofNat n), root, false⟩ := by
  induction n using Nat.strongRecOn with
  | ind n ih =>
    by_cases hn : n < 10
    · rw [Nat.toDigits_of_lt_base hn]
      interval_cases n <;> rfl
    · have hhead : n / 10 ≠ 0 := by omega
      have hsum : n / 10 * 10 + n % 10 = n := by omega
      have hnext : (Literal.ofNat (n / 10)).next (Nat.digitChar (n % 10)) =
          .continues (.ofNat n) := by
        rw [Literal.next_ofNat hhead (by omega) (by omega), hsum]
      rw [Nat.toDigits_of_base_le (by omega) (by omega), List.foldl_append,
        ih (n / 10) (by omega) (by omega), List.foldl_cons, List.foldl_nil]
      simp only [step, hnext, Bool.false_eq_true, if_false]

/-! ## Complete values -/

/-- Whether a character may follow a value in a written text. -/
def endsValue (c : Char) : Bool := isSpace c || c == ',' || c == ']' || c == '\x7d'

/-- The reader `t` has read a value that it began as `s`. After a number it waits for the character
that ends it. -/
def Completes (s : State) (value : Json) (t : State) : Prop :=
  t = s.deliver value ∨ ∃ n : Nat, value = .natural n ∧ t = { s with mode := .literal (.ofNat n) }

/-- What a value does to the reader does not depend on how it has been begun. -/
theorem deliver_mode (s : State) (mode : Mode) (value : Json) :
    State.deliver { s with mode := mode } value = s.deliver value := by
  obtain ⟨stack, _, root, stopped⟩ := s
  cases stack <;> rfl

/-- With a value complete the reader stands behind it. -/
@[simp] theorem mode_deliver (s : State) (value : Json) : (s.deliver value).mode = .after := by
  obtain ⟨stack, _, root, stopped⟩ := s
  cases stack <;> rfl

/-- With a value complete the reader has met no new fault. -/
@[simp] theorem stopped_deliver (s : State) (value : Json) :
    (s.deliver value).stopped = s.stopped := by
  obtain ⟨stack, _, root, stopped⟩ := s
  cases stack <;> rfl

/-- The characters that may follow a value go on with no number. -/
theorem not_continues_of_endsValue (h : endsValue c = true) :
    c.isDigit = false ∧ c ≠ '.' ∧ c ≠ 'e' ∧ c ≠ 'E' := by
  simp only [endsValue, isSpace, Bool.or_eq_true, beq_iff_eq] at h
  obtain (((((rfl | rfl) | rfl) | rfl) | rfl) | rfl) | rfl := h <;> decide

/-- At the end of the text the value is complete. -/
theorem Completes.settle {value : Json} (h : Completes s value t) : t.settle = s.deliver value := by
  obtain rfl | ⟨n, rfl, rfl⟩ := h
  · rw [State.settle, mode_deliver]
  · have hcomplete : (Literal.ofNat n).complete = true := by
      by_cases hn : n = 0 <;> simp [Literal.complete, Literal.ofNat, hn]
    rw [State.settle]
    simp only [hcomplete, if_true, deliver_mode]
    rfl

/-- Before a character that ends it the value is complete. -/
theorem Completes.step {value : Json} (h : Completes s value t) (hs : s.stopped = false)
    (hc : endsValue c = true) : t.step c = (s.deliver value).step c := by
  obtain rfl | ⟨n, rfl, rfl⟩ := h
  · rfl
  · obtain ⟨hdigit, hother⟩ := not_continues_of_endsValue hc
    have hbetween := step_of_isBetween (s := s.deliver (.natural n)) (c := c) (by simp [hs])
      (by simp [Mode.isBetween])
    rw [hbetween, State.step, if_neg (by simp [hs])]
    simp only [Literal.next_ofNat_ends hdigit hother, deliver_mode]
    rfl

/-- What follows a value is read as if the value were complete before it. -/
theorem Completes.foldl {value : Json} (h : Completes s value t) (hs : s.stopped = false)
    (hc : endsValue c = true) (rest : List Char) :
    (c :: rest).foldl State.step t = (c :: rest).foldl State.step (s.deliver value) := by
  rw [List.foldl_cons, List.foldl_cons, h.step hs hc]

end State

end AccessorUpgrade.Json
