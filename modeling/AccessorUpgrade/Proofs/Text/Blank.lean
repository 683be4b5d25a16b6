import AccessorUpgrade.Text.Blank
import Mathlib.Data.List.TakeWhile

/-!
# Runs of characters

A scanner takes the longest run of characters with some property. Here such a run is cut off a text
that goes on with another character, and white space off the text it stands before.
-/

namespace AccessorUpgrade.Text

variable {p : Char → Bool}

/-- A run of characters with a property is taken whole from a text that goes on without it. -/
theorem takeWhile_run {run rest : List Char} (hrun : ∀ c ∈ run, p c = true)
    (hrest : ∀ c ∈ rest.head?, p c = false) : (run ++ rest).takeWhile p = run := by
  have hstop : rest.takeWhile p = [] := by
    cases rest with
    | nil => rfl
    | cons c tail => exact List.takeWhile_cons_of_neg (by simp [hrest c rfl])
  rw [List.takeWhile_append_of_pos hrun, hstop, List.append_nil]

/-- What is left of such a text is what goes on without the property. -/
theorem dropWhile_run {run rest : List Char} (hrun : ∀ c ∈ run, p c = true)
    (hrest : ∀ c ∈ rest.head?, p c = false) : (run ++ rest).dropWhile p = rest := by
  rw [List.dropWhile_append_of_pos hrun]
  cases rest with
  | nil => rfl
  | cons c tail => exact List.dropWhile_cons_of_neg (by simp [hrest c rfl])

/-- Two texts that start with runs of a property and go on without it have the same run and the same
rest. -/
theorem run_append_inj {run rest run' rest' : List Char} (hrun : ∀ c ∈ run, p c = true)
    (hrest : ∀ c ∈ rest.head?, p c = false) (hrun' : ∀ c ∈ run', p c = true)
    (hrest' : ∀ c ∈ rest'.head?, p c = false) (h : run ++ rest = run' ++ rest') :
    run = run' ∧ rest = rest' := by
  have htake : run = run' := by
    rw [← takeWhile_run hrun hrest, h, takeWhile_run hrun' hrest']
  rw [htake] at h
  exact ⟨htake, List.append_cancel_left h⟩

/-- What is dropped from the start of a text is white space. -/
theorem exists_blanks_append (s : List Char) :
    ∃ blanks : List Char, (∀ c ∈ blanks, isBlank c = true) ∧ s = blanks ++ trimLeft s :=
  ⟨s.takeWhile isBlank, fun _ hc => List.mem_takeWhile_imp hc,
    (List.takeWhile_append_dropWhile).symm⟩

/-- What is left after the white space at the start does not start with white space. -/
theorem not_isBlank_of_head_trimLeft (s : List Char) :
    ∀ c ∈ (trimLeft s).head?, isBlank c = false := by
  intro c hc
  have hnot := List.head?_dropWhile_not isBlank s
  rw [show (s.dropWhile isBlank).head? = some c from hc] at hnot
  exact hnot

/-- What is left after the white space at the start is an end of the text. -/
theorem suffix_of_trimLeft_eq {s left : List Char} (h : trimLeft s = left) : left <:+ s :=
  h ▸ List.dropWhile_suffix isBlank

/-- White space at the end of a text is dropped after its first character, if that is none. -/
theorem trimRight_cons {c : Char} (hc : isBlank c = false) (tail : List Char) :
    trimRight (c :: tail) = c :: trimRight tail := by
  rw [trimRight, trimRight, List.reverse_cons, List.dropWhile_append]
  split
  · next h => simp [List.isEmpty_iff.mp h, hc]
  · rw [List.reverse_append]
    rfl

/-- White space on both sides is dropped from a text that goes on with something else where the
white space at its start ends. -/
theorem trim_eq_cons {s tail : List Char} {c : Char} (h : trimLeft s = c :: tail) :
    trim s = c :: trimRight tail := by
  rw [trim, h, trimRight_cons (not_isBlank_of_head_trimLeft s c (by rw [h]; rfl))]

/-- A text that is nothing between its white space is nothing after the white space at its start. -/
theorem trim_eq_nil_iff (s : List Char) : trim s = [] ↔ trimLeft s = [] := by
  cases h : trimLeft s with
  | nil =>
    rw [trim, h]
    exact iff_of_true rfl rfl
  | cons c tail =>
    rw [trim_eq_cons h]
    exact iff_of_false (List.cons_ne_nil _ _) (List.cons_ne_nil _ _)

end AccessorUpgrade.Text
