import AccessorUpgrade.Text.Segments
import Mathlib.Data.List.Basic

/-!
# Segments of a text

A text is cut at every separator. Its last segment is what follows the last separator, or the whole
text if there is none (`lastSegment_cases`); so it says where the last separator stands
(`append_cons_inj`), and it is empty only if the text ends there (`lastSegment_eq_nil_iff`).
-/

namespace AccessorUpgrade.Text

variable {separator : Char} {s s' t t' : List Char}

/-- A text is cut at a separator as lists are split at an element. -/
theorem segments_eq_splitOn (separator : Char) (s : List Char) :
    segments separator s = s.splitOn separator := by
  induction s with
  | nil => rfl
  | cons c rest ih =>
    rw [segments, List.splitOn_cons_eq_if_modifyHead, ih]
    split
    · rfl
    · cases h : rest.splitOn separator with
      | nil => exact absurd h (List.splitOn_ne_nil _ _)
      | cons first others => rfl

/-- There is at least one segment. -/
theorem segments_ne_nil (separator : Char) (s : List Char) : segments separator s ≠ [] := by
  rw [segments_eq_splitOn]
  exact List.splitOn_ne_nil _ _

/-- Every character of a text is a separator or stands in a segment. -/
theorem mem_segments (separator : Char) {s : List Char} {c : Char} (hc : c ∈ s) :
    c = separator ∨ ∃ segment ∈ segments separator s, c ∈ segment := by
  induction s with
  | nil => simp at hc
  | cons head rest ih =>
    rw [segments]
    by_cases hsep : head = separator
    · rcases List.mem_cons.mp hc with rfl | hc
      · exact .inl hsep
      · obtain h | ⟨segment, hmem, hin⟩ := ih hc
        · exact .inl h
        · exact .inr ⟨segment, by simp [hsep, hmem], hin⟩
    · simp only [beq_iff_eq, hsep, if_false]
      -- The first segment of the rest, if there is one, gets the character in front.
      cases hsegs : segments separator rest with
      | nil =>
        rcases List.mem_cons.mp hc with rfl | hc
        · exact .inr ⟨[c], by simp, by simp⟩
        · exact .inl (by simpa [hsegs] using ih hc)
      | cons first others =>
        rcases List.mem_cons.mp hc with rfl | hc
        · exact .inr ⟨c :: first, by simp, by simp⟩
        · obtain h | ⟨segment, hmem, hin⟩ := ih hc
          · exact .inl h
          · rw [hsegs] at hmem
            rcases List.mem_cons.mp hmem with rfl | hmem
            · exact .inr ⟨head :: segment, by simp, by simp [hin]⟩
            · exact .inr ⟨segment, by simp [hmem], hin⟩

/-- No segment has a separator. -/
theorem separator_not_mem_segment (separator : Char) (s : List Char) :
    ∀ segment ∈ segments separator s, separator ∉ segment := by
  induction s with
  | nil => simp [segments]
  | cons c rest ih =>
    rw [segments]
    split
    · exact List.forall_mem_cons.mpr ⟨List.not_mem_nil, ih⟩
    · next hc =>
      -- The character stands before the first segment of the rest.
      obtain ⟨first, others, hsegments⟩ := List.exists_cons_of_ne_nil (segments_ne_nil separator rest)
      rw [hsegments] at ih ⊢
      obtain ⟨hfirst, hothers⟩ := List.forall_mem_cons.mp ih
      refine List.forall_mem_cons.mpr ⟨fun hmem => ?_, hothers⟩
      obtain heq | hmem := List.mem_cons.mp hmem
      · exact hc (beq_iff_eq.mpr heq.symm)
      · exact hfirst hmem

/-- A text without a separator is its only segment. -/
theorem segments_of_not_mem (h : separator ∉ s) : segments separator s = [s] := by
  induction s with
  | nil => rfl
  | cons c rest ih =>
    obtain ⟨hc, hrest⟩ := List.ne_and_not_mem_of_not_mem_cons h
    rw [segments, if_neg (by simpa using Ne.symm hc), ih hrest]

/-- The segments on both sides of a separator are cut apart from each other. -/
theorem segments_append (separator : Char) (s t : List Char) :
    segments separator (s ++ separator :: t) = segments separator s ++ segments separator t := by
  induction s with
  | nil => simp [segments]
  | cons c rest ih =>
    rw [List.cons_append, segments, segments, ih]
    split
    · rfl
    · obtain ⟨first, others, h⟩ := List.exists_cons_of_ne_nil (segments_ne_nil separator rest)
      rw [h]
      rfl

/-! ## The last segment -/

/-- The last segment is one of the segments. -/
theorem lastSegment_mem_segments (separator : Char) (s : List Char) :
    lastSegment separator s ∈ segments separator s := by
  rw [lastSegment, List.getLastD_eq_getLast?,
    List.getLast?_eq_some_getLast (segments_ne_nil separator s)]
  exact List.getLast_mem _

/-- A text without a separator is its last segment. -/
theorem lastSegment_of_not_mem (h : separator ∉ s) : lastSegment separator s = s := by
  rw [lastSegment, segments_of_not_mem h]
  rfl

/-- What follows a separator is the last segment, if no other separator follows. -/
theorem lastSegment_append (s : List Char) (h : separator ∉ t) :
    lastSegment separator (s ++ separator :: t) = t := by
  rw [lastSegment, segments_append, segments_of_not_mem h, List.getLastD_concat]

/-- The last segment has no separator, and it is the whole text or follows a separator. -/
theorem lastSegment_cases (separator : Char) (s : List Char) :
    separator ∉ lastSegment separator s ∧
      (lastSegment separator s = s ∨
        ∃ before, s = before ++ separator :: lastSegment separator s) := by
  by_cases h : separator ∈ s
  · -- The last separator is the first one from the other end.
    obtain ⟨after, before, hs, hafter⟩ := List.eq_append_cons_of_mem (List.mem_reverse.mpr h)
    have hs : s = before.reverse ++ separator :: after.reverse := by
      rw [← List.reverse_reverse s, hs]
      simp
    have hafter : separator ∉ after.reverse := by simpa using hafter
    rw [hs, lastSegment_append _ hafter]
    exact ⟨hafter, .inr ⟨_, rfl⟩⟩
  · rw [lastSegment_of_not_mem h]
    exact ⟨h, .inl rfl⟩

/-- Characters of the last segment are characters of the text. -/
theorem mem_of_mem_lastSegment {c : Char} (h : c ∈ lastSegment separator s) : c ∈ s := by
  obtain ⟨-, heq | ⟨before, hs⟩⟩ := lastSegment_cases separator s
  · rwa [heq] at h
  · rw [hs]
    exact List.mem_append_right _ (List.mem_cons_of_mem _ h)

/-- The last separator of a text is in one place. -/
theorem append_cons_inj (ht : separator ∉ t) (ht' : separator ∉ t')
    (h : s ++ separator :: t = s' ++ separator :: t') : s = s' ∧ t = t' := by
  have hlast : t = t' := by
    rw [← lastSegment_append s ht, h, lastSegment_append s' ht']
  rw [hlast] at h
  exact ⟨List.append_cancel_right h, hlast⟩

/-- A text ends with its last segment. -/
theorem getLast?_lastSegment (h : lastSegment separator s ≠ []) :
    (lastSegment separator s).getLast? = s.getLast? := by
  obtain ⟨-, heq | ⟨before, hs⟩⟩ := lastSegment_cases separator s
  · rw [heq]
  · rw [← List.singleton_append, ← List.append_assoc] at hs
    rw [hs, List.getLast?_append_of_ne_nil _ h, ← hs]

/-- The last segment of a text is empty when the text ends with a separator. -/
theorem lastSegment_eq_nil_iff (hs : s ≠ []) :
    lastSegment separator s = [] ↔ s.getLast? = some separator := by
  constructor
  · intro hnil
    obtain ⟨-, heq | ⟨before, hcut⟩⟩ := lastSegment_cases separator s
    · exact absurd (heq.symm.trans hnil) hs
    · rw [hcut, hnil, List.getLast?_concat]
  · intro hend
    obtain ⟨before, rfl⟩ := List.getLast?_eq_some_iff.mp hend
    exact lastSegment_append before List.not_mem_nil

end AccessorUpgrade.Text
