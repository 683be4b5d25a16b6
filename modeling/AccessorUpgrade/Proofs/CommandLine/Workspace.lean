import AccessorUpgrade.CommandLine.Workspace
import AccessorUpgrade.Proofs.Results
import Mathlib.Data.List.Basic

/-!
# What is written to a file is read back

A write takes a path to a place, puts a text there, and changes nothing else. Reading follows the
same path again, in the workspace as it is after the write. Names lead to the same place as before,
and only the place of the write now holds the text (`Puts.follow`); so the text that is read is the
one that has been written (`read_of_write`).

A file that is made brings no directory with it. That is why the places that names lead to are kept
together with the directories above them (`Place.Reached`).
-/

namespace AccessorUpgrade.CommandLine.Workspace

variable {w w' : Workspace} {place path : List String} {text name : String} {source next : Place}

/-! ## Places -/

namespace Place

/-- The path of a file that is there or can be made. -/
def ofFile? : Place → Option (List String)
  | file path _ => some path
  | vacant path => some path
  | outside => none
  | directory _ => none

/-- A place after a text has been put at a path. -/
def put (path : List String) (text : String) (place : Place) : Place :=
  if place.ofFile? = some path then file path text else place

/-- A place without a file stays as it is. -/
theorem put_of_ofFile?_eq_none (h : next.ofFile? = none) : next.put place text = next := by
  simp [put, h]

/-- What the names that have led to a place say of the workspace: the directories on the way are
there, and at the place is what they say there is. -/
def Reached (w : Workspace) : Place → Prop
  | outside => True
  | directory path => ∀ above, above ≠ [] → above <+: path → w.hasDirectory above = true
  | file path text => w.inDirectory path = file path text
  | vacant path => w.inDirectory path = vacant path ∧
      ∀ above, above ≠ [] → above <+: path → above ≠ path → w.hasDirectory above = true

end Place

/-! ## Names -/

/-- A name that leads on from a place either does so without a look at the workspace, and not to a
file, or is looked up in a directory. -/
theorem cases_of_enter (h : w.enter source name = .ok next) :
    (source.ofFile? = none ∧ next.ofFile? = none ∧ (source.Reached w → next.Reached w) ∧
      ∀ w' : Workspace, w'.enter source name = .ok next) ∨
    ∃ path, source = .directory path ∧ name ≠ "." ∧ name ≠ ".." ∧
      next = w.inDirectory (path ++ [name]) ∧
      ∀ w' : Workspace, w'.enter source name = .ok (w'.inDirectory (path ++ [name])) := by
  -- Outside, only dots lead on; in a directory, all other names are looked up.
  cases source with
  | outside =>
    by_cases hdots : name = "." ∨ name = ".."
    · obtain rfl : .outside = next := by simpa [enter, hdots] using h
      exact .inl ⟨rfl, rfl, id, fun w' => by simp [enter, hdots]⟩
    · simp only [enter, Bool.or_eq_true, beq_iff_eq, hdots, if_false] at h
      split at h <;> cases h
  | directory path =>
    by_cases hdot : name = "."
    · obtain rfl : .directory path = next := by simpa [enter, hdot] using h
      exact .inl ⟨rfl, rfl, id, fun w' => by simp [enter, hdot]⟩
    by_cases hdots : name = ".."
    · cases hpath : path.isEmpty with
      | true =>
        obtain rfl : .outside = next := by simpa [enter, hdots, hpath] using h
        exact .inl ⟨rfl, rfl, fun _ => trivial, fun w' => by simp [enter, hdots, hpath]⟩
      | false =>
        obtain rfl : .directory path.dropLast = next := by simpa [enter, hdots, hpath] using h
        exact .inl ⟨rfl, rfl,
          fun hreached above hne habove =>
            hreached above hne (habove.trans (List.dropLast_prefix path)),
          fun w' => by simp [enter, hdots, hpath]⟩
    by_cases hlength : nameLimit < name.utf8ByteSize
    · simp [enter, hdot, hdots, hlength] at h
    · obtain rfl : w.inDirectory (path ++ [name]) = next := by
        simpa [enter, hdot, hdots, hlength] using h
      exact .inr ⟨path, rfl, hdot, hdots, rfl, fun w' => by simp [enter, hdot, hdots, hlength]⟩
  | file path text => cases h
  | vacant path => cases h

/-- A dot, and two of them, do not lead to a file. -/
theorem ofFile?_of_enter_dots (hname : name = "." ∨ name = "..")
    (h : w.enter source name = .ok next) : next.ofFile? = none := by
  obtain ⟨-, hnext, -⟩ | ⟨path, -, hdot, hdots, -⟩ := cases_of_enter h
  · exact hnext
  · exact absurd hname (not_or.mpr ⟨hdot, hdots⟩)

/-- What is found at a name in a directory that has been reached, is reached. -/
theorem reached_inDirectory (hpath : (Place.directory path).Reached w) (name : String) :
    (w.inDirectory (path ++ [name])).Reached w := by
  have habove : ∀ above, above ≠ [] → above <+: path ++ [name] → above ≠ path ++ [name] →
      w.hasDirectory above = true := by
    intro above hne hbelow hproper
    exact hpath above hne ((List.prefix_concat_iff.mp hbelow).resolve_left hproper)
  cases hfile : w.files.find? (·.1 == path ++ [name]) with
  | some entry => simp [inDirectory, hfile, Place.Reached]
  | none =>
    cases hdirectory : w.hasDirectory (path ++ [name]) with
    | true =>
      -- The directory itself is new among those that have to be there.
      simp only [inDirectory, hfile, hdirectory, if_true, Place.Reached]
      intro above hne hbelow
      by_cases hproper : above = path ++ [name]
      · rw [hproper, hdirectory]
      · exact habove above hne hbelow hproper
    | false => simpa [inDirectory, hfile, hdirectory, Place.Reached] using habove

/-- One name leads on from a place that is reached to such a place. -/
theorem reached_of_enter (hsource : source.Reached w) (h : w.enter source name = .ok next) :
    next.Reached w := by
  obtain ⟨-, -, hreached, -⟩ | ⟨path, rfl, -, -, rfl, -⟩ := cases_of_enter h
  · exact hreached hsource
  · exact reached_inDirectory hsource name

/-- Names lead on from a place that is reached to such a place. -/
theorem reached_of_foldlM {names : List String} (hsource : source.Reached w)
    (h : names.foldlM w.enter source = .ok next) : next.Reached w := by
  induction names generalizing source with
  | nil => cases h; exact hsource
  | cons name names ih =>
    rw [List.foldlM_cons] at h
    obtain ⟨middle, hmiddle, h⟩ := exists_of_bind h
    exact ih (reached_of_enter hsource hmiddle) h

/-- The place that names lead to is reached. -/
theorem reached_of_follow {isAbsolute : Bool} {names : List String}
    (h : w.follow isAbsolute names = .ok next) : next.Reached w := by
  cases isAbsolute with
  | true =>
    have hstart : Place.outside.Reached w := trivial
    exact reached_of_foldlM hstart h
  | false =>
    have hstart : (Place.directory []).Reached w := fun above hne habove =>
      absurd (List.prefix_nil.mp habove) hne
    exact reached_of_foldlM hstart h

/-- The last name leads on from a place that the others lead to. -/
theorem exists_of_follow_concat {isAbsolute : Bool} {names : List String}
    (h : w.follow isAbsolute (names ++ [name]) = .ok next) :
    ∃ source, w.follow isAbsolute names = .ok source ∧ w.enter source name = .ok next := by
  rw [follow, List.foldlM_append] at h
  obtain ⟨source, hsource, h⟩ := exists_of_bind h
  rw [List.foldlM_cons] at h
  obtain ⟨last, hlast, h⟩ := exists_of_bind h
  cases h
  exact ⟨source, hsource, hlast⟩

/-! ## Writing -/

/-- The second workspace is the first with a text put at a path, as far as names in a directory can
tell. -/
def Puts (w w' : Workspace) (place : List String) (text : String) : Prop :=
  ∀ path, path ≠ [] → w'.inDirectory path = (w.inDirectory path).put place text

/-- A name leads to the place that it has led to before, with the text in it. -/
theorem Puts.enter (h : Puts w w' place text) (hnext : w.enter source name = .ok next) :
    w'.enter (source.put place text) name = .ok (next.put place text) := by
  obtain ⟨hsource, hfile, -, hany⟩ | ⟨path, rfl, -, -, rfl, hany⟩ := cases_of_enter hnext
  · rw [Place.put_of_ofFile?_eq_none hsource, Place.put_of_ofFile?_eq_none hfile, hany]
  · rw [Place.put_of_ofFile?_eq_none rfl, hany, h _ (List.concat_ne_nil name path)]

/-- Names lead on to the place that they have led to before, with the text in it. -/
theorem Puts.foldlM (h : Puts w w' place text) (source : Place) {names : List String}
    (hnext : names.foldlM w.enter source = .ok next) :
    names.foldlM w'.enter (source.put place text) = .ok (next.put place text) := by
  induction names generalizing source with
  | nil => cases hnext; rfl
  | cons name names ih =>
    rw [List.foldlM_cons] at hnext
    obtain ⟨middle, hmiddle, hnext⟩ := exists_of_bind hnext
    rw [List.foldlM_cons, h.enter hmiddle]
    exact ih middle hnext

/-- Names lead to the place that they have led to before, with the text in it. -/
theorem Puts.follow (h : Puts w w' place text) {isAbsolute : Bool} {names : List String}
    (hnext : w.follow isAbsolute names = .ok next) :
    w'.follow isAbsolute names = .ok (next.put place text) := by
  cases isAbsolute with
  | true => exact h.foldlM .outside hnext
  | false => exact h.foldlM (.directory []) hnext

/-- What stands in the list of files, stands at its path. -/
theorem inDirectory_of_find? {entry : List String × String}
    (h : w.files.find? (·.1 == path) = some entry) : w.inDirectory path = .file path entry.2 := by
  rw [inDirectory, h]

/-- What does not stand in the list of files, is no file. -/
theorem inDirectory_of_find?_eq_none (h : w.files.find? (·.1 == path) = none) :
    w.inDirectory path = if w.hasDirectory path then .directory path else .vacant path := by
  rw [inDirectory, h]

/-- To change a file is to put a text there. -/
theorem puts_of_file {old : String} (h : w.inDirectory place = .file place old)
    (hfiles : w'.files = w.files.map fun (other, old) =>
      (other, if other == place then text else old)) : Puts w w' place text := by
  intro path _
  have hfind : w'.files.find? (·.1 == path) = (w.files.find? (·.1 == path)).map fun (other, old) =>
      (other, if other == place then text else old) := by
    rw [hfiles, List.find?_map]
    rfl
  have hdirectory : w'.hasDirectory path = w.hasDirectory path := by
    rw [hasDirectory, hfiles, List.any_map]
    rfl
  cases hfile : w.files.find? (·.1 == path) with
  | some entry =>
    obtain rfl : entry.1 = path := by simpa using List.find?_some hfile
    rw [hfile] at hfind
    rw [inDirectory_of_find? hfile, inDirectory_of_find? hfind]
    by_cases hplace : entry.1 = place <;> simp [Place.put, Place.ofFile?, hplace]
  | none =>
    rw [hfile] at hfind
    -- What is changed is a file, so a path without one is another.
    have hplace : path ≠ place := by
      rintro rfl
      rw [inDirectory_of_find?_eq_none hfile] at h
      split at h <;> cases h
    rw [inDirectory_of_find?_eq_none hfile, inDirectory_of_find?_eq_none hfind, hdirectory]
    split <;> simp [Place.put, Place.ofFile?, hplace]

/-- To make a file is to put a text there. -/
theorem puts_of_vacant (h : (Place.vacant place).Reached w)
    (hfiles : w'.files = w.files ++ [(place, text)]) : Puts w w' place text := by
  intro path hne
  obtain ⟨hvacant, habove⟩ := h
  cases hfile : w.files.find? (·.1 == path) with
  | some entry =>
    have hplace : path ≠ place := by
      rintro rfl
      cases hvacant.symm.trans (inDirectory_of_find? hfile)
    have hfind : w'.files.find? (·.1 == path) = some entry := by simp [hfiles, hfile]
    rw [inDirectory_of_find? hfile, inDirectory_of_find? hfind]
    simp [Place.put, Place.ofFile?, hplace]
  | none =>
    by_cases hplace : path = place
    · subst hplace
      have hfind : w'.files.find? (·.1 == path) = some (path, text) := by simp [hfiles, hfile]
      rw [hvacant, inDirectory_of_find? hfind]
      simp [Place.put, Place.ofFile?]
    · have hfind : w'.files.find? (·.1 == path) = none := by
        simp [hfiles, hfile, Ne.symm hplace]
      -- The directories above the new file were there before.
      have hdirectory : w'.hasDirectory path = w.hasDirectory path := by
        rw [hasDirectory, hfiles, List.any_append, ← hasDirectory]
        by_cases hbelow : path <+: place
        · simp [habove path hne hbelow hplace]
        · simp [hbelow]
      rw [inDirectory_of_find?_eq_none hfile, inDirectory_of_find?_eq_none hfind, hdirectory]
      split <;> simp [Place.put, Place.ofFile?, hplace]

/-- A path that a file is written to leads to the place of the file for reading too. -/
theorem follow_of_target {at_ : String} (h : w.target at_ = .ok next)
    (hfile : next.ofFile? = some place) :
    pathFault? at_ = none ∧ Path.endsWithSlash at_ = false ∧
      w.follow (Path.isAbsolute at_) (Path.names at_) = .ok next := by
  rw [target] at h
  cases hfault : pathFault? at_ with
  | some e => simp [hfault] at h
  | none =>
    cases hlast : (Path.names at_).getLast? with
    | none => simp [hfault, hlast] at h
    | some last =>
      simp only [hfault, hlast] at h
      split at h
      · split at h <;> cases h
      · next hslash =>
        refine ⟨rfl, ?_, h⟩
        -- After dots a slash is let through, but dots do not lead to a file.
        by_contra hends
        have hdots : last = "." ∨ last = ".." := by
          by_contra hdots
          simp_all
        rw [← List.dropLast_append_getLast? last hlast] at h
        obtain ⟨source, -, hsource⟩ := exists_of_follow_concat h
        rw [ofFile?_of_enter_dots hdots hsource] at hfile
        cases hfile

/-- A text is written to the place that a path leads to, and nothing changes but the files. -/
theorem puts_of_write {at_ : String} (h : w.write at_ text = .ok w') :
    (∃ next place, w.target at_ = .ok next ∧ next.ofFile? = some place ∧ Puts w w' place text) ∧
      w' = { w with files := w'.files } := by
  rw [write] at h
  cases htarget : w.target at_ with
  | error e => simp [htarget] at h
  | ok next =>
    have hreached {place : List String} (hfile : next.ofFile? = some place) : next.Reached w :=
      reached_of_follow (follow_of_target htarget hfile).2.2
    rw [htarget] at h
    cases next with
    | outside => cases h
    | directory path => cases h
    | file place old =>
      cases h
      exact ⟨⟨_, place, rfl, rfl, puts_of_file (hreached rfl) rfl⟩, rfl⟩
    | vacant place =>
      cases h
      exact ⟨⟨_, place, rfl, rfl, puts_of_vacant (hreached rfl) rfl⟩, rfl⟩

/-- What has been written to a file is read from it. -/
theorem read_of_write {at_ : String} (h : w.write at_ text = .ok w') : w'.read at_ = .ok text := by
  obtain ⟨⟨next, place, htarget, hfile, hputs⟩, -⟩ := puts_of_write h
  obtain ⟨hfault, hslash, hfollow⟩ := follow_of_target htarget hfile
  have hread : w'.follow (Path.isAbsolute at_) (Path.names at_) = .ok (.file place text) := by
    rw [hputs.follow hfollow, Place.put, if_pos hfile]
  simp [read, locate, hfault, hread, hslash]

end AccessorUpgrade.CommandLine.Workspace
