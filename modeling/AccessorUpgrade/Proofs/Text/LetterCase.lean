import AccessorUpgrade.Text.LetterCase

/-!
# Lower case and back

What becomes of an upper-case letter that is set in lower case and then in upper case again. Most
letters return (`toLower_of_isUppercase`). Those that do not, `ẞ` apart, become another letter that
has the same lower case (`recases_of_isUppercase`). A hyphen is not the upper case of anything else
(`eq_hyphen_of_mem_toUpper`).

The mappings are tables of some hundred runs, and they are compared run by run: every test here
takes whole runs, and its soundness lemma says what it means for their members. The tables are
looked through as a whole in three lemmas that are closed by evaluation, and nowhere else.
-/

namespace AccessorUpgrade.Text

/-! ## Runs -/

namespace CodeRun

variable {s r : CodeRun} {n : Nat}

/-- Membership in a run. -/
theorem has_iff : s.has n = true ↔ s.first ≤ n ∧ n ≤ s.last ∧ s.step ∣ n - s.first := by
  simp [has, Nat.dvd_iff_mod_eq_zero, and_assoc]

/-- Whether all members of the run are even, or all are odd. -/
def hasParity (s : CodeRun) : Bool := Nat.beq (s.step % 2) 0 || Nat.beq s.first s.last

/-- Whether two runs are known to have no member in common: one ends before the other starts, or
their members differ in parity. -/
def apart (s r : CodeRun) : Bool :=
  Nat.blt s.last r.first || Nat.blt r.last s.first ||
    (s.hasParity && r.hasParity && Nat.beq ((s.first + r.first) % 2) 1)

/-- Whether all members of the run are known to be members of the other. -/
def within (s r : CodeRun) : Bool :=
  r.has s.first && Nat.ble s.last r.last &&
    (Nat.beq s.first s.last || Nat.beq (s.step % r.step) 0)

/-- The run that is `offset` above. -/
def shift (s : CodeRun) (offset : Int) : CodeRun :=
  ⟨(s.first + offset).toNat, (s.last + offset).toNat, s.step⟩

/-- The run without its first member. -/
def later (s : CodeRun) : CodeRun := ⟨s.first + s.step, s.last, s.step⟩

/-- Whether the run is outside of the code points that are no characters. -/
def isValid (s : CodeRun) : Bool :=
  Nat.blt s.last 0xd800 || (Nat.blt 0xdfff s.first && Nat.blt s.last 0x110000)

/-- The members of a run with a parity have the parity of the first. -/
theorem mod_two_eq (hp : s.hasParity = true) (h : s.has n = true) : n % 2 = s.first % 2 := by
  obtain ⟨hfirst, hlast, hstep⟩ := has_iff.mp h
  simp only [hasParity, Bool.or_eq_true, Nat.beq_eq] at hp
  rcases hp with hp | hp
  · have htwo : 2 ∣ n - s.first := Nat.dvd_trans (Nat.dvd_of_mod_eq_zero hp) hstep
    omega
  · omega

/-- Runs that are known to be apart have no member in common. -/
theorem not_has_of_apart (h : s.apart r = true) (hs : s.has n = true) : r.has n = false := by
  rw [Bool.eq_false_iff]
  intro hr
  obtain ⟨hsfirst, hslast, -⟩ := has_iff.mp hs
  obtain ⟨hrfirst, hrlast, -⟩ := has_iff.mp hr
  simp only [apart, Bool.or_eq_true, Bool.and_eq_true, Nat.blt_eq, Nat.beq_eq] at h
  rcases h with (h | h) | ⟨⟨hps, hpr⟩, hsum⟩
  · omega
  · omega
  · have hns := mod_two_eq hps hs
    have hnr := mod_two_eq hpr hr
    omega

/-- Members of a run are members of every run it is within. -/
theorem has_of_within (h : s.within r = true) (hs : s.has n = true) : r.has n = true := by
  obtain ⟨hsfirst, hslast, hsstep⟩ := has_iff.mp hs
  simp only [within, Bool.and_eq_true, Bool.or_eq_true, Nat.ble_eq, Nat.beq_eq] at h
  obtain ⟨⟨hfirst, hlast⟩, hstep⟩ := h
  obtain ⟨hrfirst, -, hrstep⟩ := has_iff.mp hfirst
  refine has_iff.mpr ⟨by omega, by omega, ?_⟩
  rcases hstep with hstep | hstep
  · obtain rfl : n = s.first := by omega
    exact hrstep
  -- Two distances that are multiples of the step of `r` add up to the third.
  · have hsum : n - r.first = (n - s.first) + (s.first - r.first) := by omega
    rw [hsum]
    exact Nat.dvd_add (Nat.dvd_trans (Nat.dvd_of_mod_eq_zero hstep) hsstep) hrstep

/-- A run that is shifted has its members shifted. -/
theorem shift_has {offset : Int} (h0 : 0 ≤ s.first + offset) (hs : s.has n = true) :
    (s.shift offset).has (n + offset).toNat = true := by
  obtain ⟨hfirst, hlast, hstep⟩ := has_iff.mp hs
  refine has_iff.mpr ⟨by simp only [shift]; omega, by simp only [shift]; omega, ?_⟩
  have hsub : (n + offset).toNat - (s.first + offset).toNat = n - s.first := by omega
  simp only [shift, hsub]
  exact hstep

/-- A member of a run other than the first is one of those after it. -/
theorem later_has (hs : s.has n = true) (hn : n ≠ s.first) : s.later.has n = true := by
  obtain ⟨hfirst, hlast, hstep⟩ := has_iff.mp hs
  have hle : s.step ≤ n - s.first := Nat.le_of_dvd (by omega) hstep
  refine has_iff.mpr ⟨by simp only [later]; omega, hlast, ?_⟩
  have hsub : n - (s.first + s.step) = n - s.first - s.step := by omega
  simp only [later, hsub]
  exact Nat.dvd_sub hstep (Nat.dvd_refl _)

/-- A member of a valid run is the code point of its character. -/
theorem toNat_ofNat (hv : s.isValid = true) (hs : s.has n = true) : (Char.ofNat n).toNat = n := by
  obtain ⟨hfirst, hlast, -⟩ := has_iff.mp hs
  simp only [isValid, Bool.or_eq_true, Bool.and_eq_true, Nat.blt_eq] at hv
  have hchar : n.isValidChar := by
    rcases hv with hv | ⟨hlow, hhigh⟩
    · exact .inl (by omega)
    · exact .inr ⟨by omega, by omega⟩
  rw [Char.ofNat, dif_pos hchar]
  rfl

end CodeRun

/-! ## Mappings -/

namespace CaseMapping

variable {mapping : CaseMapping} {s : CodeRun} {c : Char}

/-- Whether no member of the run maps to several characters. -/
def expandsNone (mapping : CaseMapping) (s : CodeRun) : Bool :=
  mapping.expansions.all fun e => s.apart ⟨e.1, e.1, 1⟩

/-- Whether all members of the run are known to stay as they are. -/
def leaves (mapping : CaseMapping) (s : CodeRun) : Bool :=
  mapping.expandsNone s && mapping.runs.all (s.apart ·.toCodeRun)

/-- Whether all members of the run are known to be mapped to the code points `offset` above. -/
def shifts (mapping : CaseMapping) (s : CodeRun) (offset : Int) : Bool :=
  mapping.expandsNone s &&
    match mapping.runs.find? (!s.apart ·.toCodeRun) with
    | some r => s.within r.toCodeRun && r.offset == offset
    | none => false

/-- The members of a run that is not expanded have no expansion. -/
theorem find?_expansions (h : mapping.expandsNone s = true) (hs : s.has c.toNat = true) :
    mapping.expansions.find? (·.1 == c.toNat) = none := by
  rw [List.find?_eq_none]
  intro e he heq
  have hapart := CodeRun.not_has_of_apart (List.all_eq_true.mp h e he) hs
  rw [← eq_of_beq heq] at hapart
  simp [CodeRun.has] at hapart

/-- The members of a run that is left alone stay as they are. -/
theorem apply_of_leaves (h : mapping.leaves s = true) (hs : s.has c.toNat = true) :
    mapping.apply c = [c] := by
  obtain ⟨hexpands, hruns⟩ := Bool.and_eq_true_iff.mp h
  have hnone : mapping.runs.find? (·.has c.toNat) = none := by
    rw [List.find?_eq_none]
    intro r hr hhas
    rw [CodeRun.not_has_of_apart (List.all_eq_true.mp hruns r hr) hs] at hhas
    contradiction
  rw [apply, find?_expansions hexpands hs, hnone]

/-- The members of a run that is shifted are mapped to the code points `offset` above. -/
theorem apply_of_shifts {offset : Int} (h : mapping.shifts s offset = true)
    (hs : s.has c.toNat = true) : mapping.apply c = [Char.ofNat (c.toNat + offset).toNat] := by
  obtain ⟨hexpands, hfind⟩ := Bool.and_eq_true_iff.mp h
  split at hfind
  · next r hr =>
    obtain ⟨hwithin, hoffset⟩ := Bool.and_eq_true_iff.mp hfind
    -- The first run that is not apart is the first that has the character.
    obtain ⟨-, before, after, hruns, hbefore⟩ := List.find?_eq_some_iff_append.mp hr
    have hsome : mapping.runs.find? (·.has c.toNat) = some r := by
      rw [List.find?_eq_some_iff_append]
      refine ⟨CodeRun.has_of_within hwithin hs, before, after, hruns, fun b hb => ?_⟩
      have hapart : s.apart b.toCodeRun = true := by simpa using hbefore b hb
      rw [CodeRun.not_has_of_apart hapart hs, Bool.not_false]
    rw [apply, find?_expansions hexpands hs, hsome, ← eq_of_beq hoffset]
  · contradiction

/-- A mapping gives at least one character if each of its expansions does. -/
theorem apply_ne_nil (h : ∀ e ∈ mapping.expansions, e.2 ≠ []) (c : Char) :
    mapping.apply c ≠ [] := by
  unfold apply
  split
  next code codes hfound =>
    exact fun hnil => h _ (List.mem_of_find?_eq_some hfound) (List.map_eq_nil_iff.mp hnil)
  next => split <;> exact List.cons_ne_nil _ _

/-- Whether nothing is known to be mapped to some character, unless that character stays. -/
def avoids (mapping : CaseMapping) (d : Char) : Bool :=
  mapping.expansions.all (fun e => !(e.2.map Char.ofNat).contains d) &&
    mapping.runs.all fun r => decide (0 ≤ r.first + r.offset) && (r.shift r.offset).isValid &&
      !(r.shift r.offset).has d.toNat

/-- A character that is avoided can only come from itself. -/
theorem eq_of_mem_apply {d : Char} (h : mapping.avoids d = true) (hd : d ∈ mapping.apply c) :
    c = d := by
  obtain ⟨hexpansions, hruns⟩ := Bool.and_eq_true_iff.mp h
  unfold apply at hd
  split at hd
  · next code codes hfound =>
    have hcodes := List.all_eq_true.mp hexpansions _ (List.mem_of_find?_eq_some hfound)
    rw [List.contains_iff_mem.mpr hd] at hcodes
    contradiction
  · split at hd
    · next r hr =>
      have hrun := List.all_eq_true.mp hruns r (List.mem_of_find?_eq_some hr)
      simp only [Bool.and_eq_true, decide_eq_true_eq, Bool.not_eq_true'] at hrun
      obtain ⟨⟨h0, hvalid⟩, hnot⟩ := hrun
      have hc := List.find?_some hr
      have hshifted := CodeRun.shift_has h0 hc
      rw [List.mem_singleton.mp hd, CodeRun.toNat_ofNat hvalid hshifted, hshifted] at hnot
      contradiction
    · exact (List.mem_singleton.mp hd).symm

end CaseMapping

/-- The lower case of a character is not empty. -/
theorem toLower_ne_nil (c : Char) : toLower c ≠ [] :=
  CaseMapping.apply_ne_nil (by decide) c

/-- The upper case of a character is not empty. -/
theorem toUpper_ne_nil (c : Char) : toUpper c ≠ [] :=
  CaseMapping.apply_ne_nil (by decide) c

/-- No mapping to upper case gives a hyphen. -/
theorem upperMapping_avoids_hyphen : upperMapping.avoids '-' = true := by
  decide +kernel

/-- Only a hyphen has a hyphen in its upper case. -/
theorem eq_hyphen_of_mem_toUpper {c : Char} (h : '-' ∈ toUpper c) : c = '-' :=
  CaseMapping.eq_of_mem_apply upperMapping_avoids_hyphen h

/-! ## Upper-case letters -/

/-- The upper-case letters whose lower case belongs to another letter: the capital theta symbol,
`ẞ`, and the signs for ohm, kelvin and angstrom. -/
def borrowing : List Nat := [0x3f4, 0x1e9e, 0x2126, 0x212a, 0x212b]

/-- Whether the members of a run are known to return when they are shifted and then set in upper
case. -/
def returns (s : CodeRun) (offset : Int) : Bool :=
  decide (0 ≤ s.first + offset) && (s.shift offset).isValid &&
    upperMapping.shifts (s.shift offset) (-offset)

/-- Whether the upper-case letters of a run of lower-case mappings are known to return, apart from
those that borrow a lower case. Some runs start with a letter in title case. -/
def settled (r : CaseRun) : Bool :=
  returns r.toCodeRun r.offset || uppercase.all r.toCodeRun.apart ||
    ((!uppercase.has r.first || borrowing.contains r.first) &&
      (r.first == r.last || returns r.toCodeRun.later r.offset))

/-- Upper-case letters are their own upper case. -/
theorem upperMapping_leaves : uppercase.all upperMapping.leaves = true := by
  decide +kernel

/-- All runs of lower-case mappings are settled. -/
theorem lowerMapping_settled : lowerMapping.runs.all settled = true := by
  decide +kernel

/-- The members of a run that returns have one lower case, and return from it. -/
theorem toUpper_of_returns {s : CodeRun} {offset : Int} {c : Char} (h : returns s offset = true)
    (hs : s.has c.toNat = true) : toUpper (Char.ofNat (c.toNat + offset).toNat) = [c] := by
  simp only [returns, Bool.and_eq_true, decide_eq_true_eq] at h
  obtain ⟨⟨h0, hvalid⟩, hshifts⟩ := h
  have hshifted := CodeRun.shift_has h0 hs
  have hcode := CodeRun.toNat_ofNat hvalid hshifted
  obtain ⟨hfirst, -, -⟩ := CodeRun.has_iff.mp hs
  -- The code point of the lower case is the sum only because it is the code point of a character.
  rw [toUpper, CaseMapping.apply_of_shifts hshifts (by rwa [hcode]), hcode]
  have hback : (((c.toNat + offset).toNat : Int) + -offset).toNat = c.toNat := by omega
  rw [hback, Char.ofNat_toNat]

/-- An upper-case letter is its own upper case. -/
theorem toUpper_of_isUppercase {c : Char} (h : isUppercase c = true) : toUpper c = [c] := by
  obtain ⟨s, hs, hc⟩ := List.any_eq_true.mp h
  exact CaseMapping.apply_of_leaves (List.all_eq_true.mp upperMapping_leaves s hs) hc

/-- An upper-case letter has no lower case, or one that it returns from, unless it borrows its lower
case or has one of two characters. -/
theorem toLower_of_isUppercase {c : Char} (h : isUppercase c = true) :
    toLower c = [c] ∨ (∃ l, toLower c = [l] ∧ toUpper l = [c]) ∨ c.toNat ∈ borrowing ∨
      c = 'İ' := by
  cases hexpands : lowerMapping.expansions.find? (·.1 == c.toNat) with
  | some e =>
    have he := List.mem_of_find?_eq_some hexpands
    have heq := List.find?_some hexpands
    refine .inr (.inr (.inr ?_))
    obtain rfl : e = (0x130, [0x69, 0x307]) := List.mem_singleton.mp he
    exact Char.toNat_inj.mp (eq_of_beq heq).symm
  | none =>
    cases hrun : lowerMapping.runs.find? (·.has c.toNat) with
    | none =>
      refine .inl ?_
      rw [toLower, CaseMapping.apply, hexpands, hrun]
    | some r =>
      have hlower : toLower c = [Char.ofNat (c.toNat + r.offset).toNat] := by
        rw [toLower, CaseMapping.apply, hexpands, hrun]
      have hc := List.find?_some hrun
      have hsettled := List.all_eq_true.mp lowerMapping_settled r (List.mem_of_find?_eq_some hrun)
      simp only [settled, Bool.or_eq_true, Bool.and_eq_true, beq_iff_eq] at hsettled
      -- The run returns as a whole, or has no upper-case letter, or does so after its first member.
      rcases hsettled with (hreturns | hapart) | ⟨hfirst, hlater⟩
      · exact .inr (.inl ⟨_, hlower, toUpper_of_returns hreturns hc⟩)
      · obtain ⟨s, hs, hcs⟩ := List.any_eq_true.mp h
        rw [CodeRun.not_has_of_apart (List.all_eq_true.mp hapart s hs) hc] at hcs
        contradiction
      · by_cases heq : c.toNat = r.first
        · rw [← heq] at hfirst
          rcases hfirst with hcase | hborrows
          · rw [isUppercase] at h
            simp [h] at hcase
          · exact .inr (.inr (.inl (List.contains_iff_mem.mp hborrows)))
        · rcases hlater with hsingle | hreturns
          · obtain ⟨hle, hge, -⟩ := CodeRun.has_iff.mp hc
            omega
          · exact .inr (.inl ⟨_, hlower, toUpper_of_returns hreturns (CodeRun.later_has hc heq)⟩)

/-! ## There and back -/

/-- The lower case of a letter starts with a character that has one upper case, a letter of which it
is the lower case. -/
def Recases (c : Char) : Prop :=
  ∃ l tail u, toLower c = l :: tail ∧ toUpper l = [u] ∧ isUppercase u = true ∧ toLower u = [l]

/-- The letters that borrow their lower case do so from another letter, except `ẞ`: nothing is the
upper case of `ß` but two letters. -/
theorem recases_of_mem_borrowing {c : Char} (h : c.toNat ∈ borrowing) (hc : c ≠ 'ẞ') :
    Recases c := by
  simp only [borrowing, List.mem_cons, List.not_mem_nil, or_false] at h
  rcases h with h | h | h | h | h
  · obtain rfl : c = 'ϴ' := Char.toNat_inj.mp h
    refine ⟨'θ', [], 'Θ', ?_, ?_, ?_, ?_⟩ <;> decide +kernel
  · exact absurd (Char.toNat_inj.mp h) hc
  · obtain rfl : c = Char.ofNat 0x2126 := Char.toNat_inj.mp h
    refine ⟨'ω', [], 'Ω', ?_, ?_, ?_, ?_⟩ <;> decide +kernel
  · obtain rfl : c = Char.ofNat 0x212a := Char.toNat_inj.mp h
    refine ⟨'k', [], 'K', ?_, ?_, ?_, ?_⟩ <;> decide +kernel
  · obtain rfl : c = Char.ofNat 0x212b := Char.toNat_inj.mp h
    refine ⟨'å', [], 'Å', ?_, ?_, ?_, ?_⟩ <;> decide +kernel

/-- In upper case again, the lower case of every upper-case letter but `ẞ` starts with a letter of
the same lower case. -/
theorem recases_of_isUppercase {c : Char} (h : isUppercase c = true) (hc : c ≠ 'ẞ') :
    Recases c := by
  -- The letter itself is the one to return to, unless its lower case is borrowed or of two letters.
  rcases toLower_of_isUppercase h with hlower | ⟨l, hlower, hupper⟩ | hborrows | rfl
  · exact ⟨c, [], c, hlower, toUpper_of_isUppercase h, h, hlower⟩
  · exact ⟨l, [], c, hlower, hupper, h, hlower⟩
  · exact recases_of_mem_borrowing hborrows hc
  · refine ⟨'i', [Char.ofNat 0x307], 'I', ?_, ?_, ?_, ?_⟩ <;> decide +kernel

/-- `ẞ` is an upper-case letter. -/
theorem isUppercase_sharp : isUppercase 'ẞ' = true := by
  decide +kernel

/-- In upper case again, the lower case of `ẞ` is two letters. -/
theorem toUpper_toLower_sharp :
    toLower 'ẞ' = ['ß'] ∧ toUpper 'ß' = ['S', 'S'] ∧ isUppercase 'S' = true ∧
      toLower 'S' = ['s'] := by
  decide +kernel

/-- `G` is an upper-case letter, and `g` is its lower case. -/
theorem toLower_capital_g : isUppercase 'G' = true ∧ toLower 'G' = ['g'] := by
  decide +kernel

/-! ## Letters of ASCII -/

/-- The upper-case letters of ASCII. -/
def asciiUpper : CodeRun := ⟨0x41, 0x5a, 1⟩

/-- The upper-case letters of ASCII are one of the runs of upper-case letters. -/
theorem asciiUpper_mem : asciiUpper ∈ uppercase := by
  decide

/-- The lower case of an upper-case letter of ASCII is 32 code points above it. -/
theorem lowerMapping_shifts_asciiUpper : lowerMapping.shifts asciiUpper 32 = true := by
  decide

/-- Membership in the upper-case letters of ASCII. -/
theorem asciiUpper_has_iff {n : Nat} : asciiUpper.has n = true ↔ 0x41 ≤ n ∧ n ≤ 0x5a := by
  rw [CodeRun.has_iff, asciiUpper]
  simp

/-- A lower-case letter of ASCII is the lower case of some letter, which is not `ẞ`. -/
theorem exists_toLower_of_isLower {c : Char} (h : c.isLower = true) :
    ∃ u, isUppercase u = true ∧ u ≠ 'ẞ' ∧ toLower u = [c] := by
  have hc : 0x61 ≤ c.toNat ∧ c.toNat ≤ 0x7a := by
    obtain ⟨hlow, hhigh⟩ := Bool.and_eq_true_iff.mp h
    exact ⟨UInt32.le_iff_toNat_le.mp (of_decide_eq_true hlow),
      UInt32.le_iff_toNat_le.mp (of_decide_eq_true hhigh)⟩
  have hcode : (Char.ofNat (c.toNat - 32)).toNat = c.toNat - 32 :=
    CodeRun.toNat_ofNat (s := asciiUpper) rfl (asciiUpper_has_iff.mpr (by omega))
  have hu : asciiUpper.has (Char.ofNat (c.toNat - 32)).toNat = true := by
    rw [hcode]
    exact asciiUpper_has_iff.mpr (by omega)
  refine ⟨Char.ofNat (c.toNat - 32), List.any_eq_true.mpr ⟨_, asciiUpper_mem, hu⟩, ?_, ?_⟩
  · intro hsharp
    rw [hsharp] at hu
    exact absurd hu (by decide)
  · rw [toLower, CaseMapping.apply_of_shifts lowerMapping_shifts_asciiUpper hu, hcode]
    have hback : (((c.toNat - 32 : Nat) : Int) + 32).toNat = c.toNat := by omega
    rw [hback, Char.ofNat_toNat]

/-- An upper-case letter of ASCII has one lower case, and returns from it. -/
theorem toUpper_toLower_of_isUpper {c : Char} (h : c.isUpper = true) :
    isUppercase c = true ∧ ∃ l, toLower c = [l] ∧ toUpper l = [c] := by
  have hc : 0x41 ≤ c.toNat ∧ c.toNat ≤ 0x5a := by
    obtain ⟨hlow, hhigh⟩ := of_decide_eq_true h
    exact ⟨UInt32.le_iff_toNat_le.mp hlow, UInt32.le_iff_toNat_le.mp hhigh⟩
  have hupper : isUppercase c = true :=
    List.any_eq_true.mpr ⟨_, asciiUpper_mem, asciiUpper_has_iff.mpr hc⟩
  refine ⟨hupper, ?_⟩
  rcases toLower_of_isUppercase hupper with hlower | hreturns | hborrows | rfl
  · exact ⟨c, hlower, toUpper_of_isUppercase hupper⟩
  · exact hreturns
  -- No letter of ASCII is among the exceptions.
  · simp only [borrowing, List.mem_cons, List.not_mem_nil, or_false] at hborrows
    omega
  · exact absurd hc (by decide)

end AccessorUpgrade.Text
