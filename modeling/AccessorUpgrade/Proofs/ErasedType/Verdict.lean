import AccessorUpgrade.Proofs.DeclaredType.Reading
import AccessorUpgrade.Proofs.ErasedType.WellFormed

/-!
# What decides the reading of a spelling

The parts of a text decide what it is read as, or why it is refused: first its number of bracket
pairs, then its name (`ErasedType.parse_eq_iff_verdict`). The reader of declared types hands a text
without angle brackets and commas on to the reader of erased types, and gives its answer, refusals
included (`DeclaredType.parse_of_isNameText`).
-/

namespace AccessorUpgrade

namespace ErasedType

variable {s name : List Char} {pairs : Nat} {t : ErasedType} {r : Except SpellingError ErasedType}

/-- What a name and a number of bracket pairs stand for. Too many pairs are refused first, whatever
the name is; then a name that is missing, and one that is neither a keyword nor a class name. -/
inductive Verdict (name : List Char) (pairs : Nat) : Except SpellingError ErasedType → Prop where
  | tooDeep (hpairs : 255 < pairs) : Verdict name pairs (.error (.tooDeep 255))
  | empty (hpairs : pairs ≤ 255) (hname : name = []) : Verdict name pairs (.error .empty)
  | accepted (hpairs : pairs ≤ 255) {element : ErasedType} (helement : IsElement element)
      (hname : element.spelling.toList = name) : Verdict name pairs (.ok (inArrays pairs element))
  | invalid (hpairs : pairs ≤ 255) (hname : name ≠ [])
      (hnone : ∀ element, IsElement element → element.spelling.toList ≠ name) :
      Verdict name pairs (.error (.invalidClassName (String.ofList name)))

/-- A name is the spelling of the type that it stands for. -/
theorem spelling_of_ofName (h : ofName name = .ok t) : t.spelling.toList = name := by
  rw [ofName.eq_def] at h
  split at h
  · contradiction
  · split at h
    · next k hk =>
      obtain rfl := Except.ok.inj h
      rw [spelling, ← eq_word_of_ofWord? hk, String.toList_ofList]
    · split at h
      · obtain rfl := Except.ok.inj h
        exact String.toList_ofList
      · contradiction

/-- A name is refused if there is none, and else for what it is. -/
theorem ofName_error_cases {cause : SpellingError} (h : ofName name = .error cause) :
    name = [] ∧ cause = .empty ∨ name ≠ [] ∧ cause = .invalidClassName (String.ofList name) := by
  rw [ofName.eq_def] at h
  split at h
  · exact .inl ⟨rfl, (Except.error.inj h).symm⟩
  · next hne =>
    split at h
    · contradiction
    · split at h
      · contradiction
      · exact .inr ⟨hne, (Except.error.inj h).symm⟩

/-- A text is read in two steps: its pairs are counted, and its name is looked at. -/
theorem HasParts.read_eq (h : HasParts s name pairs) :
    read s = if 255 < pairs then .error (.tooDeep 255) else (ofName name).map (inArrays pairs) := by
  rw [read, h.splitSpelling_eq]
  rfl

/-- There is a verdict on every text. -/
theorem HasParts.verdict (h : HasParts s name pairs) : Verdict name pairs (read s) := by
  rw [h.read_eq]
  split
  · next hpairs => exact .tooDeep hpairs
  · next hpairs =>
    replace hpairs : pairs ≤ 255 := Nat.le_of_not_lt hpairs
    cases hread : ofName name with
    | ok element => exact .accepted hpairs (isElement_of_ofName hread) (spelling_of_ofName hread)
    | error cause =>
      obtain ⟨hname, rfl⟩ | ⟨hname, rfl⟩ := ofName_error_cases hread
      · exact .empty hpairs hname
      · refine .invalid hpairs hname fun element helement hspelling => ?_
        have hok := helement.ofName_spelling
        rw [hspelling, hread] at hok
        contradiction

/-- There is only one verdict on a text. -/
theorem HasParts.read_eq_of_verdict (h : HasParts s name pairs) (hr : Verdict name pairs r) :
    read s = r := by
  rw [h.read_eq]
  cases hr with
  | tooDeep hpairs => rw [if_pos hpairs]
  | empty hpairs hname =>
    rw [if_neg (Nat.not_lt.mpr hpairs), hname]
    rfl
  | accepted hpairs helement hname =>
    rw [if_neg (Nat.not_lt.mpr hpairs), ← hname, helement.ofName_spelling]
    rfl
  | invalid hpairs hname hnone =>
    rw [if_neg (Nat.not_lt.mpr hpairs)]
    cases hread : ofName name with
    | ok element =>
      exact absurd (spelling_of_ofName hread) (hnone element (isElement_of_ofName hread))
    | error cause =>
      obtain ⟨hnil, -⟩ | ⟨-, rfl⟩ := ofName_error_cases hread
      · exact absurd hnil hname
      · rfl

/-- The reading of a text is the verdict on its parts. -/
theorem read_eq_iff_verdict :
    read s = r ↔ ∃ name pairs, HasParts s name pairs ∧ Verdict name pairs r := by
  constructor
  · rintro rfl
    exact ⟨_, _, hasParts_splitSpelling s, (hasParts_splitSpelling s).verdict⟩
  · rintro ⟨name, pairs, hparts, hr⟩
    exact hparts.read_eq_of_verdict hr

/-- A text has one name and one number of pairs. -/
theorem existsUnique_hasParts (s : List Char) :
    ∃! parts : List Char × Nat, HasParts s parts.1 parts.2 :=
  ⟨splitSpelling s, hasParts_splitSpelling s, fun _ h => h.splitSpelling_eq.symm⟩

end ErasedType

namespace DeclaredType

/-- The characters of names are all but angle brackets and commas. -/
theorem forall_isNameText_iff (s : List Char) :
    (∀ c ∈ s, isNameText c = true) ↔ '<' ∉ s ∧ ',' ∉ s ∧ '>' ∉ s := by
  simp only [isNameText, Bool.and_eq_true, bne_iff_ne, and_assoc, forall_and]
  simp only [ne_eq, imp_not_comm, forall_eq]

/-- A text without angle brackets and commas is read as a type without arguments, as its erasure is
read, and refused for the same cause. -/
theorem parse_of_isNameText {s : String} (h : ∀ c ∈ s.toList, isNameText c = true) :
    parse s = (ErasedType.parse s).map raw := by
  have htake : s.toList.takeWhile isNameText = s.toList := List.takeWhile_eq_self_iff.mpr h
  have hdrop : s.toList.dropWhile isNameText = [] := List.dropWhile_eq_nil_iff.mpr h
  rw [parse, Cursor.readType, ErasedType.parse]
  cases hs : s.toList with
  | nil => rfl
  | cons c tail =>
    rw [hs] at htake hdrop
    rw [List.length_cons, readTypeWithin, htake, hdrop]
    cases ErasedType.read (c :: tail) with
    | error cause => rfl
    | ok erasure => rfl

end DeclaredType

namespace ErasedType

/-- A text has exactly one name and one number of bracket pairs, and what it is read as is the
verdict on these. The reader of declared types agrees on every text without angle brackets and
commas, refusals included, and no text with one of these is read as an erased type. -/
theorem parse_eq_iff_verdict (s : String) :
    (∃! parts : List Char × Nat, HasParts s.toList parts.1 parts.2) ∧
    (∀ r, parse s = r ↔ ∃ name pairs, HasParts s.toList name pairs ∧ Verdict name pairs r) ∧
    ('<' ∉ s.toList ∧ ',' ∉ s.toList ∧ '>' ∉ s.toList →
      DeclaredType.parse s = (parse s).map .raw) ∧
    ∀ t, parse s = .ok t → '<' ∉ s.toList ∧ ',' ∉ s.toList ∧ '>' ∉ s.toList := by
  refine ⟨existsUnique_hasParts s.toList, fun r => read_eq_iff_verdict, fun h => ?_, fun t ht => ?_⟩
  · exact DeclaredType.parse_of_isNameText ((DeclaredType.forall_isNameText_iff _).mpr h)
  · exact (DeclaredType.forall_isNameText_iff _).mp (DeclaredType.isNameText_of_read ht)

/-- A keyword with white space before it, and with two pairs after it that have white space before
them. -/
theorem parse_eq_iff_verdict_int :
    HasParts " int [] []".toList "int".toList 2 ∧
      parse " int [] []" = .ok (.array (.array (.keyword .int))) ∧
      DeclaredType.parse " int [] []" = .ok (.raw (.array (.array (.keyword .int)))) := by
  have hparts : HasParts " int [] []".toList "int".toList 2 := by
    refine ⟨⟨[' '], " [] []".toList, rfl, List.forall_mem_singleton.mpr rfl, ?_⟩,
      fun _ hc => Option.some.inj hc ▸ rfl, fun _ hc => Option.some.inj hc ▸ rfl, by decide⟩
    exact .blank rfl (.pair (.blank rfl (.pair .nil)))
  obtain ⟨-, hverdict, hplain, -⟩ := parse_eq_iff_verdict " int [] []"
  have hparse : parse " int [] []" = .ok (.array (.array (.keyword .int))) :=
    (hverdict _).mpr ⟨_, _, hparts, .accepted (by decide) (.keyword .int) rfl⟩
  exact ⟨hparts, hparse, by rw [hplain (by decide), hparse]; rfl⟩

end ErasedType

end AccessorUpgrade
