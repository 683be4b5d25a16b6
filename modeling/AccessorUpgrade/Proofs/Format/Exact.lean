import AccessorUpgrade.Format.Basic
import AccessorUpgrade.Json.Printer
import AccessorUpgrade.Proofs.DeclaredType.WellFormed
import AccessorUpgrade.Proofs.Json.ReadBack
import AccessorUpgrade.Proofs.Results

/-!
# Exact formats

A format is exact on some values when it reads each of them back from what it writes for it, and
reads no other values. Single formats are exact, and what puts formats together keeps them so
(`Format.Exact.list`, `Format.Exact.nullable`). Since everything they write is read back from its
text (`Json.read_compact`, `Json.read_pretty`), an exact format keeps just these values.
-/

namespace AccessorUpgrade

namespace Format

variable {α β : Type} {f : Format α} {valid valid' : α → Prop} {depth : Nat}

/-- The valid values are read back from what is written for them, which has at most so many arrays
and objects in each other, and no others are read. -/
structure Exact (f : Format α) (depth : Nat) (valid : α → Prop) : Prop where
  writable {a : α} : valid a → Json.Writable depth (f.encode a)
  decode_encode (source : Source) {a : α} : valid a → f.decode source (f.encode a) = .ok a
  valid_of_decode {source : Source} {value : Json} {a : α} : f.decode source value = .ok a → valid a

/-- Whether a value is read back from both of its texts. -/
def Keeps (f : Format α) (a : α) : Prop :=
  f.ofText (f.encode a).compact = .ok a ∧ f.ofText (f.encode a).pretty = .ok a

/-- What is read from a text is read from the tree of the text. -/
theorem decode_of_ofText {a : α} {text : String} (h : f.ofText text = .ok a) :
    f.decode .text (Json.read text.toList).root = .ok a := by
  rw [ofText] at h
  split at h
  · cases h
  next b hdecode =>
    split at h
    · exact Except.ok.inj h ▸ hdecode
    · cases h

namespace Exact

/-- The same values, told otherwise. -/
theorem congr (h : f.Exact depth valid) (hvalid : ∀ a, valid a ↔ valid' a) :
    f.Exact depth valid' where
  writable ha := h.writable ((hvalid _).mpr ha)
  decode_encode source _ ha := h.decode_encode source ((hvalid _).mpr ha)
  valid_of_decode ha := (hvalid _).mp (h.valid_of_decode ha)

/-! ## Texts -/

/-- A text is read as a value if it is a text of the tree for the value. -/
theorem ofText_of_read (h : f.Exact depth valid) {a : α} (ha : valid a) {text : String}
    (htext : Json.read text.toList = ⟨f.encode a, true⟩) : f.ofText text = .ok a := by
  rw [Format.ofText, htext]
  simp only [h.decode_encode .text ha, if_true]

/-- What is read from a text is valid. -/
theorem valid_of_ofText (h : f.Exact depth valid) {a : α} {text : String}
    (htext : f.ofText text = .ok a) : valid a :=
  h.valid_of_decode (decode_of_ofText htext)

/-- A valid value is read back from its compact text, and white space may follow. -/
theorem ofText_compact (h : f.Exact Json.nestingLimit valid) {a : α} (ha : valid a)
    {blanks : String} (hblanks : ∀ c ∈ blanks.toList, Json.State.isSpace c = true) :
    f.ofText ((f.encode a).compact ++ blanks) = .ok a :=
  h.ofText_of_read ha (by rw [String.toList_append, Json.read_compact (h.writable ha) hblanks])

/-- A valid value is read back from its text with indentation, and white space may follow. -/
theorem ofText_pretty (h : f.Exact Json.nestingLimit valid) {a : α} (ha : valid a)
    {blanks : String} (hblanks : ∀ c ∈ blanks.toList, Json.State.isSpace c = true) :
    f.ofText ((f.encode a).pretty ++ blanks) = .ok a :=
  h.ofText_of_read ha (by rw [String.toList_append, Json.read_pretty (h.writable ha) hblanks])

/-- An exact format keeps the valid values and no others. -/
theorem keeps_iff (h : f.Exact Json.nestingLimit valid) (a : α) : f.Keeps a ↔ valid a := by
  refine ⟨fun hkeeps => h.valid_of_ofText hkeeps.1, fun ha => ?_⟩
  have hcompact : f.ofText ((f.encode a).compact ++ "") = .ok a := h.ofText_compact ha (by simp)
  have hpretty : f.ofText ((f.encode a).pretty ++ "") = .ok a := h.ofText_pretty ha (by simp)
  rw [String.append_empty] at hcompact hpretty
  exact ⟨hcompact, hpretty⟩

end Exact

/-! ## Single formats -/

/-- All strings are kept. -/
theorem string_exact : Format.string.Exact depth fun _ => True where
  writable _ := .string _
  decode_encode _ _ _ := rfl
  valid_of_decode _ := trivial

/-- Both truth values are kept. -/
theorem boolean_exact : Format.boolean.Exact depth fun _ => True where
  writable _ := .bool _
  decode_encode _ _ _ := rfl
  valid_of_decode _ := trivial

/-- All numbers of 32 bits are kept. -/
theorem word_exact : Format.word.Exact depth fun _ => True where
  writable {n} _ := .natural (by have := n.toNat_lt; omega)
  decode_encode source n _ := by
    have hn : (n.toNat : Int) < 0x100000000 := by exact_mod_cast n.toNat_lt
    simp [word, Json.natural, hn]
  valid_of_decode _ := trivial

/-- The values are kept that are read back from their spelling. -/
theorem spelled_exact {spelling : α → String} {parse : String → Except SpellingError α}
    (hparse : ∀ {a}, valid a → parse (spelling a) = .ok a)
    (hvalid : ∀ {s a}, parse s = .ok a → valid a) :
    (spelled spelling parse).Exact depth valid where
  writable _ := .string _
  decode_encode source a ha := by
    have hstring : Format.string.decode source (.string (spelling a)) = .ok (spelling a) := rfl
    simp [spelled, hstring, hparse ha, Except.mapError]
  valid_of_decode {source value a} h := by
    simp only [spelled] at h
    split at h
    · cases h
    next s _ =>
      cases ha : parse s with
      | error e => simp [ha, Except.mapError] at h
      | ok b =>
        obtain rfl : b = a := by simpa [ha, Except.mapError] using h
        exact hvalid ha

/-- A named alternative is read from its name. -/
theorem choice_string {names : List String} {name : String} (h : name ∈ names)
    (bare : String → Except DecodeError α) (inside : String → Source → Json → Except DecodeError α)
    (source : Source) : choice names bare inside source (.string name) = bare name := by
  have hname : names.contains name = true := List.contains_iff_mem.mpr h
  simp only [choice, hname, if_true]

/-- A named alternative is read from an object with its name as the only key. -/
theorem choice_record {names : List String} {name : String} (h : name ∈ names)
    (bare : String → Except DecodeError α) (inside : String → Source → Json → Except DecodeError α)
    (source : Source) (value : Json) :
    choice names bare inside source (.record [(name, value)]) = inside name source value := by
  have hname : names.contains name = true := List.contains_iff_mem.mpr h
  cases source with
  | text =>
    simp only [Json.record, choice, hname, if_true]
    cases inside name .text value <;> rfl
  | buffered | tree => simp only [Json.record, choice, hname, if_true]

/-- What is read as one of several alternatives is read from a name alone or from what belongs to
one. -/
theorem cases_of_choice {names : List String} {bare : String → Except DecodeError α}
    {inside : String → Source → Json → Except DecodeError α} {source : Source} {value : Json}
    {a : α} (h : choice names bare inside source value = .ok a) :
    (∃ name, bare name = .ok a) ∨ ∃ name source value, inside name source value = .ok a := by
  unfold choice at h
  split at h
  · split at h
    · exact .inl ⟨_, h⟩
    · cases h
  next name inner rest ending =>
    split at h
    · split at h
      · cases h
      next b hinside =>
        split at h
        · exact .inr ⟨name, .text, inner, hinside.trans h⟩
        · cases h
    · cases h
  · split at h
    · exact .inr ⟨_, _, _, h⟩
    · cases h
  all_goals cases h

/-- All constants are kept if each is found under its name. -/
theorem constants_exact {all : List α} {name : α → String}
    (h : ∀ a, all.find? (name · == name a) = some a) :
    (constants all name).Exact depth fun _ => True where
  writable _ := .string _
  decode_encode source a _ := by
    have hname : name a ∈ all.map name := List.mem_map_of_mem (List.mem_of_find?_eq_some (h a))
    simp only [constants, choice_string hname, h a]
  valid_of_decode _ := trivial

/-! ## Formats of several values -/

/-- A list is read from an array, item by item. -/
theorem exists_of_decode_list {source : Source} {value : Json} {values : List α}
    (h : f.list.decode source value = .ok values) :
    ∃ items, value = .list items ∧ items.mapM (f.decode source) = .ok values := by
  cases value with
  | array items ending =>
    simp only [list] at h
    split at h
    · cases h
    next read hitems =>
      split at h
      · next hending =>
        obtain rfl := Except.ok.inj h
        obtain rfl : ending = .closed := by simpa using hending
        exact ⟨items, rfl, hitems⟩
      · cases h
  | _ => simp [list] at h

/-- The lists of valid values are kept. -/
theorem Exact.list (h : f.Exact depth valid) :
    f.list.Exact (depth + 1) fun items => ∀ a ∈ items, valid a where
  writable {items} hitems := by
    refine .list fun value hvalue => ?_
    obtain ⟨a, ha, rfl⟩ := List.mem_map.mp hvalue
    exact h.writable (hitems a ha)
  decode_encode source items hitems := by
    have hread : (items.map f.encode).mapM (f.decode source) = .ok items :=
      mapM_map_eq_ok fun a ha => h.decode_encode source (hitems a ha)
    simp [Format.list, Json.list, hread]
  valid_of_decode {source value values} hread := by
    obtain ⟨items, -, hitems⟩ := exists_of_decode_list hread
    intro a ha
    obtain ⟨item, -, hitem⟩ := exists_mem_of_mapM hitems a ha
    exact h.valid_of_decode hitem

/-- Whatever is not null is read as a value that is there. -/
theorem decode_nullable {value : Json} (h : value ≠ .null) (source : Source) :
    f.nullable.decode source value = (f.decode source value).map some := by
  cases value with
  | null => exact absurd rfl h
  | _ => rfl

/-- Valid values that may be absent are kept, unless null is written for one of them. -/
theorem Exact.nullable (h : f.Exact depth valid) (hnull : ∀ a, f.encode a ≠ .null) :
    f.nullable.Exact depth fun o => ∀ a ∈ o, valid a where
  writable {o} ho := by
    cases o with
    | none => exact .null
    | some a => exact h.writable (ho a rfl)
  decode_encode source o ho := by
    cases o with
    | none => rfl
    | some a =>
      have hencode : f.nullable.encode (some a) = f.encode a := rfl
      rw [hencode, decode_nullable (hnull a), h.decode_encode source (ho a rfl)]
      rfl
  valid_of_decode {source value o} hread := by
    by_cases hvalue : value = .null
    · subst hvalue
      obtain rfl : none = o := Except.ok.inj hread
      simp
    · rw [decode_nullable hvalue] at hread
      obtain ⟨a, ha, rfl⟩ := exists_of_map hread
      simpa using h.valid_of_decode ha

end Format

/-- The erased types that have a spelling are kept. -/
theorem ErasedType.exact {depth : Nat} : ErasedType.format.Exact depth ErasedType.IsSpelled :=
  Format.spelled_exact IsSpelled.parse_spelling fun h => ⟨_, h⟩

/-- The declared types that have a spelling are kept. -/
theorem DeclaredType.exact {depth : Nat} : DeclaredType.format.Exact depth DeclaredType.IsSpelled :=
  Format.spelled_exact IsSpelled.parse_spelling fun h => ⟨_, h⟩

end AccessorUpgrade
