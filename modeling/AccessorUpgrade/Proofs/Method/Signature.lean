import AccessorUpgrade.Proofs.DeclaredType.WellFormed
import AccessorUpgrade.Proofs.Text.Segments
import AccessorUpgrade.Reader

/-!
# Qualified signatures identify methods

A qualified signature is read from its end. The last opening parenthesis starts the parameters, as
no spelling of a type has one, whatever the name of the method is; and the last dot before it ends
the owner, if the name has none. The types of the parameters are written as type arguments are, with
commas between them, so they are known by their text because the grammar of type arguments is
unambiguous (`DeclaredType.intercalate_spelling_inj`). `Method.qualifiedSignature_identifies` puts
the parts together.
-/

namespace AccessorUpgrade

namespace DeclaredType

/-! ## No parentheses -/

/-- No name has an opening parenthesis. -/
theorem Name.open_not_mem (n : Name) : '(' ∉ n.text := by
  intro h
  have := ErasedType.mem_of_read n.reads h
  revert this
  decide +kernel

/-- An opening parenthesis is not white space. -/
theorem Blanks.open_not_mem (b : Blanks) : '(' ∉ b.text := by
  intro h
  have := b.blank _ h
  revert this
  decide

mutual

/-- No type is written with an opening parenthesis. -/
theorem Derivation.open_not_mem : ∀ d : Derivation, '(' ∉ d.text
  | .name n => n.open_not_mem
  | .applied n arguments blanks => by
    have hn := n.open_not_mem
    have harguments := arguments.open_not_mem
    have hblanks := blanks.open_not_mem
    simp [Derivation.text, hn, harguments, hblanks]

/-- No type arguments are written with an opening parenthesis. -/
theorem Arguments.open_not_mem : ∀ arguments : Arguments, '(' ∉ arguments.text
  | .last d => d.open_not_mem
  | .more d others => by
    have hd := d.open_not_mem
    have hothers := others.open_not_mem
    simp [Arguments.text, hd, hothers]

end

/-! ## Types with commas between them -/

/-- Type arguments are determined by their text. -/
theorem Arguments.text_injective : Function.Injective Arguments.text := by
  intro as as' h
  have hclosed : as.text ++ '>' :: [] = as'.text ++ '>' :: [] := by rw [h]
  exact (Arguments.append_inj as as' hclosed).1

/-- Type arguments have a text. -/
theorem Arguments.text_ne_nil (arguments : Arguments) : arguments.text ≠ [] := by
  cases arguments with
  | last d => exact List.length_pos_iff.mp d.text_length_pos
  | more d others => simp [Arguments.text]

/-- A type that has a spelling has a derivation of it. -/
theorem IsSpelled.exists_derivation {t : DeclaredType} (h : t.IsSpelled) :
    ∃ d : Derivation, d.text = t.spelling.toList ∧ d.tree = t := by
  obtain ⟨s, hs⟩ := h
  exact exists_derivation_of_spelling t .none (wellFormed_of_parse hs).1

/-- Types with commas between their spellings are type arguments. -/
theorem exists_arguments_of_types {t : DeclaredType} {rest : List DeclaredType}
    (h : ∀ u ∈ t :: rest, u.IsSpelled) :
    ∃ arguments : Arguments, arguments.trees = t :: rest ∧
      arguments.text = (",".intercalate ((t :: rest).map spelling)).toList := by
  induction rest generalizing t with
  | nil =>
    obtain ⟨d, htext, htree⟩ := (h t List.mem_cons_self).exists_derivation
    refine ⟨.last d, by rw [Arguments.trees, htree], ?_⟩
    rw [Arguments.text, htext, List.map_singleton, String.intercalate_singleton]
  | cons u rest ih =>
    obtain ⟨ht, hrest⟩ := List.forall_mem_cons.mp h
    obtain ⟨d, htext, htree⟩ := ht.exists_derivation
    obtain ⟨others, htrees, hothers⟩ := ih hrest
    refine ⟨.more d others, by rw [Arguments.trees, htree, htrees], ?_⟩
    have hjoin : ",".intercalate ((t :: u :: rest).map spelling) =
        t.spelling ++ "," ++ ",".intercalate ((u :: rest).map spelling) :=
      String.intercalate_cons_cons
    rw [Arguments.text, htext, hothers, hjoin]
    simp [String.toList_append]

/-- Types are known by their spellings with commas between them, however many they are. -/
theorem intercalate_spelling_inj {ts ts' : List DeclaredType} (h : ∀ t ∈ ts, t.IsSpelled)
    (h' : ∀ t ∈ ts', t.IsSpelled)
    (heq : ",".intercalate (ts.map spelling) = ",".intercalate (ts'.map spelling)) : ts = ts' := by
  have hnil : (",".intercalate (List.map spelling [])).toList = [] := by
    rw [List.map_nil, String.intercalate_nil, String.toList_empty]
  cases ts with
  | nil =>
    cases ts' with
    | nil => rfl
    | cons t' rest' =>
      obtain ⟨arguments, -, htext⟩ := exists_arguments_of_types h'
      rw [← heq, hnil] at htext
      exact absurd htext arguments.text_ne_nil
  | cons t rest =>
    obtain ⟨arguments, htrees, htext⟩ := exists_arguments_of_types h
    cases ts' with
    | nil =>
      rw [heq, hnil] at htext
      exact absurd htext arguments.text_ne_nil
    | cons t' rest' =>
      obtain ⟨arguments', htrees', htext'⟩ := exists_arguments_of_types h'
      have hsame : arguments = arguments' := Arguments.text_injective (by rw [htext, htext', heq])
      rw [← htrees, hsame, htrees']

/-- No opening parenthesis stands among types with commas between their spellings. -/
theorem open_not_mem_intercalate {ts : List DeclaredType} (h : ∀ t ∈ ts, t.IsSpelled) :
    '(' ∉ (",".intercalate (ts.map spelling)).toList := by
  cases ts with
  | nil => exact List.not_mem_nil
  | cons t rest =>
    obtain ⟨arguments, -, htext⟩ := exists_arguments_of_types h
    rw [← htext]
    exact arguments.open_not_mem

end DeclaredType

namespace Method

variable {m m' : Method}

/-- The types of the parameters. -/
def parameterTypes (m : Method) : List DeclaredType := m.parameters.map (·.type)

/-- The parts of a method that its qualified signature shows can be told apart in it: the owner and
the types of the parameters have spellings, and the name has no dot. -/
structure IsSigned (m : Method) : Prop where
  owner : m.owner.IsSpelled
  types : ∀ t ∈ m.parameterTypes, t.IsSpelled
  name : '.' ∉ m.name.toList

/-- Two methods have the same owner and name, and parameters of the same types in the same order. -/
structure SameSignature (m m' : Method) : Prop where
  owner : m.owner = m'.owner
  name : m.name = m'.name
  types : m.parameterTypes = m'.parameterTypes

/-- The characters of a qualified signature. -/
theorem toList_qualifiedSignature (m : Method) : m.qualifiedSignature.toList =
    (m.owner.spelling.toList ++ '.' :: m.name.toList) ++
      '(' :: (",".intercalate (m.parameterTypes.map (·.spelling))).toList ++ [')'] := by
  have htypes : m.parameters.map (·.type.spelling) = m.parameterTypes.map (·.spelling) := by
    rw [parameterTypes, List.map_map]
    rfl
  rw [qualifiedSignature, signature, htypes]
  simp [String.toList_append]

/-- Methods with the same qualified signature have the same owner and name, and parameters of the
same types. -/
theorem sameSignature_of_qualifiedSignature (h : m.IsSigned) (h' : m'.IsSigned)
    (heq : m.qualifiedSignature = m'.qualifiedSignature) : m.SameSignature m' := by
  have htext := congrArg String.toList heq
  rw [toList_qualifiedSignature, toList_qualifiedSignature] at htext
  -- The last parenthesis that opens, and then the last dot before it, stand in one place.
  obtain ⟨hqualified, htypes⟩ := Text.append_cons_inj
    (DeclaredType.open_not_mem_intercalate h.types) (DeclaredType.open_not_mem_intercalate h'.types)
    (List.append_cancel_right htext)
  obtain ⟨howner, hname⟩ := Text.append_cons_inj h.name h'.name hqualified
  have hspelling : m.owner.spelling = m'.owner.spelling := String.toList_inj.mp howner
  refine ⟨?_, String.toList_inj.mp hname,
    DeclaredType.intercalate_spelling_inj h.types h'.types (String.toList_inj.mp htypes)⟩
  have hread := h.owner.parse_spelling
  rw [hspelling, h'.owner.parse_spelling] at hread
  exact (Except.ok.inj hread).symm

/-- Qualified signatures identify methods: if the owners and the types of the parameters have
spellings and the names have no dot, two methods have the same qualified signature exactly when they
have the same owner and name, and parameters of the same types, type arguments included. So the
outcomes of two methods in reports, whatever readers make them, are told apart by their signatures.
-/
theorem qualifiedSignature_identifies (h : m.IsSigned) (h' : m'.IsSigned) :
    (m.qualifiedSignature = m'.qualifiedSignature ↔ m.SameSignature m') ∧
    ∀ (r r' : Reader) (directive directive' : Option Directive) (o o' : Outcome),
      r.outcome? ⟨m, directive⟩ = some o → r'.outcome? ⟨m', directive'⟩ = some o' →
      (o.method = o'.method ↔ m.SameSignature m') := by
  have hiff : m.qualifiedSignature = m'.qualifiedSignature ↔ m.SameSignature m' := by
    refine ⟨sameSignature_of_qualifiedSignature h h', fun hsame => ?_⟩
    rw [← String.toList_inj, toList_qualifiedSignature, toList_qualifiedSignature, hsame.owner,
      hsame.name, hsame.types]
  refine ⟨hiff, fun r r' directive directive' o o' ho ho' => ?_⟩
  obtain ⟨result, -, rfl⟩ := Option.map_eq_some_iff.mp ho
  obtain ⟨result', -, rfl⟩ := Option.map_eq_some_iff.mp ho'
  exact hiff

/-- A method of an array type, with an odd name and parameters of some types. -/
def oddMethod (types : List DeclaredType) : Method :=
  ⟨.array (.object "a.B"), "f(x,", types.map (⟨"p", ·⟩), .raw .void, .unknown⟩

/-- The type `c.D` with some classes for its arguments. -/
def typeOf (arguments : List String) : DeclaredType :=
  .mk (.object "c.D") (arguments.map fun name => .raw (.object name))

/-- What the standard reader without a project makes of an odd method that is marked. -/
def oddOutcome (types : List DeclaredType) : Outcome :=
  ⟨(oddMethod types).qualifiedSignature,
    (Reader.standard none).readMethod (oddMethod types) ⟨[], none, none⟩⟩

/-- A type with two arguments, and a type with the first of them before the other, make different
signatures: `a.B[].f(x,(c.D<e.F, g.H>)` and `a.B[].f(x,(c.D<e.F>,g.H)`. -/
theorem qualifiedSignature_identifies_arguments :
    (oddMethod [typeOf ["e.F", "g.H"]]).IsSigned ∧
      (oddMethod [typeOf ["e.F"], .raw (.object "g.H")]).IsSigned ∧
      (oddMethod [typeOf ["e.F", "g.H"]]).qualifiedSignature ≠
        (oddMethod [typeOf ["e.F"], .raw (.object "g.H")]).qualifiedSignature ∧
      (oddOutcome [typeOf ["e.F", "g.H"]]).method ≠
        (oddOutcome [typeOf ["e.F"], .raw (.object "g.H")]).method := by
  have howner : (ErasedType.array (.object "a.B")).IsSpelled := ⟨"a.B[]", rfl⟩
  have hname : '.' ∉ "f(x,".toList := by decide
  have htwo : (typeOf ["e.F", "g.H"]).IsSpelled := ⟨"c.D<e.F, g.H>", by decide +kernel⟩
  have hone : (typeOf ["e.F"]).IsSpelled := ⟨"c.D<e.F>", by decide +kernel⟩
  have hraw : (DeclaredType.raw (.object "g.H")).IsSpelled := ⟨"g.H", by decide +kernel⟩
  have hsigned : (oddMethod [typeOf ["e.F", "g.H"]]).IsSigned :=
    ⟨howner, List.forall_mem_singleton.mpr htwo, hname⟩
  have hsigned' : (oddMethod [typeOf ["e.F"], .raw (.object "g.H")]).IsSigned :=
    ⟨howner, List.forall_mem_cons.mpr ⟨hone, List.forall_mem_singleton.mpr hraw⟩, hname⟩
  obtain ⟨hsignature, houtcome⟩ := qualifiedSignature_identifies hsigned hsigned'
  have hlength : ¬(oddMethod [typeOf ["e.F", "g.H"]]).SameSignature
      (oddMethod [typeOf ["e.F"], .raw (.object "g.H")]) :=
    fun h => absurd (congrArg List.length h.types) (by decide)
  have hmethod := houtcome (Reader.standard none) (Reader.standard none) (some ⟨[], none, none⟩)
    (some ⟨[], none, none⟩) (oddOutcome _) (oddOutcome _) rfl rfl
  exact ⟨hsigned, hsigned', mt hsignature.mp hlength, mt hmethod.mp hlength⟩

end Method

end AccessorUpgrade
