import AccessorUpgrade.Proofs.DeclaredType.WellFormed
import AccessorUpgrade.Proofs.Interception.Binding
import AccessorUpgrade.Proofs.Results

/-!
# What type arguments decide

The arguments of a declared return type are read at one place only, where a former type is not
written and the declared type is a wrapper of a single value. There the erasure of the only argument
is the former type, whatever its own arguments are. Everything else looks at the erasure of the
declared type: whether it is a wrapper at all, the former types of the other wrappers, the kind of
the property, and the descriptor of the method. `DeclaredType.unwrapped?_eq_some_iff` has the whole
table of section 4.2 of the specification, with the names of the classes.

So methods that differ in these arguments alone are read alike, if the type is another one or all
former types are written. Only a refusal for an unresolved type shows the arguments, in its message.
`coded` keeps nothing of a refusal but its code, and makes the comparison an equation, which passes
through all steps of the reading (`Reader.coded_requests_withArguments`).
-/

namespace AccessorUpgrade

/-! ## The table of wrappers -/

namespace Wrapper

/-- A name is found exactly at the wrapper class that has it. -/
theorem ofClassName?_eq_some_iff {name : String} {w : Wrapper} :
    ofClassName? name = some w ↔ name = w.className := by
  constructor
  · intro h
    unfold ofClassName? at h
    have hname := List.find?_some h
    exact (eq_of_beq hname).symm
  · rintro rfl
    cases w <;> rfl

/-- A declared type belongs to a wrapper class exactly when its erasure is that class. -/
theorem of?_eq_some_iff {declared : DeclaredType} {w : Wrapper} :
    of? declared = some w ↔ declared.erasure = .object w.className := by
  unfold of? DeclaredType.className?
  cases declared.erasure with
  | object name =>
    simp only [ErasedType.className?, Option.bind_some, ErasedType.object.injEq]
    exact ofClassName?_eq_some_iff
  | keyword k => simp [ErasedType.className?]
  | array element => simp [ErasedType.className?]

/-- All wrapper classes stand for a former type whatever the arguments are, but the one of a single
value, which takes one argument. -/
theorem exists_formerType_iff {w : Wrapper} {arguments : List DeclaredType} :
    (∃ t, w.formerType arguments = some t) ↔ (w = .single → arguments.length = 1) := by
  cases w with
  | single =>
    match arguments with
    | [] => simp [formerType]
    | [argument] => simp [formerType]
    | _ :: _ :: _ => simp [formerType]
  | regularFile | directory | fileCollection | map | list | set => simp [formerType]

/-- The arguments of wrappers do not count, but those of a single value. -/
theorem formerType_eq_of_ne_single {w : Wrapper} (h : w ≠ .single) (as bs : List DeclaredType) :
    w.formerType as = w.formerType bs := by
  cases w with
  | single => exact absurd rfl h
  | regularFile | directory | fileCollection | map | list | set => rfl

/-- The wrapper classes that stand for one type each, with that type, by their names. -/
def table : List (String × String) :=
  [("org.gradle.api.file.RegularFileProperty", "java.io.File"),
    ("org.gradle.api.file.DirectoryProperty", "java.io.File"),
    ("org.gradle.api.file.ConfigurableFileCollection", "org.gradle.api.file.FileCollection"),
    ("org.gradle.api.provider.MapProperty", "java.util.Map"),
    ("org.gradle.api.provider.ListProperty", "java.util.List"),
    ("org.gradle.api.provider.SetProperty", "java.util.Set")]

/-- Every row of the table belongs to a wrapper class. -/
theorem exists_of_mem_table {row : String × String} (h : row ∈ table) :
    ∃ w : Wrapper, w.className = row.1 ∧
      ∀ arguments, w.formerType arguments = some (.object row.2) := by
  simp only [table, List.mem_cons, List.not_mem_nil, or_false] at h
  rcases h with rfl | rfl | rfl | rfl | rfl | rfl
  · exact ⟨.regularFile, rfl, fun _ => rfl⟩
  · exact ⟨.directory, rfl, fun _ => rfl⟩
  · exact ⟨.fileCollection, rfl, fun _ => rfl⟩
  · exact ⟨.map, rfl, fun _ => rfl⟩
  · exact ⟨.list, rfl, fun _ => rfl⟩
  · exact ⟨.set, rfl, fun _ => rfl⟩

end Wrapper

namespace DeclaredType

/-- A declared type has replaced another one exactly when its erasure is a wrapper class, and one of
a single value has one argument. -/
theorem exists_unwrapped_iff {declared : DeclaredType} :
    (∃ t, declared.unwrapped? = some t) ↔
      ∃ w : Wrapper, declared.erasure = .object w.className ∧
        (w = .single → declared.arguments.length = 1) := by
  constructor
  · rintro ⟨t, ht⟩
    obtain ⟨w, hw, ht⟩ := Option.bind_eq_some_iff.mp ht
    exact ⟨w, Wrapper.of?_eq_some_iff.mp hw, Wrapper.exists_formerType_iff.mp ⟨t, ht⟩⟩
  · rintro ⟨w, hw, harguments⟩
    obtain ⟨t, ht⟩ := Wrapper.exists_formerType_iff.mpr harguments
    exact ⟨t, Option.bind_eq_some_iff.mpr ⟨w, Wrapper.of?_eq_some_iff.mpr hw, ht⟩⟩

/-- A declared type has replaced the type in the row of its class, whatever its arguments are; a
property of a single value has replaced its only argument. Nothing else has replaced a type. -/
theorem unwrapped?_eq_some_iff {declared : DeclaredType} {t : ErasedType} :
    declared.unwrapped? = some t ↔
      (∃ row ∈ Wrapper.table, declared.erasure = .object row.1 ∧ t = .object row.2) ∨
        declared.erasure = .object "org.gradle.api.provider.Property" ∧
          ∃ argument, declared.arguments = [argument] ∧ t = argument.erasure := by
  have hwrapper : declared.unwrapped? = some t ↔ ∃ w : Wrapper,
      declared.erasure = .object w.className ∧ w.formerType declared.arguments = some t := by
    unfold unwrapped?
    rw [Option.bind_eq_some_iff]
    simp only [Wrapper.of?_eq_some_iff]
  rw [hwrapper]
  constructor
  · rintro ⟨w, herasure, ht⟩
    cases w with
    | single =>
      match harguments : declared.arguments, ht with
      | [argument], ht => exact .inr ⟨herasure, argument, rfl, (Option.some.inj ht).symm⟩
    | regularFile | directory | fileCollection | map | list | set =>
      obtain rfl := Option.some.inj ht
      exact .inl ⟨(_, _), by simp [Wrapper.table], herasure, rfl⟩
  · rintro (⟨row, hrow, herasure, rfl⟩ | ⟨herasure, argument, harguments, rfl⟩)
    · obtain ⟨w, hname, hformer⟩ := Wrapper.exists_of_mem_table hrow
      exact ⟨w, by rw [herasure, hname], hformer declared.arguments⟩
    · exact ⟨.single, herasure, by rw [harguments]; rfl⟩

/-- Declared types of one erasure have replaced the same type, unless it is the wrapper of a single
value. -/
theorem unwrapped?_mk_eq {erasure : ErasedType} (h : erasure ≠ .object Wrapper.single.className)
    (as bs : List DeclaredType) : (mk erasure as).unwrapped? = (mk erasure bs).unwrapped? := by
  have hsame : Wrapper.of? (mk erasure as) = Wrapper.of? (mk erasure bs) := rfl
  unfold unwrapped?
  rw [hsame]
  cases hw : Wrapper.of? (mk erasure bs) with
  | none => rfl
  | some w =>
    refine Wrapper.formerType_eq_of_ne_single ?_ as bs
    rintro rfl
    exact h (Wrapper.of?_eq_some_iff.mp hw)

/-- The declared type of a lazy property. -/
def property (t : DeclaredType) : DeclaredType := mk (.object Wrapper.single.className) [t]

/-- A lazy property of well-formed values is well-formed, unless it is nested too deep. -/
theorem WellFormed.property {t : DeclaredType} (h : t.WellFormed) (hnesting : t.nesting ≤ 254) :
    t.property.WellFormed := by
  have hclass : (ErasedType.object Wrapper.single.className).IsSpelled :=
    ⟨Wrapper.single.className, rfl⟩
  refine ⟨?_, ?_⟩
  · rw [DeclaredType.property, erasures, argumentErasures, argumentErasures, List.append_nil,
      List.forall_mem_cons]
    exact ⟨(ErasedType.isSpelled_iff _).mp hclass, h.1⟩
  · rw [DeclaredType.property, nesting, argumentNesting, argumentNesting]
    omega

/-- The spelling of a lazy property. -/
theorem spelling_property (t : DeclaredType) :
    t.property.spelling = "org.gradle.api.provider.Property<" ++ t.spelling ++ ">" := by
  rw [property, spelling, restSpelling, ← String.toList_inj]
  simp [String.toList_append, ErasedType.spelling, Wrapper.className]

end DeclaredType

/-! ## Former types -/

namespace Method

/-- The method with other arguments for the type that it is declared to return. -/
def withArguments (m : Method) (arguments : List DeclaredType) : Method :=
  { m with returnType := .mk m.returnType.erasure arguments }

/-- Without a written type there is a former type exactly when the declared type is a wrapper, with
one argument if it is that of a single value. -/
theorem exists_formerType_iff {m : Method} :
    (∃ t, m.formerType none = .ok t) ↔
      ∃ w : Wrapper, m.returnType.erasure = .object w.className ∧
        (w = .single → m.returnType.arguments.length = 1) := by
  rw [← DeclaredType.exists_unwrapped_iff, formerType]
  cases m.returnType.unwrapped? with
  | none => simp
  | some t => simp

end Method

/-- The former type of every accessor is written: on the directive, if it has no entries, and else
on each entry. -/
structure Directive.WritesTypes (directive : Directive) : Prop where
  own : directive.entries = [] → directive.formerType ≠ none
  entries : ∀ entry ∈ directive.entries, entry.formerType ≠ none

/-- A result with the code for a refusal. -/
def Refusal.coded {α : Type} (x : Except Refusal α) : Except Diagnostic.Code α :=
  x.mapError Refusal.code

open Refusal (coded)

variable {m : Method} {written : Option ErasedType} {directive : Directive}

/-- Other arguments of the declared type change the text of a refusal at most, where the type is no
wrapper of a single value or the former type is written. -/
theorem Method.coded_formerType_withArguments
    (h : m.returnType.erasure ≠ .object Wrapper.single.className ∨ written ≠ none)
    (arguments : List DeclaredType) :
    coded ((m.withArguments arguments).formerType written) = coded (m.formerType written) := by
  cases written with
  | some t => rfl
  | none =>
    have hsame : (m.withArguments arguments).returnType.unwrapped? = m.returnType.unwrapped? :=
      DeclaredType.unwrapped?_mk_eq (h.resolve_right (not_not_intro rfl)) _ m.returnType.arguments
    unfold formerType
    rw [hsame]
    cases m.returnType.unwrapped? <;> rfl

namespace Accessor

variable {m' : Method} {fallbacks : Fallbacks}

/-- An entry asks a method for the former type only. -/
theorem coded_ofEntry {entry : AccessorEntry}
    (h : coded (m'.formerType entry.formerType) = coded (m.formerType entry.formerType)) :
    coded (ofEntry m' fallbacks entry) = coded (ofEntry m fallbacks entry) := by
  unfold ofEntry
  obtain ⟨t, ht', ht⟩ | ⟨refusal', refusal, ht', ht, hcode⟩ := cases_of_mapError_eq h
  · rw [ht', ht]
  · rw [ht', ht]
    cases entry.methodName with
    | none => rfl
    | some name =>
      cases entry.value with
      | none => rfl
      | some constant =>
        cases hkind : AccessorKind.ofConstant? constant with
        | none => simp only [hkind]
        | some kind =>
          simp only [hkind]
          exact congrArg Except.error hcode

/-- What follows from a method follows from the name and the former type. -/
theorem coded_implied (hname : m'.name = m.name)
    (h : coded (m'.formerType directive.formerType) = coded (m.formerType directive.formerType))
    (kind : AccessorKind) :
    coded (implied m' directive fallbacks kind) = coded (implied m directive fallbacks kind) := by
  unfold implied impliedName
  rw [hname]
  obtain ⟨t, ht', ht⟩ | ⟨refusal', refusal, ht', ht, hcode⟩ := cases_of_mapError_eq h
  · rw [ht', ht]
  · rw [ht', ht]
    exact congrArg Except.error hcode

/-- Accessors follow from the name of a method and from former types. -/
theorem coded_ofDirective (hname : m'.name = m.name)
    (hown : directive.entries = [] →
      coded (m'.formerType directive.formerType) = coded (m.formerType directive.formerType))
    (hentries : ∀ entry ∈ directive.entries,
      coded (m'.formerType entry.formerType) = coded (m.formerType entry.formerType)) :
    coded (ofDirective m' directive fallbacks) = coded (ofDirective m directive fallbacks) := by
  unfold ofDirective coded
  split
  next hnil =>
    rw [← mapM_mapError, ← mapM_mapError]
    exact mapM_congr fun kind _ => coded_implied hname (hown hnil) kind
  next =>
    rw [← mapM_mapError, ← mapM_mapError]
    exact mapM_congr fun entry hentry => coded_ofEntry (hentries entry hentry)

end Accessor

namespace Reader

/-- Methods that differ in the arguments of the declared type alone get the same requests, or are
refused with the same code, if these arguments do not count. -/
theorem coded_requests_withArguments (r : Reader)
    (h : m.returnType.erasure ≠ .object Wrapper.single.className ∨ directive.WritesTypes)
    (arguments : List DeclaredType) :
    coded (r.requests (m.withArguments arguments) directive) = coded (r.requests m directive) := by
  have hformer {written : Option ErasedType}
      (hwritten : directive.WritesTypes → written ≠ none) :
      coded ((m.withArguments arguments).formerType written) = coded (m.formerType written) :=
    m.coded_formerType_withArguments (h.imp_right hwritten) arguments
  have haccessors :
      coded (Accessor.ofDirective (m.withArguments arguments) directive r.fallbacks) =
        coded (Accessor.ofDirective m directive r.fallbacks) :=
    Accessor.coded_ofDirective rfl (fun hnil => hformer fun hwrites => hwrites.own hnil)
      fun entry hentry => hformer fun hwrites => hwrites.entries entry hentry
  -- The requests for an accessor are made of the erasure.
  have hrequests (p : Project) (a : Accessor) :
      a.requests p (m.withArguments arguments) = a.requests p m := rfl
  unfold requests
  cases r.project with
  | none => rfl
  | some p =>
    have hshape : (m.withArguments arguments).isSimpleGetter = m.isSimpleGetter := rfl
    simp only [hshape, hrequests]
    cases m.isSimpleGetter with
    | false => rfl
    | true =>
      simp only [if_true, coded, mapError_map]
      exact congrArg _ haccessors

/-- The code of a diagnostic is that of the refusal. -/
theorem mapError_code_readMethod (r : Reader) (m : Method) (directive : Directive) :
    (r.readMethod m directive).mapError (·.code) = coded (r.requests m directive) := by
  unfold readMethod
  cases r.requests m directive <;> rfl

/-- The former type of a method that returns `Property<T>` is the erasure of `T`, for every `T` that
is well-formed and nested at most 254 deep, and whatever arguments it has itself. Without a written
type there is a former type exactly when the erasure of the declared type is one of the wrapper
classes, and that of a single value has one argument. Where it is not this wrapper, or all former
types are written, methods that differ in the arguments of the declared type alone get the same
requests, or are refused with the same code. -/
theorem formerType_of_declaration :
    (∀ t : DeclaredType, t.WellFormed → t.nesting ≤ 254 → ∃ declared,
      DeclaredType.parse ("org.gradle.api.provider.Property<" ++ t.spelling ++ ">") =
        .ok declared ∧
      ∀ m : Method, m.returnType = declared → m.formerType none = .ok t.erasure) ∧
    (∀ m : Method, (∃ t, m.formerType none = .ok t) ↔
      ∃ w : Wrapper, m.returnType.erasure = .object w.className ∧
        (w = .single → m.returnType.arguments.length = 1)) ∧
    ∀ (r : Reader) (m : Method) (arguments : List DeclaredType) (directive : Directive),
      m.returnType.erasure ≠ .object Wrapper.single.className ∨ directive.WritesTypes →
      (∃ requests, r.readMethod (m.withArguments arguments) directive = .ok requests ∧
        r.readMethod m directive = .ok requests) ∨
      ∃ d d', r.readMethod (m.withArguments arguments) directive = .error d ∧
        r.readMethod m directive = .error d' ∧ d.code = d'.code := by
  refine ⟨fun t ht hnesting => ?_, fun m => Method.exists_formerType_iff,
    fun r m arguments directive h => ?_⟩
  · refine ⟨t.property, ?_, fun m hm => ?_⟩
    · rw [← t.spelling_property]
      exact (ht.property hnesting).parse_spelling
    · rw [Method.formerType, hm]
      rfl
  · have hcodes := r.coded_requests_withArguments h arguments
    rw [← mapError_code_readMethod, ← mapError_code_readMethod] at hcodes
    exact cases_of_mapError_eq hcodes

/-- A map from strings to lists of files. -/
def fileLists : DeclaredType :=
  .mk (.object "java.util.Map") [.raw (.object "java.lang.String"),
    .mk (.object "java.util.List") [.raw (.object "java.io.File")]]

/-- The former type of a property of such maps is the map. Where `int` is written for the former
type of a property of strings, it does not count that the strings are left out. -/
theorem formerType_of_declaration_title :
    fileLists.WellFormed ∧ fileLists.nesting = 2 ∧
    (∃ declared, DeclaredType.parse ("org.gradle.api.provider.Property<java.util.Map<" ++
        "java.lang.String, java.util.List<java.io.File>>>") = .ok declared ∧
      { titleMethod with returnType := declared }.formerType none =
        .ok (.object "java.util.Map")) ∧
    (typeDirective (.keyword .int)).WritesTypes ∧ ∃ requests, requests.length = 3 ∧
      coreReader.readMethod (titleMethod.withArguments []) (typeDirective (.keyword .int)) =
        .ok requests ∧
      coreReader.readMethod titleMethod (typeDirective (.keyword .int)) = .ok requests := by
  have hwf : fileLists.WellFormed :=
    DeclaredType.wellFormed_of_parse (s := fileLists.spelling) (by decide +kernel)
  have hwrites : (typeDirective (.keyword .int)).WritesTypes := ⟨fun _ => by decide, nofun⟩
  have hok : coreReader.readMethod titleMethod (typeDirective (.keyword .int)) =
      .ok ((titleAccessors (.keyword .int)).flatMap
        (·.requests ⟨"core", by decide⟩ titleMethod)) := rfl
  obtain ⟨hproperty, -, hsame⟩ := formerType_of_declaration
  refine ⟨hwf, by decide, ?_, hwrites, ?_⟩
  · obtain ⟨declared, hparse, hformer⟩ := hproperty fileLists hwf (by decide)
    have hspelling : "org.gradle.api.provider.Property<" ++ fileLists.spelling ++ ">" =
        "org.gradle.api.provider.Property<java.util.Map<" ++
          "java.lang.String, java.util.List<java.io.File>>>" := by decide +kernel
    exact ⟨declared, hspelling ▸ hparse, hformer { titleMethod with returnType := declared } rfl⟩
  · obtain ⟨requests, hother, hread⟩ | ⟨d, d', -, hrefused, -⟩ :=
      hsame coreReader titleMethod [] (typeDirective (.keyword .int)) (.inr hwrites)
    · obtain rfl := Except.ok.inj (hok.symm.trans hread)
      exact ⟨_, rfl, hother, hread⟩
    · exact absurd (hok.symm.trans hrefused) nofun

end Reader

end AccessorUpgrade
