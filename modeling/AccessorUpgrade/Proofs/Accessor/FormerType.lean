import AccessorUpgrade.Proofs.Format.Method
import AccessorUpgrade.Proofs.Reader.Decision

/-!
# Where former types come from

The former type of an accessor is written on an entry or on the directive, is an erased type
argument of the method's declared type, or stands in the table of wrapper classes. If all types of
the method and its directive have a spelling, so has each former type
(`Accessor.isSpelled_of_ofDirective`).
-/

namespace AccessorUpgrade

namespace DeclaredType

/-- The erasure of a type argument is one of the erased types in the arguments. -/
theorem erasure_mem_argumentErasures {arguments : List DeclaredType} {argument : DeclaredType}
    (h : argument ∈ arguments) : argument.erasure ∈ argumentErasures arguments := by
  induction arguments with
  | nil => cases h
  | cons first rest ih =>
    rw [argumentErasures]
    obtain rfl | hrest := List.mem_cons.mp h
    · obtain ⟨erasure, arguments⟩ := argument
      exact List.mem_append_left _ List.mem_cons_self
    · exact List.mem_append_right _ (ih hrest)

/-- The erasures of the arguments of a type that has a spelling have one too. -/
theorem IsSpelled.erasure_argument {t argument : DeclaredType} (h : t.IsSpelled)
    (hargument : argument ∈ t.arguments) : argument.erasure.IsSpelled := by
  obtain ⟨s, hs⟩ := h
  obtain ⟨erasure, arguments⟩ := t
  have hmem : argument.erasure ∈ (mk erasure arguments).erasures :=
    List.mem_cons_of_mem _ (erasure_mem_argumentErasures hargument)
  exact (ErasedType.isSpelled_iff _).mpr ((wellFormed_of_parse hs).1 _ hmem)

end DeclaredType

/-- The type that a wrapper stands for has a spelling if the type argument has. -/
theorem Wrapper.isSpelled_formerType {wrapper : Wrapper} {arguments : List DeclaredType}
    (harguments : ∀ argument ∈ arguments, argument.erasure.IsSpelled) {t : ErasedType}
    (h : wrapper.formerType arguments = some t) : t.IsSpelled := by
  cases wrapper with
  | single =>
    match arguments, h with
    | [argument], h => exact Option.some.inj h ▸ harguments argument List.mem_cons_self
  | regularFile | directory => exact Option.some.inj h ▸ ⟨"java.io.File", rfl⟩
  | fileCollection => exact Option.some.inj h ▸ ⟨"org.gradle.api.file.FileCollection", rfl⟩
  | map => exact Option.some.inj h ▸ ⟨"java.util.Map", rfl⟩
  | list => exact Option.some.inj h ▸ ⟨"java.util.List", rfl⟩
  | set => exact Option.some.inj h ▸ ⟨"java.util.Set", rfl⟩

variable {m : Method} {directive : Directive} {fallbacks : Fallbacks}

/-- The former type of a property has a spelling, whether it is written or follows from the method's
declared type. -/
theorem Method.IsSpelled.formerType (hm : m.IsSpelled) {written : Option ErasedType}
    (hwritten : ∀ t ∈ written, t.IsSpelled) {t : ErasedType} (h : m.formerType written = .ok t) :
    t.IsSpelled := by
  cases written with
  | some t' => exact Except.ok.inj h ▸ hwritten t' rfl
  | none =>
    cases hunwrapped : m.returnType.unwrapped? with
    | none => simp [Method.formerType, hunwrapped] at h
    | some t' =>
      obtain rfl : t' = t := by
        simpa [Method.formerType, hunwrapped] using h
      obtain ⟨wrapper, -, hformer⟩ := Option.bind_eq_some_iff.mp hunwrapped
      exact Wrapper.isSpelled_formerType
        (fun _ hargument => hm.returnType.erasure_argument hargument) hformer

/-- A former type attribute as it is meant has a spelling if it has one as it is written. -/
theorem ErasedType.isSpelled_meant {written : Option ErasedType}
    (h : ∀ t ∈ written, t.IsSpelled) : ∀ t ∈ meant written, t.IsSpelled :=
  fun t ht => h t (meant_eq_some_iff.mp ht).1

/-! ## Accessors -/

namespace Accessor

variable {a : Accessor}

/-- An entry declares an accessor when the kind and the method name are written, and the former type
and the fluency are known. -/
theorem ofEntry_eq_ok_iff {entry : AccessorEntry} :
    ofEntry m fallbacks entry = .ok a ↔
      entry.methodName = some a.methodName ∧ entry.value = some a.kind.constant ∧
        m.formerType entry.formerType = .ok a.formerType ∧
        fluency entry.fluentSetter fallbacks.entryFluentSetter = .ok a.fluentSetter := by
  constructor
  · intro h
    unfold ofEntry at h
    split at h
    next => contradiction
    next name hname =>
      split at h
      next => contradiction
      next constant hvalue =>
        split at h
        next => contradiction
        next kind hkind =>
          split at h
          next => contradiction
          next t ht =>
            split at h
            next => contradiction
            next fluent hfluent =>
              obtain rfl := Except.ok.inj h
              rw [AccessorKind.ofConstant?_eq_some_iff] at hkind
              exact ⟨hname, by rw [hvalue, hkind], ht, hfluent⟩
  · rintro ⟨hname, hvalue, ht, hfluent⟩
    unfold ofEntry
    simp only [hname, hvalue, AccessorKind.ofConstant?_constant, ht, hfluent]

/-- The former type of an accessor that follows from a method is that of the method's property. -/
theorem formerType_of_implied {kind : AccessorKind}
    (h : implied m directive fallbacks kind = .ok a) :
    m.formerType directive.formerType = .ok a.formerType := by
  unfold implied at h
  split at h
  · cases h
  · split at h
    · cases h
    · obtain rfl := Except.ok.inj h
      assumption

/-- The accessors of a directive with entries are those that its entries declare. -/
theorem ofDirective_of_entries (m : Method) (fallbacks : Fallbacks) {directive : Directive}
    (h : directive.entries ≠ []) :
    ofDirective m directive fallbacks = directive.entries.mapM (ofEntry m fallbacks) := by
  unfold ofDirective
  split
  next hnil => exact absurd hnil h
  next => rfl

/-- The former types of all accessors that a method has replaced have a spelling. -/
theorem isSpelled_of_ofDirective (hm : m.IsSpelled) (hdirective : directive.IsSpelled)
    {accessors : List Accessor} (h : ofDirective m directive fallbacks = .ok accessors) :
    ∀ a ∈ accessors, a.formerType.IsSpelled := by
  intro a ha
  rw [ofDirective] at h
  split at h
  next =>
    obtain ⟨kind, -, hkind⟩ := exists_mem_of_mapM h a ha
    exact hm.formerType (ErasedType.isSpelled_meant hdirective.typeAttribute)
      (formerType_of_implied hkind)
  next =>
    obtain ⟨entry, hentry, haccessor⟩ := exists_mem_of_mapM h a ha
    exact hm.formerType (ErasedType.isSpelled_meant (hdirective.entries entry hentry))
      (ofEntry_eq_ok_iff.mp haccessor).2.2.1

end Accessor

end AccessorUpgrade
