import AccessorUpgrade.Proofs.Reader.Checks

/-!
# The first failing check decides

A method is accepted when it passes all checks of the reader, and refused for the first one that it
fails (`Reader.readMethod_first_failure`). The order is spread over the functions that read a
method: each has one lemma here that names the checks which decide its result. A function that calls
another cites the lemma of the other, so none of the proofs looks into two functions at once.
-/

namespace AccessorUpgrade

variable {r : Reader} {m : Method} {α : Type}

/-! ## Attributes -/

namespace ErasedType

/-- A former type is meant when it is written and not the mark. -/
theorem meant_eq_some_iff {written : Option ErasedType} {t : ErasedType} :
    meant written = some t ↔ written = some t ∧ t.isDefaultMarker = false := by
  rw [meant, Option.filter_eq_some_iff]
  simp

/-- No former type is meant when none is written, or only the mark. -/
theorem meant_eq_none_iff {written : Option ErasedType} :
    meant written = none ↔ ∀ t ∈ written, t.isDefaultMarker = true := by
  rw [meant, Option.filter_eq_none_iff]
  simp

end ErasedType

namespace AccessorKind

/-- The constant of a kind names that kind. -/
theorem ofConstant?_constant (kind : AccessorKind) : ofConstant? kind.constant = some kind := by
  cases kind <;> rfl

/-- Only its own constant names a kind. -/
theorem ofConstant?_eq_some_iff {constant : String} {kind : AccessorKind} :
    ofConstant? constant = some kind ↔ constant = kind.constant := by
  constructor
  · intro h
    unfold ofConstant? at h
    split at h
    next hget => rw [← Option.some.inj h, eq_of_beq hget]
    next =>
      split at h
      next hset => rw [← Option.some.inj h, eq_of_beq hset]
      next => contradiction
  · rintro rfl
    exact ofConstant?_constant kind

/-- A constant names a kind when it is one of the two constants. -/
theorem ofConstant?_eq_none_iff {constant : String} :
    ofConstant? constant = none ↔ ¬(constant = "GETTER" ∨ constant = "SETTER") := by
  simp only [Option.eq_none_iff_forall_ne_some, ne_eq, ofConstant?_eq_some_iff, not_or]
  constructor
  · intro h
    exact ⟨h .getter, h .setter⟩
  · rintro ⟨hget, hset⟩ kind
    cases kind with
    | getter => exact hget
    | setter => exact hset

end AccessorKind

namespace Decided

/-- Whether there is a former type depends on the attribute, then on the declared return type. -/
theorem formerType (written : Option ErasedType) :
    Decided r m [.formerType written] (m.formerType (ErasedType.meant written)) := by
  unfold Method.formerType
  split
  · next t ht =>
    rw [ErasedType.meant_eq_some_iff] at ht
    refine pass t fun c hc => ?_
    rw [List.mem_singleton.mp hc]
    exact .inl ⟨t, ht⟩
  · next hnone =>
    rw [ErasedType.meant_eq_none_iff] at hnone
    split
    · next t ht =>
      refine pass t fun c hc => ?_
      rw [List.mem_singleton.mp hc]
      exact .inr (by simp [ht])
    · next hreturn =>
      refine of_not_passes ?_
      rintro (⟨t, ht, hmark⟩ | h)
      · rw [hnone t ht] at hmark
        contradiction
      · exact h hreturn

/-- Whether setters are known to be fluent or not depends on what is written, then on what is
declared. -/
theorem fluency (written fallback : Option Bool) :
    Decided r m [.fluency written fallback] (Accessor.fluency written fallback) := by
  unfold Accessor.fluency
  split
  · next fluent hfluent =>
    refine pass fluent fun c hc => ?_
    rw [List.mem_singleton.mp hc]
    cases written with
    | some b => exact .inl (by simp)
    | none => exact .inr (by simp_all)
  · next hnone =>
    obtain ⟨hwritten, hfallback⟩ := Option.or_eq_none_iff.mp hnone
    refine of_not_passes ?_
    rintro (h | h)
    · exact h hwritten
    · exact h hfallback

/-- Whatever is made of a former type and the fluency of setters, the former type is looked for
first. -/
theorem formerType_fluency (attr : Option ErasedType) (written fallback : Option Bool)
    (make : ErasedType → Bool → α) :
    Decided r m [.formerType attr, .fluency written fallback]
      (match m.formerType (ErasedType.meant attr) with
      | .error refusal => .error refusal
      | .ok t =>
        match Accessor.fluency written fallback with
        | .error refusal => .error refusal
        | .ok fluent => .ok (make t fluent)) := by
  have h : Decided r m [.formerType attr, .fluency written fallback]
      (m.formerType (ErasedType.meant attr) >>= fun t =>
        (Accessor.fluency written fallback).map (make t)) :=
    (formerType attr).bind fun t _ => (fluency written fallback).map (make t)
  cases hformer : m.formerType (ErasedType.meant attr) with
  | error refusal =>
    rw [hformer] at h
    exact h
  | ok t =>
    rw [hformer] at h
    cases hfluency : Accessor.fluency written fallback with
    | error refusal =>
      rw [hfluency] at h
      exact h
    | ok fluent =>
      rw [hfluency] at h
      exact h

/-! ## Accessors -/

/-- An entry is read by its own checks. -/
theorem ofEntry (fallbacks : Fallbacks) (entry : AccessorEntry) :
    Decided r m (Check.ofEntry fallbacks entry) (Accessor.ofEntry m fallbacks entry) := by
  unfold Accessor.ofEntry
  split
  · next hname => exact of_not_passes (c := .methodName entry) (by simp [Check.Passes, hname])
  · next name hname =>
    -- From here on each check that passes leaves the match on what was checked to the next one.
    refine cons (by simp [Check.Passes, hname]) ?_
    split
    · next hvalue => exact of_not_passes (c := .value entry) (by simp [Check.Passes, hvalue])
    · next constant hvalue =>
      refine cons (by simp [Check.Passes, hvalue]) ?_
      split
      · next hkind =>
        have hfails : ¬(Check.kind entry).Passes r m := by
          simpa [Check.Passes, hvalue] using AccessorKind.ofConstant?_eq_none_iff.mp hkind
        have hrefusal : (Check.kind entry).refusal m = .unsupportedKind constant := by
          rw [Check.refusal, hvalue, Option.getD_some]
        rw [← hrefusal]
        exact of_not_passes hfails
      · next kind hkind =>
        refine cons ?_ (formerType_fluency _ _ _ fun t fluent => Accessor.mk kind name t fluent)
        have hsome : AccessorKind.ofConstant? constant ≠ none := by simp [hkind]
        rw [ne_eq, AccessorKind.ofConstant?_eq_none_iff, Classical.not_not] at hsome
        simpa [Check.Passes, hvalue] using hsome

/-- An implied accessor is read by the attributes of the directive, whichever its kind. -/
theorem implied (directive : Directive) (fallbacks : Fallbacks) (kind : AccessorKind) :
    Decided r m
      [.formerType directive.typeAttribute,
        .fluency directive.fluentSetter fallbacks.directiveFluentSetter]
      (Accessor.implied m directive fallbacks kind) :=
  formerType_fluency _ _ _ fun t fluent => Accessor.mk kind (Accessor.impliedName m t kind) t fluent

/-- The accessors of a method are read by the checks of its directive. -/
theorem ofDirective (directive : Directive) (fallbacks : Fallbacks) :
    Decided r m (Check.ofDirective fallbacks directive)
      (Accessor.ofDirective m directive fallbacks) := by
  unfold Accessor.ofDirective Check.ofDirective
  cases directive.entries with
  | nil =>
    -- Both accessors look at the same attributes.
    refine (implied directive fallbacks .getter).again fun getter => ?_
    exact (implied directive fallbacks .setter).map fun setter => [getter, setter]
  | cons entry entries => exact mapM (ofEntry fallbacks) (entry :: entries)

/-! ## Methods -/

/-- Methods are read by the checks of the reader. -/
theorem requests (r : Reader) (m : Method) (directive : Directive) :
    Decided r m (r.checks directive) (r.requests m directive) := by
  unfold Reader.requests
  split
  · next hproject => exact of_not_passes (c := .project) (by simp [Check.Passes, hproject])
  · next p hproject =>
    refine cons (by simp [Check.Passes, hproject]) ?_
    split
    · next hshape =>
      exact cons (Method.isSimpleGetter_iff.mp hshape) ((ofDirective _ _).map _)
    · next hshape =>
      exact of_not_passes (c := .shape) fun h => hshape (Method.isSimpleGetter_iff.mpr h)

end Decided

namespace Reader

/-- The requests for a method are those for its accessors, in the project of the reader. -/
theorem exists_of_requests {directive : Directive} {requests : List Request}
    (h : r.requests m directive = .ok requests) :
    ∃ p accessors, r.project = some p ∧ m.isSimpleGetter = true ∧
      Accessor.ofDirective m directive r.fallbacks = .ok accessors ∧
      requests = accessors.flatMap (·.requests p m) := by
  unfold Reader.requests at h
  split at h
  · cases h
  next p hproject =>
    split at h
    next hshape =>
      cases haccessors : Accessor.ofDirective m directive r.fallbacks with
      | error refusal => simp [haccessors, Except.map] at h
      | ok accessors =>
        rw [haccessors] at h
        exact ⟨p, accessors, hproject, hshape, rfl, (Except.ok.inj h).symm⟩
    · cases h

/-- Requests are handed on as they are. -/
theorem readMethod_of_ok {directive : Directive} {requests : List Request}
    (h : r.requests m directive = .ok requests) : r.readMethod m directive = .ok requests := by
  rw [readMethod, h]
  rfl

/-- A refusal is reported at the site of the method. -/
theorem readMethod_of_error {directive : Directive} {refusal : Refusal}
    (h : r.requests m directive = .error refusal) :
    r.readMethod m directive = .error (refusal.diagnostic m.site) := by
  rw [readMethod, h]
  rfl

/-- Requests are handed on from where they are made. -/
theorem requests_of_readMethod {directive : Directive} {requests : List Request}
    (h : r.readMethod m directive = .ok requests) : r.requests m directive = .ok requests := by
  cases hrequests : r.requests m directive with
  | error refusal =>
    rw [readMethod_of_error hrequests] at h
    cases h
  | ok requests' =>
    rw [readMethod_of_ok hrequests] at h
    rw [Except.ok.inj h]

/-- What is reported of a check is the diagnostic of its refusal. -/
theorem diagnostic_refusal (m : Method) (c : Check) :
    (c.refusal m).diagnostic m.site = c.diagnostic m := by
  rw [Refusal.diagnostic, Check.code_refusal, Check.diagnostic]

/-- A method is accepted exactly when it passes all checks. Else it is refused with one diagnostic:
that of the first check in their order which it fails, at its own site. -/
theorem readMethod_first_failure (r : Reader) (m : Method) (directive : Directive) :
    ((∃ requests, r.readMethod m directive = .ok requests) ↔
      ∀ c ∈ r.checks directive, c.Passes r m) ∧
    ∀ diagnostic, r.readMethod m directive = .error diagnostic ↔
      ∃ before c after, r.checks directive = before ++ c :: after ∧
        (∀ b ∈ before, b.Passes r m) ∧ ¬c.Passes r m ∧ diagnostic = c.diagnostic m := by
  have hdecided := Decided.requests r m directive
  rw [← hdecided.ok_iff]
  cases hread : r.requests m directive with
  | ok requests =>
    rw [readMethod_of_ok hread]
    refine ⟨by simp, fun diagnostic => ?_⟩
    refine iff_of_false (by simp) ?_
    rintro ⟨before, c, after, hcs, hbefore, hc, -⟩
    have herror := (hdecided.error_iff (c.refusal m)).mpr ⟨before, c, after, hcs, hbefore, hc, rfl⟩
    rw [hread] at herror
    contradiction
  | error refusal =>
    rw [readMethod_of_error hread]
    refine ⟨by simp, fun diagnostic => ?_⟩
    rw [Except.error.injEq]
    constructor
    · rintro rfl
      obtain ⟨before, c, after, hcs, hbefore, hc, rfl⟩ := (hdecided.error_iff _).mp hread
      exact ⟨before, c, after, hcs, hbefore, hc, diagnostic_refusal m c⟩
    · rintro ⟨before, c, after, hcs, hbefore, hc, rfl⟩
      have herror := (hdecided.error_iff _).mpr ⟨before, c, after, hcs, hbefore, hc, rfl⟩
      rw [← diagnostic_refusal, Except.error.inj (hread.symm.trans herror)]

end Reader
end AccessorUpgrade
