import AccessorUpgrade.Batch
import AccessorUpgrade.Format.Outcome
import AccessorUpgrade.Proofs.Format.Record

/-!
# Exact formats of methods and directives

The formats of all that a batch consists of are exact on the values whose types have a spelling. A
format is put together from fields, and so is its proof: first the fields, then that the values of
all fields are valid just when the record is.
-/

namespace AccessorUpgrade

open Format

variable {depth : Nat}

/-- All sites are kept. -/
theorem Site.exact : Site.format.Exact (depth + 1) fun _ => True := by
  refine Fields.Exact.record
    (.cons (.optional string_exact nofun) <|
      .cons (.withDefault word_exact trivial) <|
      .cons (.withDefault word_exact trivial) .nil)
    (by decide) (fun _ => rfl) (fun _ => rfl) fun site => ?_
  simp

/-- A parameter is kept if its type has a spelling. -/
theorem Parameter.exact : Parameter.format.Exact (depth + 1) fun p => p.type.IsSpelled := by
  refine Fields.Exact.record
    (.cons (.required string_exact) <|
      .cons (.required DeclaredType.exact) .nil)
    (by decide) (fun _ => rfl) (fun _ => rfl) fun p => ?_
  simp

/-- Whether all types of a method have a spelling. -/
structure Method.IsSpelled (m : Method) : Prop where
  owner : m.owner.IsSpelled
  parameters : ∀ p ∈ m.parameters, p.type.IsSpelled
  returnType : m.returnType.IsSpelled

/-- A method is kept if its types have a spelling. -/
theorem Method.exact : Method.format.Exact (depth + 3) Method.IsSpelled := by
  refine Fields.Exact.record
    (.cons (.required ErasedType.exact) <|
      .cons (.required string_exact) <|
      .cons (.withDefault Parameter.exact.list (by simp)) <|
      .cons (.required DeclaredType.exact) <|
      .cons (.withDefault Site.exact trivial) .nil)
    (by decide) (fun _ => rfl) (fun _ => rfl) fun m => ⟨?_, fun h => ?_⟩
  · rintro ⟨howner, -, hparameters, hreturnType, -⟩
    exact ⟨howner, hparameters, hreturnType⟩
  · exact ⟨h.owner, trivial, h.parameters, h.returnType, trivial, trivial⟩

/-- Both kinds of accessors are kept. -/
theorem AccessorKind.exact : AccessorKind.format.Exact depth fun _ => True :=
  constants_exact fun kind => by cases kind <;> rfl

/-- Whether the type that an entry names, if it does, has a spelling. -/
def AccessorEntry.IsSpelled (e : AccessorEntry) : Prop := ∀ t ∈ e.typeAttribute, t.IsSpelled

/-- An entry is kept if its type has a spelling. -/
theorem AccessorEntry.exact : AccessorEntry.format.Exact (depth + 1) AccessorEntry.IsSpelled := by
  refine Fields.Exact.record
    (.cons (.optional string_exact nofun) <|
      .cons (.optional string_exact nofun) <|
      .cons (.optional ErasedType.exact nofun) <|
      .cons (.optional boolean_exact nofun) .nil)
    (by decide) (fun _ => rfl) (fun _ => rfl) fun e => ?_
  simp [AccessorEntry.IsSpelled]

/-- Whether all types that a directive names have a spelling. -/
structure Directive.IsSpelled (d : Directive) : Prop where
  entries : ∀ e ∈ d.entries, e.IsSpelled
  typeAttribute : ∀ t ∈ d.typeAttribute, t.IsSpelled

/-- A directive is kept if its types have a spelling. -/
theorem Directive.exact : Directive.format.Exact (depth + 3) Directive.IsSpelled := by
  refine Fields.Exact.record
    (.cons (.optionalList AccessorEntry.exact) <|
      .cons (.optional ErasedType.exact nofun) <|
      .cons (.optional boolean_exact nofun) .nil)
    (by decide) (fun _ => rfl) (fun _ => rfl) fun d => ⟨?_, fun h => ?_⟩
  · rintro ⟨hentries, htype, -⟩
    exact ⟨hentries, htype⟩
  · exact ⟨h.entries, h.typeAttribute, by simp, trivial⟩

/-- All fallbacks are kept. -/
theorem Fallbacks.exact : Fallbacks.format.Exact (depth + 1) fun _ => True := by
  refine Fields.Exact.record
    (.cons (.nullable boolean_exact nofun) <|
      .cons (.nullable boolean_exact nofun) .nil)
    (by decide) (fun _ => rfl) (fun _ => rfl) fun f => ?_
  simp

/-- Whether all types of a method and of its directive have a spelling. -/
structure MarkedMethod.IsSpelled (m : MarkedMethod) : Prop where
  method : m.method.IsSpelled
  directive : ∀ d ∈ m.directive, d.IsSpelled

/-- A marked method is kept if its types have a spelling. -/
theorem MarkedMethod.exact : MarkedMethod.format.Exact (depth + 4) MarkedMethod.IsSpelled := by
  refine Fields.Exact.record
    (.cons (.required Method.exact) <|
      .cons (.optional Directive.exact (Fields.format_ne_null _ _)) .nil)
    (by decide) (fun _ => rfl) (fun _ => rfl) fun m => ⟨?_, fun h => ?_⟩
  · rintro ⟨hmethod, hdirective, -⟩
    exact ⟨hmethod, hdirective⟩
  · exact ⟨h.method, h.directive, trivial⟩

/-- A batch is kept if the types of all its methods have a spelling. -/
theorem Batch.exact : Batch.format.Exact (depth + 6) fun b => ∀ m ∈ b.methods, m.IsSpelled := by
  refine Fields.Exact.record (.cons (.withDefault MarkedMethod.exact.list (by simp)) .nil)
    (by decide) (fun _ => rfl) (fun _ => rfl) fun b => ?_
  simp

end AccessorUpgrade
