import AccessorUpgrade.Reader
import Mathlib.Data.List.Forall2

/-!
# Methods are read one by one

Reading many methods is reading each of them. The outcomes are those of the marked methods in their
order, each of which is the same whatever stands before and after the method, and whatever becomes
of that (`Reader.readAll_independent`). So methods may be read in groups of any size.
-/

namespace AccessorUpgrade

/-- Whether a method is marked as upgraded. -/
def MarkedMethod.isMarked (m : MarkedMethod) : Bool := m.directive.isSome

/-- The outcome is that of reading the method alone, under the method's signature. -/
structure Outcome.Answers (r : Reader) (m : MarkedMethod) (o : Outcome) : Prop where
  method : o.method = m.method.qualifiedSignature
  result : r.read m = some o.result

/-- The method is refused at its own site for want of a project. -/
def Outcome.LacksProject (m : MarkedMethod) (o : Outcome) : Prop :=
  o.result = .error ⟨.missingProjectContext, Refusal.noProject.message, some m.method.site⟩

namespace Reader

variable (r : Reader) (xs ys : List MarkedMethod)

/-- The first method has no outcome if it is not marked. -/
theorem readAll_cons_unmarked (m : Method) : r.readAll (⟨m, none⟩ :: xs) = r.readAll xs := rfl

/-- The outcome of the first method, if it is marked, comes before those of the others. -/
theorem readAll_cons_marked (m : Method) (directive : Directive) :
    r.readAll (⟨m, some directive⟩ :: xs) =
      ⟨m.qualifiedSignature, r.readMethod m directive⟩ :: r.readAll xs := rfl

/-- Methods may be read in two groups. -/
theorem readAll_append : r.readAll (xs ++ ys) = r.readAll xs ++ r.readAll ys :=
  List.filterMap_append

/-- Methods may be read in groups. -/
theorem readAll_flatten (groups : List (List MarkedMethod)) :
    r.readAll groups.flatten = groups.flatMap r.readAll := by
  induction groups with
  | nil => rfl
  | cons group groups ih => rw [List.flatten_cons, readAll_append, ih, List.flatMap_cons]

/-- The outcomes belong to the marked methods, one by one and in their order. -/
theorem forall₂_readAll {holds : MarkedMethod → Outcome → Prop}
    (h : ∀ (m : Method) (directive : Directive),
      holds ⟨m, some directive⟩ ⟨m.qualifiedSignature, r.readMethod m directive⟩) :
    List.Forall₂ holds (xs.filter (·.isMarked)) (r.readAll xs) := by
  induction xs with
  | nil => exact .nil
  | cons marked xs ih =>
    obtain ⟨m, directive⟩ := marked
    cases directive with
    | none => exact ih
    | some directive => exact .cons (h m directive) ih

/-- Reading methods one after the other is reading each of them alone. Two groups of methods have
the outcomes of the one and then those of the other. The outcomes belong to the marked methods, one
by one and in their order, and each is that of reading the method alone. Whatever methods stand
around, and whatever becomes of them, a method without a mark does not change the outcomes, and one
with a mark adds its own in its place. Without a project all marked methods are refused for want of
it, whatever they look like. -/
theorem readAll_independent :
    r.readAll (xs ++ ys) = r.readAll xs ++ r.readAll ys ∧
    (∀ groups : List (List MarkedMethod), r.readAll groups.flatten = groups.flatMap r.readAll) ∧
    List.Forall₂ (Outcome.Answers r) (xs.filter (·.isMarked)) (r.readAll xs) ∧
    (∀ m, r.readAll (xs ++ ⟨m, none⟩ :: ys) = r.readAll (xs ++ ys)) ∧
    (∀ m directive, r.readAll (xs ++ ⟨m, some directive⟩ :: ys) =
      r.readAll xs ++ ⟨m.qualifiedSignature, r.readMethod m directive⟩ :: r.readAll ys) ∧
    ∀ fallbacks, List.Forall₂ Outcome.LacksProject (xs.filter (·.isMarked))
      (Reader.readAll ⟨none, fallbacks⟩ xs) := by
  refine ⟨r.readAll_append xs ys, r.readAll_flatten,
    r.forall₂_readAll xs fun m directive => ⟨rfl, rfl⟩, fun m => ?_, fun m directive => ?_,
    fun fallbacks => Reader.forall₂_readAll _ xs fun m directive => rfl⟩
  · rw [readAll_append, readAll_cons_unmarked, readAll_append]
  · rw [readAll_append, readAll_cons_marked]

end Reader
end AccessorUpgrade
