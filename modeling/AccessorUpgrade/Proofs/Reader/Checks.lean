import AccessorUpgrade.Reader

/-!
# What decides the reading of a method

A method is accepted when it passes a list of checks, and refused for the first check of the list
that it fails. The list depends on the directive: with entries, each entry is checked in turn;
without, the attributes of the directive are. What is reported of a failure is documented in
sections E4 and E5 of the specification, word for word (`Check.diagnostic_documented`).

`Decided` says of any result that a list of checks decides it. Results that are computed one after
the other are decided by their checks one after the other (`Decided.bind`, `Decided.mapM`).
-/

namespace AccessorUpgrade

/-- What is checked before a method is accepted. Type attributes are as they are written, mark
included. -/
inductive Check where
  | project
  | shape
  | methodName (entry : AccessorEntry)
  | value (entry : AccessorEntry)
  | kind (entry : AccessorEntry)
  | formerType (written : Option ErasedType)
  | fluency (written fallback : Option Bool)

namespace Check

/-- What a method has to meet. A constant that is not written is no fault of its kind. -/
def Passes (r : Reader) (m : Method) : Check → Prop
  | project => r.project ≠ none
  | shape => m.parameters = [] ∧ ['g', 'e', 't'] <+: m.name.toList
  | methodName entry => entry.methodName ≠ none
  | value entry => entry.value ≠ none
  | kind entry => ∀ constant ∈ entry.value, constant = "GETTER" ∨ constant = "SETTER"
  | formerType written =>
    (∃ t ∈ written, t.isDefaultMarker = false) ∨ m.returnType.unwrapped? ≠ none
  | fluency written fallback => written ≠ none ∨ fallback ≠ none

/-- Why a method that fails the check is refused. -/
def refusal (m : Method) : Check → Refusal
  | project => .noProject
  | shape => .notSimpleGetter m.qualifiedSignature
  | methodName _ => .missing .methodName
  | value _ => .missing .value
  | kind entry => .unsupportedKind (entry.value.getD "")
  | formerType _ => .unresolved m.qualifiedSignature m.returnType.spelling
  | fluency _ _ => .missing .fluentSetter

/-- The code that a failure is reported with. -/
def code : Check → Diagnostic.Code
  | project => .missingProjectContext
  | shape => .invalidAccessorShape
  | methodName _ | value _ | fluency _ _ => .missingAttribute
  | kind _ => .unsupportedAccessorKind
  | formerType _ => .unresolvedFormerType

/-- What is reported of a method that fails the check: the code, the message, and the site of the
method. -/
def diagnostic (m : Method) (c : Check) : Diagnostic :=
  ⟨c.code, (c.refusal m).message, some m.site⟩

/-- The checks of an entry, in their order. -/
def ofEntry (fallbacks : Fallbacks) (entry : AccessorEntry) : List Check :=
  [methodName entry, value entry, kind entry, formerType entry.typeAttribute,
    fluency entry.fluentSetter fallbacks.entryFluentSetter]

/-- The checks of a directive: those of its entries, or of its own attributes if it has none. -/
def ofDirective (fallbacks : Fallbacks) (directive : Directive) : List Check :=
  match directive.entries with
  | [] =>
    [formerType directive.typeAttribute,
      fluency directive.fluentSetter fallbacks.directiveFluentSetter]
  | entries => entries.flatMap (ofEntry fallbacks)

/-- The code of a failure is that of its refusal. -/
theorem code_refusal (m : Method) (c : Check) : (c.refusal m).code = c.code := by
  cases c <;> rfl

/-- The code that is documented for a failure of the check, as it is shown to users. -/
def documentedLabel : Check → String
  | project => "E_PROPSHIM_MISSING_PROJECT_CONTEXT"
  | shape => "E_PROPSHIM_INVALID_ACCESSOR_SHAPE"
  | methodName _ | value _ | fluency _ _ => "E_PROPSHIM_MISSING_ATTRIBUTE"
  | kind _ => "E_PROPSHIM_UNSUPPORTED_ACCESSOR_KIND"
  | formerType _ => "E_PROPSHIM_UNRESOLVED_ORIGINAL_TYPE"

/-- The message that is documented for a failure of the check, with the method's own data in it. -/
def documentedMessage (m : Method) : Check → String
  | project =>
    "Project name is not specified or is empty. Use --project-name=<projectName> or " ++
      "PROPSHIM_PROJECT_NAME to set the project name."
  | shape =>
    "Method '" ++ m.owner.spelling ++ "." ++ m.signature ++
      "' annotated with @UpgradedProperty should be a simple getter: " ++
      "name should start with 'get' and method should not have any parameters."
  | methodName _ => "Missing 'methodName' attribute in @UpgradedAccessor"
  | value _ => "Missing 'value' attribute in @UpgradedAccessor"
  | kind entry => "Unsupported accessor type: " ++ entry.value.getD ""
  | formerType _ =>
    "Cannot extract original type for method '" ++ m.owner.spelling ++ "." ++ m.signature ++ ": " ++
      m.returnType.spelling ++ "'. Use explicit @UpgradedProperty#originalType instead."
  | fluency _ _ => "Missing 'fluentSetter' attribute"

/-- What is reported of a failure is what is documented for the check. -/
theorem diagnostic_documented (m : Method) (c : Check) :
    (c.diagnostic m).code.label = c.documentedLabel ∧
      (c.diagnostic m).message = c.documentedMessage m := by
  constructor
  · cases c <;> rfl
  · unfold diagnostic refusal documentedMessage Refusal.message Method.qualifiedSignature
    cases c with
    | project | methodName | value | fluency | kind => rfl
    | shape | formerType => simp only [String.append_assoc]
end Check

/-- A simple getter takes no parameters, and its name starts with `get`. -/
theorem Method.isSimpleGetter_iff {m : Method} :
    m.isSimpleGetter = true ↔ m.parameters = [] ∧ ['g', 'e', 't'] <+: m.name.toList := by
  simp [Method.isSimpleGetter]

/-- The checks that a reader makes, in their order. -/
def Reader.checks (r : Reader) (directive : Directive) : List Check :=
  .project :: .shape :: Check.ofDirective r.fallbacks directive

/-- Some checks decide a result: it is a value if all of them pass, and else the refusal of the
first one that fails. -/
inductive Decided (r : Reader) (m : Method) {α : Type} : List Check → Except Refusal α → Prop where
  | pass {cs : List Check} (a : α) (h : ∀ c ∈ cs, c.Passes r m) : Decided r m cs (.ok a)
  | fail (before : List Check) (c : Check) (after : List Check)
      (hbefore : ∀ b ∈ before, b.Passes r m) (hc : ¬c.Passes r m) :
      Decided r m (before ++ c :: after) (.error (c.refusal m))

namespace Decided

variable {r : Reader} {m : Method} {α β : Type} {cs ds : List Check} {c : Check}
  {x : Except Refusal α}

/-- A check that fails decides, whatever is checked after it. -/
theorem of_not_passes (hc : ¬c.Passes r m) :
    Decided r m (c :: cs) (.error (c.refusal m) : Except Refusal α) :=
  fail [] c cs (by simp) hc

/-- A check that passes leaves the decision to those after it. -/
theorem cons (hc : c.Passes r m) (h : Decided r m cs x) : Decided r m (c :: cs) x := by
  cases h with
  | pass a h =>
    refine pass a fun b hb => ?_
    rcases List.mem_cons.mp hb with rfl | hb
    · exact hc
    · exact h b hb
  | fail before d after hbefore hd =>
    refine fail (c :: before) d after (fun b hb => ?_) hd
    rcases List.mem_cons.mp hb with rfl | hb
    · exact hc
    · exact hbefore b hb

/-- Results one after the other are decided by their checks one after the other. -/
theorem bind {f : α → Except Refusal β} (hx : Decided r m cs x)
    (hf : ∀ a, x = .ok a → Decided r m ds (f a)) : Decided r m (cs ++ ds) (x >>= f) := by
  cases hx with
  | pass a h =>
    induction cs with
    | nil => exact hf a rfl
    | cons c cs ih =>
      exact cons (h c (by simp)) (ih fun b hb => h b (by simp [hb]))
  | fail before c after hbefore hc =>
    rw [List.append_assoc, List.cons_append]
    exact fail before c (after ++ ds) hbefore hc

/-- Checks that are made a second time decide nothing more. -/
theorem again {f : α → Except Refusal β} (hx : Decided r m cs x)
    (hf : ∀ a, Decided r m cs (f a)) : Decided r m cs (x >>= f) := by
  cases hx with
  | pass a h => exact hf a
  | fail before c after hbefore hc => exact fail before c after hbefore hc

/-- What is done with a value does not matter to the decision. -/
theorem map (f : α → β) (hx : Decided r m cs x) : Decided r m cs (x.map f) := by
  cases hx with
  | pass a h => exact pass (f a) h
  | fail before c after hbefore hc => exact fail before c after hbefore hc

/-- Results for the members of a list are decided by the checks of the members in turn. -/
theorem mapM {f : α → Except Refusal β} {checks : α → List Check}
    (h : ∀ a, Decided r m (checks a) (f a)) (as : List α) :
    Decided r m (as.flatMap checks) (as.mapM f) := by
  induction as with
  | nil => exact pass [] (by simp)
  | cons a as ih =>
    rw [List.mapM_cons, List.flatMap_cons]
    refine (h a).bind fun b _ => ?_
    -- Putting the list together takes no check.
    rw [← List.append_nil (as.flatMap checks)]
    exact ih.bind fun bs _ => pass (b :: bs) (by simp)

/-- A decided result is a value exactly when all checks pass. -/
theorem ok_iff (hx : Decided r m cs x) : (∃ a, x = .ok a) ↔ ∀ c ∈ cs, c.Passes r m := by
  cases hx with
  | pass a h => exact ⟨fun _ => h, fun _ => ⟨a, rfl⟩⟩
  | fail before c after _ hc =>
    constructor
    · rintro ⟨a, ha⟩
      simp at ha
    · intro h
      exact absurd (h c (by simp)) hc

/-- There is only one first check that fails. -/
theorem eq_of_first_failures {before before' after after' : List Check} {c c' : Check}
    (h : before ++ c :: after = before' ++ c' :: after') (hbefore : ∀ b ∈ before, b.Passes r m)
    (hc : ¬c.Passes r m) (hbefore' : ∀ b ∈ before', b.Passes r m) (hc' : ¬c'.Passes r m) :
    c = c' := by
  induction before generalizing before' with
  | nil =>
    cases before' with
    | nil => exact (List.cons.inj h).1
    | cons b' bs' =>
      -- Here and below a check that fails would have to be among those that pass.
      obtain rfl : c = b' := (List.cons.inj h).1
      exact absurd (hbefore' c (by simp)) hc
  | cons b bs ih =>
    cases before' with
    | nil =>
      obtain rfl : b = c' := (List.cons.inj h).1
      exact absurd (hbefore b (by simp)) hc'
    | cons b' bs' =>
      exact ih (List.cons.inj h).2 (fun d hd => hbefore d (by simp [hd]))
        (fun d hd => hbefore' d (by simp [hd]))

/-- A decided result is the refusal of the first check that fails. -/
theorem error_iff (hx : Decided r m cs x) (refusal : Refusal) :
    x = .error refusal ↔ ∃ before c after, cs = before ++ c :: after ∧
      (∀ b ∈ before, b.Passes r m) ∧ ¬c.Passes r m ∧ refusal = c.refusal m := by
  cases hx with
  | pass a h =>
    constructor
    · intro hx
      simp at hx
    · rintro ⟨before, c, after, rfl, -, hc, -⟩
      exact absurd (h c (by simp)) hc
  | fail before c after hbefore hc =>
    constructor
    · intro hx
      exact ⟨before, c, after, rfl, hbefore, hc, (Except.error.inj hx).symm⟩
    · rintro ⟨before', c', after', hcs, hbefore', hc', rfl⟩
      rw [eq_of_first_failures hcs hbefore hc hbefore' hc']

end Decided
end AccessorUpgrade
