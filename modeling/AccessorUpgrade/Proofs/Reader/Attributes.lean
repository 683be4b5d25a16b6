import AccessorUpgrade.Proofs.Reader.Entries
import Mathlib.Data.List.Forall2

/-!
# Attributes that do not count

Not every attribute counts. Those of a directive with entries do not, nor does what is declared for
an attribute that is written, and the mark in a type attribute is as good as nothing. The resolved
form of a directive keeps what counts and leaves nothing to look up. Reading a directive is reading
its resolved form with nothing declared (`Reader.readMethod_resolved`), so directives that differ
only in what does not count are read alike (`Reader.readMethod_eq_of_alike`).
-/

namespace AccessorUpgrade

variable {m : Method} {directive directive' : Directive} {fallbacks fallbacks' : Fallbacks}
  {entry entry' : AccessorEntry}

/-! ## Resolved forms -/

namespace ErasedType

/-- The mark of a former type attribute that is not written. -/
def defaultMarker : ErasedType := .object defaultMarkerName

/-- Nothing is written: there is no attribute, or it is the mark. -/
def IsUnwritten (t : Option ErasedType) : Prop := t = none ∨ t = some defaultMarker

/-- The same is written in two attributes, or nothing in either of them. -/
def SameWritten (t t' : Option ErasedType) : Prop := t = t' ∨ (IsUnwritten t ∧ IsUnwritten t')

/-- Nothing is meant where nothing is written. -/
theorem meant_of_isUnwritten {t : Option ErasedType} (h : IsUnwritten t) : meant t = none := by
  obtain rfl | rfl := h
  · rfl
  · rw [meant_eq_none_iff]
    rintro t ⟨⟩
    exact beq_self_eq_true (some defaultMarkerName)

/-- The same is meant where the same is written. -/
theorem meant_eq_of_sameWritten {t t' : Option ErasedType} (h : SameWritten t t') :
    meant t = meant t' := by
  obtain rfl | ⟨h, h'⟩ := h
  · rfl
  · rw [meant_of_isUnwritten h, meant_of_isUnwritten h']

/-- What is meant has no mark left. -/
theorem meant_meant (t : Option ErasedType) : meant (meant t) = meant t := by
  unfold meant
  rw [Option.filter_filter]
  simp only [Bool.and_self]

end ErasedType

/-- What is declared counts only if nothing is written. -/
theorem or_eq_of_unwritten {written fallback fallback' : Option Bool}
    (h : written = none → fallback = fallback') : written.or fallback = written.or fallback' := by
  cases written with
  | none => exact h rfl
  | some fluent => rfl

/-- The entry with its attributes as they count: without the mark, and fluent or not as it is
written or else declared. -/
def AccessorEntry.resolved (entry : AccessorEntry) (fallbacks : Fallbacks) : AccessorEntry :=
  { entry with
    typeAttribute := entry.formerType
    fluentSetter := entry.fluentSetter.or fallbacks.entryFluentSetter }

/-- The directive with its attributes as they count: those of its entries, or its own if it has no
entries. -/
def Directive.resolved (directive : Directive) (fallbacks : Fallbacks) : Directive :=
  match directive.entries with
  | [] =>
    ⟨[], directive.formerType, directive.fluentSetter.or fallbacks.directiveFluentSetter⟩
  | entries => ⟨entries.map (·.resolved fallbacks), none, none⟩

namespace Accessor

/-- The fluency of setters depends on what counts. -/
theorem fluency_or (written fallback : Option Bool) :
    fluency (written.or fallback) none = fluency written fallback := by
  unfold fluency
  rw [Option.or_none]

/-- A resolved entry declares the accessor that the entry does. -/
theorem ofEntry_resolved (m : Method) (fallbacks : Fallbacks) (entry : AccessorEntry) :
    ofEntry m .absent (entry.resolved fallbacks) = ofEntry m fallbacks entry := by
  have htype : (entry.resolved fallbacks).formerType = entry.formerType :=
    ErasedType.meant_meant entry.typeAttribute
  have hfluency :
      fluency (entry.resolved fallbacks).fluentSetter Fallbacks.absent.entryFluentSetter =
        fluency entry.fluentSetter fallbacks.entryFluentSetter := fluency_or _ _
  unfold ofEntry
  rw [htype, hfluency]
  rfl

/-- A resolved directive stands for the accessors that the directive does. -/
theorem ofDirective_resolved (m : Method) (directive : Directive) (fallbacks : Fallbacks) :
    ofDirective m (directive.resolved fallbacks) .absent = ofDirective m directive fallbacks := by
  obtain ⟨entries, typeAttribute, fluentSetter⟩ := directive
  cases entries with
  | nil =>
    have himplied :
        implied m (Directive.resolved ⟨[], typeAttribute, fluentSetter⟩ fallbacks) .absent =
          implied m ⟨[], typeAttribute, fluentSetter⟩ fallbacks := by
      funext kind
      unfold implied
      rw [Directive.resolved, Directive.formerType, Directive.formerType, ErasedType.meant_meant,
        Fallbacks.absent, fluency_or]
    exact congrArg (List.mapM · [AccessorKind.getter, .setter]) himplied
  | cons entry entries =>
    have hentries : ((entry :: entries).map (·.resolved fallbacks)).mapM (ofEntry m .absent) =
        (entry :: entries).mapM (ofEntry m fallbacks) := by
      rw [List.mapM_map]
      exact congrArg (List.mapM · (entry :: entries)) (funext (ofEntry_resolved m fallbacks))
    exact hentries

end Accessor

/-- Reading a directive is reading its resolved form with nothing declared. -/
theorem Reader.readMethod_resolved (project : Option Project) (m : Method) (directive : Directive)
    (fallbacks : Fallbacks) :
    Reader.readMethod ⟨project, .absent⟩ m (directive.resolved fallbacks) =
      Reader.readMethod ⟨project, fallbacks⟩ m directive := by
  unfold readMethod requests
  rw [Accessor.ofDirective_resolved]

/-! ## Directives that are read alike -/

/-- Two entries differ at most in the way in which no former type is written. -/
structure AccessorEntry.Alike (entry entry' : AccessorEntry) : Prop where
  value : entry.value = entry'.value
  methodName : entry.methodName = entry'.methodName
  typeAttribute : ErasedType.SameWritten entry.typeAttribute entry'.typeAttribute
  fluentSetter : entry.fluentSetter = entry'.fluentSetter

/-- Two directives, each with what is declared beside it, differ only in what does not count: in
attributes of their own and what is declared for these, if there are entries; in what is declared
for entries, if there are none; in what is declared for an attribute that is written, on every entry
as the case may be; and in the way in which no former type is written. -/
structure Directive.Alike (directive : Directive) (fallbacks : Fallbacks) (directive' : Directive)
    (fallbacks' : Fallbacks) : Prop where
  entries : List.Forall₂ AccessorEntry.Alike directive.entries directive'.entries
  typeAttribute : directive.entries = [] →
    ErasedType.SameWritten directive.typeAttribute directive'.typeAttribute
  fluentSetter : directive.entries = [] → directive.fluentSetter = directive'.fluentSetter
  directiveFallback : directive.entries = [] → directive.fluentSetter = none →
    fallbacks.directiveFluentSetter = fallbacks'.directiveFluentSetter
  entryFallback : ∀ entry ∈ directive.entries, entry.fluentSetter = none →
    fallbacks.entryFluentSetter = fallbacks'.entryFluentSetter

/-- Entries that are alike have the same resolved form, if what is declared is the same or does not
count for them. -/
theorem AccessorEntry.Alike.resolved_eq (h : entry.Alike entry')
    (hfallback : entry.fluentSetter = none →
      fallbacks.entryFluentSetter = fallbacks'.entryFluentSetter) :
    entry.resolved fallbacks = entry'.resolved fallbacks' := by
  unfold resolved formerType
  rw [h.value, h.methodName, ErasedType.meant_eq_of_sameWritten h.typeAttribute, ← h.fluentSetter,
    or_eq_of_unwritten hfallback]

/-- Lists of entries that are alike have the same resolved forms. -/
theorem AccessorEntry.map_resolved_eq {entries entries' : List AccessorEntry}
    (h : List.Forall₂ AccessorEntry.Alike entries entries')
    (hfallback : ∀ entry ∈ entries, entry.fluentSetter = none →
      fallbacks.entryFluentSetter = fallbacks'.entryFluentSetter) :
    entries.map (·.resolved fallbacks) = entries'.map (·.resolved fallbacks') := by
  induction h with
  | nil => rfl
  | cons hentry _ ih =>
    obtain ⟨hfirst, hothers⟩ := List.forall_mem_cons.mp hfallback
    rw [List.map_cons, List.map_cons, hentry.resolved_eq hfirst, ih hothers]

/-- Directives that are alike have the same resolved form. -/
theorem Directive.Alike.resolved_eq (h : directive.Alike fallbacks directive' fallbacks') :
    directive.resolved fallbacks = directive'.resolved fallbacks' := by
  obtain ⟨entries, typeAttribute, fluentSetter⟩ := directive
  obtain ⟨entries', typeAttribute', fluentSetter'⟩ := directive'
  obtain ⟨hentries, htype, hfluent, hdirective, hentry⟩ := h
  have hforms := AccessorEntry.map_resolved_eq hentries hentry
  cases hentries with
  | nil =>
    have hmeant := ErasedType.meant_eq_of_sameWritten (htype rfl)
    obtain rfl : fluentSetter = fluentSetter' := hfluent rfl
    unfold resolved formerType
    rw [hmeant, or_eq_of_unwritten (hdirective rfl)]
  | cons _ _ => exact congrArg (Directive.mk · none none) hforms

/-- Directives that differ only in what does not count are read alike, whatever the project and the
method: both with the same requests, or both with the same diagnostic. -/
theorem Reader.readMethod_eq_of_alike (project : Option Project) (m : Method)
    (h : directive.Alike fallbacks directive' fallbacks') :
    Reader.readMethod ⟨project, fallbacks⟩ m directive =
      Reader.readMethod ⟨project, fallbacks'⟩ m directive' := by
  rw [← readMethod_resolved, h.resolved_eq, readMethod_resolved]

/-- Entries of a setter and a getter, both of which say that setters are not fluent. -/
def titleEntries (ofSetter ofGetter : Option ErasedType) : List AccessorEntry :=
  [⟨some "SETTER", some "setTitle", ofSetter, some false⟩,
    ⟨some "GETTER", some "getTitle", ofGetter, some false⟩]

/-- The former types of the entries are not written in two ways, and in neither way does it matter
what the directive says of itself, or what is declared. -/
theorem Reader.readMethod_eq_of_alike_title :
    (Directive.mk (titleEntries none (some .defaultMarker)) none none).Alike .declared
      ⟨titleEntries (some .defaultMarker) none, some (.keyword .int), some true⟩ .absent ∧
    ∃ requests, requests.length = 3 ∧
      Reader.readMethod ⟨some ⟨"core", by decide⟩, .declared⟩ titleMethod
        ⟨titleEntries none (some .defaultMarker), none, none⟩ = .ok requests ∧
      Reader.readMethod ⟨some ⟨"core", by decide⟩, .absent⟩ titleMethod
        ⟨titleEntries (some .defaultMarker) none, some (.keyword .int), some true⟩ =
          .ok requests := by
  have halike : (Directive.mk (titleEntries none (some .defaultMarker)) none none).Alike .declared
      ⟨titleEntries (some .defaultMarker) none, some (.keyword .int), some true⟩ .absent := by
    refine ⟨?_, nofun, nofun, nofun, by simp [titleEntries]⟩
    exact .cons ⟨rfl, rfl, .inr ⟨.inl rfl, .inr rfl⟩, rfl⟩
      (.cons ⟨rfl, rfl, .inr ⟨.inr rfl, .inl rfl⟩, rfl⟩ .nil)
  exact ⟨halike, _, rfl, rfl, (readMethod_eq_of_alike _ titleMethod halike).symm.trans rfl⟩

end AccessorUpgrade
