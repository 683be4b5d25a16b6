import AccessorUpgrade.CommandLine.Run
import AccessorUpgrade.Proofs.Accessor.FormerType
import AccessorUpgrade.Proofs.Format.Lossless
import AccessorUpgrade.Proofs.Interception.Agreement

/-!
# Every report can be read back

A report tells types that come from four places: from the batch as they are, from a type argument in
it, from the table of wrapper classes, and the keyword of setters that return nothing. What has been
read from a text has a spelling, and so have all of these; the property is followed from the batch
over former types and accessors to the requests of the report. A report whose types have a spelling
is read back from what is written for it.
-/

namespace AccessorUpgrade

variable {m : Method} {directive : Directive}

/-! ## Requests -/

namespace Accessor

variable {a : Accessor}

/-- A request for an accessor tells no types but the method's owner, the former type and that of
setters that return nothing. -/
theorem types_request {p : Project} {channel : Channel} :
    ∀ t ∈ (a.request p m channel).types, t = m.owner ∨ t = a.formerType ∨ t = .void := by
  have hcall : ∀ t ∈ (a.request p m channel).call.types,
      t = m.owner ∨ t = a.formerType ∨ t = .void := by
    intro t ht
    cases channel with
    | dynamicCalls =>
      obtain rfl | rfl | ht : t = m.owner ∨ t = a.returnType m.owner ∨ t = m.owner := by
        simpa [request, readCall, Call.types] using ht
      · exact .inl rfl
      · exact a.returnType_cases m.owner
      · exact .inl ht
    | directCalls =>
      obtain rfl | rfl | ht : t = m.owner ∨ t = a.returnType m.owner ∨ t = a.formerType := by
        cases hkind : a.kind <;> simp [request, methodCall, Call.types, hkind] at ht <;> grind
      · exact .inl rfl
      · exact a.returnType_cases m.owner
      · exact .inr (.inl ht)
  intro t ht
  obtain ht | ht := List.mem_append.mp ht
  · exact hcall t ht
  · have hextras : t = a.formerType := by
      simpa [request, extras, Extra.types, upgrade] using ht
    exact .inr (.inl hextras)

end Accessor

/-! ## Reports -/

namespace Reader

variable {r : Reader}

/-- The types that all requests for a method tell have a spelling. -/
theorem isSpelled_of_requests (hm : m.IsSpelled) (hdirective : directive.IsSpelled)
    {requests : List Request} (h : r.requests m directive = .ok requests) :
    ∀ request ∈ requests, ∀ t ∈ request.types, t.IsSpelled := by
  obtain ⟨p, accessors, -, -, haccessors, rfl⟩ := exists_of_requests h
  intro request hrequest t ht
  obtain ⟨a, ha, hrequest⟩ := List.mem_flatMap.mp hrequest
  obtain ⟨channel, -, rfl⟩ := List.mem_map.mp hrequest
  obtain rfl | rfl | rfl := Accessor.types_request t ht
  · exact hm.owner
  · exact Accessor.isSpelled_of_ofDirective hm hdirective haccessors a ha
  · exact ⟨"void", rfl⟩

/-- The types that an outcome tells have a spelling. -/
theorem isSpelled_of_outcome? {marked : MarkedMethod} (hmarked : marked.IsSpelled) {o : Outcome}
    (h : r.outcome? marked = some o) : ∀ t ∈ o.types, t.IsSpelled := by
  cases hdirective : marked.directive with
  | none => simp [outcome?, read, hdirective] at h
  | some directive =>
    obtain rfl : ⟨marked.method.qualifiedSignature, r.readMethod marked.method directive⟩ = o := by
      simpa [outcome?, read, hdirective] using h
    cases hrequests : r.requests marked.method directive with
    | error refusal => simp [Outcome.types, readMethod_of_error hrequests, Outcome.resultTypes]
    | ok requests =>
      rw [Outcome.types, readMethod_of_ok hrequests]
      exact Outcome.forall_mem_resultTypes_ok.mpr (isSpelled_of_requests hmarked.method
        (hmarked.directive directive hdirective) hrequests)

end Reader

/-- The types that a report tells have a spelling if those of the batch have. -/
theorem Report.isSpelled_ofBatch (r : Reader) {batch : Batch}
    (h : ∀ m ∈ batch.methods, m.IsSpelled) :
    ∀ t ∈ (Report.ofBatch r batch).types, t.IsSpelled := by
  intro t ht
  obtain ⟨o, ho, ht⟩ := List.mem_flatMap.mp ht
  obtain ⟨marked, hmarked, houtcome⟩ := List.mem_filterMap.mp ho
  exact Reader.isSpelled_of_outcome? (h marked hmarked) houtcome t ht

namespace CommandLine

/-- A report is read back from what is written for it if its types have a spelling. -/
theorem ofText_reportText {report : Report} (h : ∀ t ∈ report.types, t.IsSpelled) (pretty : Bool) :
    Report.format.ofText (reportText pretty report) = .ok report := by
  have hblanks : ∀ c ∈ "\n".toList, Json.State.isSpace c = true := by
    simp [Json.State.isSpace]
  cases pretty with
  | false => exact Report.exact.ofText_compact h hblanks
  | true => exact Report.exact.ofText_pretty h hblanks

end CommandLine

/-- An outcome has requests or a diagnostic and not the other, and shows just the one it has. -/
def Outcome.HasOneResult (o : Outcome) : Prop :=
  (∃ requests, o.requests? = some requests ∧ o.diagnostic? = none ∧
    Outcome.format.encode o =
      .record [("method", .string o.method), ("requests", Request.format.list.encode requests)]) ∨
  (∃ d, o.requests? = none ∧ o.diagnostic? = some d ∧
    Outcome.format.encode o =
      .record [("method", .string o.method), ("diagnostic", Diagnostic.format.encode d)])

/-- Every outcome has one result. -/
theorem Outcome.hasOneResult (o : Outcome) : o.HasOneResult := by
  obtain ⟨method, result⟩ := o
  cases result with
  | ok requests => exact .inl ⟨requests, rfl, rfl, rfl⟩
  | error d => exact .inr ⟨d, rfl, rfl, rfl⟩

namespace CommandLine

/-- The report on any batch that has been read from a text, in whatever project, tells only types
that are read back from their own spelling. So it is read back itself from what is written for it,
with and without indentation: the same project, and the same outcomes in their order. Each of them
shows its requests or its diagnostic. -/
theorem report_reads_back {text : String} {batch : Batch} (h : Batch.format.ofText text = .ok batch)
    (settings : Settings) (pretty : Bool) :
    (∀ t ∈ (reportOn settings batch).types, ErasedType.parse t.spelling = .ok t) ∧
    Report.format.ofText (reportText pretty (reportOn settings batch)) =
      .ok (reportOn settings batch) ∧
    ∀ o ∈ (reportOn settings batch).outcomes, o.HasOneResult := by
  have hbatch : ∀ m ∈ batch.methods, m.IsSpelled := (@Batch.exact 0).valid_of_ofText h
  have hreport : ∀ t ∈ (reportOn settings batch).types, t.IsSpelled :=
    Report.isSpelled_ofBatch _ hbatch
  exact ⟨fun t ht => (hreport t ht).parse_spelling, ofText_reportText hreport pretty,
    fun o _ => o.hasOneResult⟩

/-- A batch of one method, as text. -/
def filesText : String :=
  "\x7b\"methods\": [\x7b\"method\": \x7b\"owner\": \"a.Task\", \"name\": \"getFiles\"," ++
    " \"returnType\": \"org.gradle.api.provider.Property<b.C<d.E>>\"\x7d," ++
    " \"upgradedProperty\": \x7b\"fluentSetter\": true\x7d\x7d]\x7d"

/-- The method returns a property of a class with a type argument, and its setter is fluent. -/
def filesBatch : Batch :=
  ⟨[⟨⟨.object "a.Task", "getFiles", [],
      .mk (.object "org.gradle.api.provider.Property") [.mk (.object "b.C") [.raw (.object "d.E")]],
      .unknown⟩,
    some ⟨[], none, some true⟩⟩]⟩

/-- The report on a method with two accessors tells its owner and the erased type argument. -/
theorem report_reads_back_files :
    Batch.format.ofText filesText = .ok filesBatch ∧
    (reportOn ⟨some "core", "info", .json⟩ filesBatch).types.eraseDups =
      [.object "a.Task", .object "b.C"] ∧
    ErasedType.parse (ErasedType.object "b.C").spelling = .ok (.object "b.C") ∧
    Report.format.ofText (reportText true (reportOn ⟨some "core", "info", .json⟩ filesBatch)) =
      .ok (reportOn ⟨some "core", "info", .json⟩ filesBatch) := by
  have hread : Batch.format.ofText filesText = .ok filesBatch := by decide +kernel
  have htypes : (reportOn ⟨some "core", "info", .json⟩ filesBatch).types.eraseDups =
      [.object "a.Task", .object "b.C"] := by decide +kernel
  obtain ⟨hspelled, htext, -⟩ := report_reads_back hread ⟨some "core", "info", .json⟩ true
  refine ⟨hread, htypes, hspelled _ (List.mem_eraseDups.mp ?_), htext⟩
  rw [htypes]
  exact List.mem_cons_of_mem _ List.mem_cons_self

end CommandLine

end AccessorUpgrade
