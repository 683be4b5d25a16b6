import AccessorUpgrade.Proofs.Format.Request
import AccessorUpgrade.Settings

/-!
# What is written can be read

With the formats of outcomes, reports and settings all formats are exact: each keeps the values
whose types have a spelling, whatever else they hold, and no others (`formats_keep`). An outcome has
one of two keys for its result, and what stands there is set aside when it is read
(`Outcome.exact`).
-/

namespace AccessorUpgrade

open Format

variable {depth : Nat}

/-! ## Outcomes -/

/-- All codes are kept. -/
theorem Diagnostic.Code.exact : Diagnostic.Code.format.Exact depth fun _ => True :=
  constants_exact fun code => by cases code <;> rfl

/-- All diagnostics are kept. -/
theorem Diagnostic.exact : Diagnostic.format.Exact (depth + 2) fun _ => True := by
  refine Fields.Exact.record
    (.cons (.required Diagnostic.Code.exact) <|
      .cons (.required string_exact) <|
      .cons (.optional Site.exact (Fields.format_ne_null _ _)) .nil)
    (by decide) (fun _ => rfl) (fun _ => rfl) fun d => ?_
  simp

namespace Outcome

/-- The types that a result tells. -/
def resultTypes : Except Diagnostic (List Request) → List ErasedType
  | .ok requests => requests.flatMap Request.types
  | .error _ => []

variable {result : Except Diagnostic (List Request)}

/-- The types of a result have a spelling just when those of its requests have. -/
theorem forall_mem_resultTypes_ok {requests : List Request} :
    (∀ t ∈ resultTypes (.ok requests), t.IsSpelled) ↔
      ∀ r ∈ requests, ∀ t ∈ r.types, t.IsSpelled := by
  simp only [resultTypes, List.mem_flatMap]
  grind

/-- The key of a result is one of the keys of results. -/
theorem resultMember_mem_keys (result : Except Diagnostic (List Request)) :
    (resultMember result).1 ∈ resultKeys := by
  cases result <;> simp [resultMember, resultKeys]

/-- What belongs to the key of a result is written with its own format. -/
theorem writable_resultMember (h : ∀ t ∈ resultTypes result, t.IsSpelled) :
    Json.Writable (depth + 5) (resultMember result).2 := by
  cases result with
  | ok requests => exact Request.exact.list.writable (forall_mem_resultTypes_ok.mp h)
  | error d => exact Diagnostic.exact.writable trivial

/-- What belongs to the key of a result is read with its own format. -/
theorem decodeResult_resultMember (h : ∀ t ∈ resultTypes result, t.IsSpelled) (source : Source) :
    decodeResult (resultMember result).1 source (resultMember result).2 = .ok result := by
  cases result with
  | ok requests =>
    have hread : Request.format.list.decode source (Request.format.list.encode requests) =
        .ok requests :=
      (@Request.exact 0).list.decode_encode source (forall_mem_resultTypes_ok.mp h)
    simp [resultMember, decodeResult, hread, Except.map]
  | error d =>
    have hread : Diagnostic.format.decode source (Diagnostic.format.encode d) = .ok d :=
      (@Diagnostic.exact 0).decode_encode source trivial
    simp [resultMember, decodeResult, requestsKey, diagnosticKey, hread, Except.map]

/-- The types of a result that has been read have a spelling. -/
theorem isSpelled_of_decodeResult {key : String} {source : Source} {value : Json}
    (h : decodeResult key source value = .ok result) : ∀ t ∈ resultTypes result, t.IsSpelled := by
  rw [decodeResult] at h
  split at h
  · obtain ⟨requests, hrequests, rfl⟩ := exists_of_map h
    exact forall_mem_resultTypes_ok.mpr ((@Request.exact 0).list.valid_of_decode hrequests)
  · obtain ⟨d, -, rfl⟩ := exists_of_map h
    simp [resultTypes]

/-- A result is kept if its types have a spelling. -/
theorem resultFormat_exact :
    resultFormat.Exact (depth + 6) fun result => ∀ t ∈ resultTypes result, t.IsSpelled where
  writable h := .record fun _ hmember => List.mem_singleton.mp hmember ▸ writable_resultMember h
  decode_encode source {result} h :=
    (choice_record (resultMember_mem_keys result) _ decodeResult source _).trans
      (decodeResult_resultMember h source)
  valid_of_decode {source value result} h := by
    obtain ⟨name, hbare⟩ | ⟨name, source', value', hinside⟩ := cases_of_choice h
    · cases hbare
    · exact isSpelled_of_decodeResult hinside

/-- The result of an outcome that has been read is read from the value of one key. -/
theorem exists_decodeResult_of_decode {source : Source} {value : Json} {o : Outcome}
    (h : decode source value = .ok o) :
    ∃ key inner, decodeResult key .buffered inner = .ok o.result := by
  cases value with
  | object members ending =>
    simp only [decode] at h
    split at h
    · cases h
    · split at h
      · cases h
      · split at h
        · cases h
        · split at h
          · cases h
          next key inner _ =>
            obtain ⟨result, hresult, rfl⟩ := exists_of_map h
            exact ⟨key, inner, hresult⟩
  | _ => simp [decode] at h

/-- The types that an outcome tells. -/
def types (o : Outcome) : List ErasedType := resultTypes o.result

/-- An outcome is kept if its types have a spelling. -/
theorem exact : Outcome.format.Exact (depth + 6) fun o => ∀ t ∈ o.types, t.IsSpelled where
  writable {o} h := by
    refine .record fun member hmember => ?_
    obtain rfl | hmember := List.mem_cons.mp hmember
    · exact .string _
    · exact List.mem_singleton.mp hmember ▸ writable_resultMember h
  decode_encode source {o} h := by
    have hreadable : (resultMember o.result).2.readable = true :=
      (@writable_resultMember 0 _ h).readable
    have hkey : (resultMember o.result).1 ≠ methodKey := by
      cases o.result <;> simp [resultMember, requestsKey, diagnosticKey, methodKey]
    have hsplit : splitMembers source [(methodKey, .string o.method), resultMember o.result] none =
        .ok (some o.method, [resultMember o.result]) := by
      simp [splitMembers, Format.string, hkey, hreadable, Except.map]
    simp [format, Json.record, decode, hsplit, resultMember_mem_keys, decodeResult_resultMember h,
      Except.map]
  valid_of_decode h := by
    obtain ⟨key, inner, hresult⟩ := exists_decodeResult_of_decode h
    exact isSpelled_of_decodeResult hresult

end Outcome

/-- The types that a report tells. -/
def Report.types (report : Report) : List ErasedType := report.outcomes.flatMap Outcome.types

/-- A report is kept if its types have a spelling. -/
theorem Report.exact :
    Report.format.Exact (depth + 8) fun report => ∀ t ∈ report.types, t.IsSpelled := by
  refine Fields.Exact.record
    (.cons (.nullable string_exact nofun) <|
      .cons (.required Outcome.exact.list) .nil)
    (by decide) (fun _ => rfl) (fun _ => rfl) fun report => ?_
  simp only [Report.types, List.mem_flatMap]
  grind

/-! ## Settings -/

/-- Both forms of log entries are kept. -/
theorem LogFormat.exact : LogFormat.format.Exact depth fun _ => True :=
  constants_exact fun form => by cases form <;> rfl

/-- All settings are kept. -/
theorem Settings.exact : Settings.format.Exact (depth + 1) fun _ => True := by
  refine Fields.Exact.record
    (.cons (.withDefault (string_exact.nullable nofun) (by simp)) <|
      .cons (.required string_exact) <|
      .cons (.required LogFormat.exact) .nil)
    (by decide) (fun _ => rfl) (fun _ => rfl) fun s => ?_
  simp

/-! ## All formats -/

/-- Every value is read back from its compact text and from its text with indentation just when its
types are types that have a spelling. Nothing else of it matters: strings of any characters, numbers
of 32 bits, what is absent and what is there, lists of any length. -/
theorem formats_keep :
    (∀ t : ErasedType, ErasedType.format.Keeps t ↔ t.IsSpelled) ∧
    (∀ t : DeclaredType, DeclaredType.format.Keeps t ↔ t.IsSpelled) ∧
    (∀ site : Site, Site.format.Keeps site) ∧
    (∀ p : Parameter, Parameter.format.Keeps p ↔ p.type.IsSpelled) ∧
    (∀ m : Method, Method.format.Keeps m ↔ m.IsSpelled) ∧
    (∀ kind : AccessorKind, AccessorKind.format.Keeps kind) ∧
    (∀ e : AccessorEntry, AccessorEntry.format.Keeps e ↔ e.IsSpelled) ∧
    (∀ d : Directive, Directive.format.Keeps d ↔ d.IsSpelled) ∧
    (∀ f : Fallbacks, Fallbacks.format.Keeps f) ∧
    (∀ m : MarkedMethod, MarkedMethod.format.Keeps m ↔ m.IsSpelled) ∧
    (∀ b : Batch, Batch.format.Keeps b ↔ ∀ m ∈ b.methods, m.IsSpelled) ∧
    (∀ kind : CallKind, CallKind.format.Keeps kind) ∧
    (∀ role : ParameterRole, ParameterRole.format.Keeps role) ∧
    (∀ p : CallParameter, CallParameter.format.Keeps p ↔ p.type.IsSpelled) ∧
    (∀ c : Call, Call.format.Keeps c ↔ ∀ t ∈ c.types, t.IsSpelled) ∧
    (∀ b : Binding, Binding.format.Keeps b) ∧
    (∀ channel : Channel, Channel.format.Keeps channel) ∧
    (∀ kind : PropertyKind, PropertyKind.format.Keeps kind) ∧
    (∀ u : Upgrade, Upgrade.format.Keeps u ↔ u.formerType.IsSpelled) ∧
    (∀ extra : Extra, Extra.format.Keeps extra ↔ ∀ t ∈ extra.types, t.IsSpelled) ∧
    (∀ r : Request, Request.format.Keeps r ↔ ∀ t ∈ r.types, t.IsSpelled) ∧
    (∀ code : Diagnostic.Code, Diagnostic.Code.format.Keeps code) ∧
    (∀ d : Diagnostic, Diagnostic.format.Keeps d) ∧
    (∀ result, Outcome.resultFormat.Keeps result ↔
      ∀ t ∈ Outcome.resultTypes result, t.IsSpelled) ∧
    (∀ o : Outcome, Outcome.format.Keeps o ↔ ∀ t ∈ o.types, t.IsSpelled) ∧
    (∀ report : Report, Report.format.Keeps report ↔ ∀ t ∈ report.types, t.IsSpelled) ∧
    (∀ form : LogFormat, LogFormat.format.Keeps form) ∧
    (∀ s : Settings, Settings.format.Keeps s) :=
  ⟨ErasedType.exact.keeps_iff,
    DeclaredType.exact.keeps_iff,
    fun site => (Site.exact.keeps_iff site).mpr trivial,
    Parameter.exact.keeps_iff,
    Method.exact.keeps_iff,
    fun kind => (AccessorKind.exact.keeps_iff kind).mpr trivial,
    AccessorEntry.exact.keeps_iff,
    Directive.exact.keeps_iff,
    fun f => (Fallbacks.exact.keeps_iff f).mpr trivial,
    MarkedMethod.exact.keeps_iff,
    Batch.exact.keeps_iff,
    fun kind => (CallKind.exact.keeps_iff kind).mpr trivial,
    fun role => (ParameterRole.exact.keeps_iff role).mpr trivial,
    CallParameter.exact.keeps_iff,
    Call.exact.keeps_iff,
    fun b => (Binding.exact.keeps_iff b).mpr trivial,
    fun channel => (Channel.exact.keeps_iff channel).mpr trivial,
    fun kind => (PropertyKind.exact.keeps_iff kind).mpr trivial,
    Upgrade.exact.keeps_iff,
    Extra.exact.keeps_iff,
    Request.exact.keeps_iff,
    fun code => (Diagnostic.Code.exact.keeps_iff code).mpr trivial,
    fun d => (Diagnostic.exact.keeps_iff d).mpr trivial,
    Outcome.resultFormat_exact.keeps_iff,
    Outcome.exact.keeps_iff,
    Report.exact.keeps_iff,
    fun form => (LogFormat.exact.keeps_iff form).mpr trivial,
    fun s => (Settings.exact.keeps_iff s).mpr trivial⟩

end AccessorUpgrade
