import AccessorUpgrade.Batch
import AccessorUpgrade.Format.Request

/-!
# The JSON form of batches and reports
-/

namespace AccessorUpgrade

/-- Codes as JSON. -/
def Diagnostic.Code.format : Format Diagnostic.Code :=
  .constants
    [.missingProjectContext, .invalidAccessorShape, .missingAttribute, .unresolvedFormerType,
      .unsupportedAccessorKind]
    Diagnostic.Code.constant

/-- Diagnostics as JSON. -/
def Diagnostic.format : Format Diagnostic :=
  ((Fields.cons (.required "code" Diagnostic.Code.format) <|
    .cons (.required "message" .string) <|
    .cons (.optional "location" Site.format) .nil).map
    (fun (code, message, site, ()) => ⟨code, message, site⟩)
    fun d => (d.code, d.message, d.site, ())).format "struct Diagnostic"

namespace Outcome

/-- The key of requests. -/
def requestsKey : String := "requests"

/-- The key of a diagnostic. -/
def diagnosticKey : String := "diagnostic"

/-- The keys of results. -/
def resultKeys : List String := [requestsKey, diagnosticKey]

/-- A result as the only member of an object. -/
def resultMember : Except Diagnostic (List Request) → String × Json
  | .ok requests => (requestsKey, Request.format.list.encode requests)
  | .error d => (diagnosticKey, Diagnostic.format.encode d)

/-- Reads the value that belongs to a key of results. -/
def decodeResult (key : String) (source : Source) (value : Json) :
    Except DecodeError (Except Diagnostic (List Request)) :=
  if key == requestsKey then (Request.format.list.decode source value).map .ok
  else (Diagnostic.format.decode source value).map .error

/-- Results as JSON: objects with one member, whose key tells what the result is. -/
def resultFormat : Format (Except Diagnostic (List Request)) where
  encode result := .record [resultMember result]
  decode :=
    let bare _ := .error (.invalidType .unitVariant "newtype variant")
    Format.choice resultKeys bare decodeResult

/-- The key of the method. -/
def methodKey : String := "method"

/-- Takes the method out of the members of an object and sets the others aside. -/
def splitMembers (source : Source) :
    List (String × Json) → Option String → Except DecodeError (Option String × List (String × Json))
  | [], method => .ok (method, [])
  | (key, value) :: rest, method =>
    if key == methodKey then
      match method with
      | some _ => .error (.duplicateField methodKey)
      | none =>
        match Format.string.decode source value with
        | .error e => .error e
        | .ok method => splitMembers source rest (some method)
    else if value.readable then
      (splitMembers source rest method).map fun (method, others) => (method, (key, value) :: others)
    else .error .malformed

/-- Reads an outcome. Its result is the first member with a key of results. -/
def decode (source : Source) : Json → Except DecodeError Outcome
  | .object members ending =>
    match splitMembers source members none with
    | .error e => .error e
    | .ok (method, others) =>
      if ending != .closed then .error .malformed
      else
        match method with
        | none => .error (.missingField methodKey)
        | some method =>
          match others.find? (resultKeys.contains ·.1) with
          | none => .error .noStatus
          | some (key, value) => (decodeResult key .buffered value).map (⟨method, ·⟩)
  | value => .error (.mismatch value "struct MethodOutcome")

/-- Outcomes as JSON: objects with the method and the result as members. -/
def format : Format Outcome where
  encode o := .record [(methodKey, .string o.method), resultMember o.result]
  decode := decode

end Outcome

/-- Batches as JSON. -/
def Batch.format : Format Batch :=
  ((Fields.cons (.withDefault "methods" MarkedMethod.format.list []) .nil).map
    (fun (methods, ()) => ⟨methods⟩)
    fun b => (b.methods, ())).format "struct MethodBatch"

/-- Reports as JSON. -/
def Report.format : Format Report :=
  ((Fields.cons (.nullable "project" .string) <|
    .cons (.required "outcomes" Outcome.format.list) .nil).map
    (fun (project, outcomes, ()) => ⟨project, outcomes⟩)
    fun r => (r.project, r.outcomes, ())).format "struct BatchReport"

end AccessorUpgrade
