import AccessorUpgrade.Interception

/-!
# Reading upgraded methods

From a marked method to the requests that keep the calls of its former accessors working, or to the
one diagnostic that says why there are none. A method is read without regard to the others.

This is the Reader of sections 2 and E4 of the specification. `Method.isSimpleGetter` is its check
of the accessor shape, and `Reader.readAll` its batch processing, `read_all`.
-/

namespace AccessorUpgrade

/-- What has become of an upgraded method. -/
structure Outcome where
  /-- The qualified signature. -/
  method : String
  result : Except Diagnostic (List Request)

namespace Outcome

/-- The requests for the method, if it has been accepted. -/
def requests? (o : Outcome) : Option (List Request) := o.result.toOption

/-- The diagnostic, if the method has been refused. -/
def diagnostic? (o : Outcome) : Option Diagnostic :=
  match o.result with
  | .ok _ => none
  | .error d => some d

/-- Whether the method has been refused. -/
def isFailure (o : Outcome) : Bool := o.diagnostic?.isSome

end Outcome

/-- What is known beside the methods: the project, and what attributes mean that are not written. -/
structure Reader where
  project : Option Project
  fallbacks : Fallbacks

namespace Reader

/-- A reader with the values that the annotations declare. -/
def standard (project : Option Project) : Reader := ⟨project, .declared⟩

/-- The requests for an upgraded method. Of several faults the first in this order counts: no
project, a method that is no simple getter, a fault of the accessors. -/
def requests (r : Reader) (m : Method) (directive : Directive) : Except Refusal (List Request) :=
  match r.project with
  | none => .error .noProject
  | some project =>
    if m.isSimpleGetter then
      (Accessor.ofDirective m directive r.fallbacks).map (·.flatMap (·.requests project m))
    else
      .error (.notSimpleGetter m.qualifiedSignature)

/-- Reads an upgraded method. -/
def readMethod (r : Reader) (m : Method) (directive : Directive) :
    Except Diagnostic (List Request) :=
  (r.requests m directive).mapError (·.diagnostic m.site)

/-- Reads a method, if it is marked as upgraded. -/
def read (r : Reader) (m : MarkedMethod) : Option (Except Diagnostic (List Request)) :=
  m.directive.map (r.readMethod m.method)

/-- What becomes of a method, if it is marked as upgraded. -/
def outcome? (r : Reader) (m : MarkedMethod) : Option Outcome :=
  (r.read m).map (⟨m.method.qualifiedSignature, ·⟩)

/-- What becomes of the marked methods among some, in their order. -/
def readAll (r : Reader) (methods : List MarkedMethod) : List Outcome :=
  methods.filterMap r.outcome?

end Reader

end AccessorUpgrade
