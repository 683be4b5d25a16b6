import AccessorUpgrade.Reader

/-!
# Batches and reports

What a run of the program reads and writes, as section E8 of the specification has it.
-/

namespace AccessorUpgrade

/-- The methods that are read in one run, marked or not. -/
structure Batch where
  methods : List MarkedMethod
deriving DecidableEq, Repr

/-- What has become of the methods of a batch. -/
structure Report where
  /-- The name of the project, if there is one. -/
  project : Option String
  outcomes : List Outcome

namespace Report

/-- The report on a batch. -/
def ofBatch (r : Reader) (batch : Batch) : Report :=
  ⟨r.project.map (·.name), r.readAll batch.methods⟩

/-- Whether a method has been refused. -/
def hasFailures (report : Report) : Bool := report.outcomes.any (·.isFailure)

/-- The lines that are shown to users, one for each refused method. -/
def diagnosticLines (report : Report) : List String :=
  report.outcomes.filterMap fun o => o.diagnostic?.map (·.line o.method)

end Report

end AccessorUpgrade
