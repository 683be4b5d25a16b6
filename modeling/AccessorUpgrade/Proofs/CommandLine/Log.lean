import AccessorUpgrade.Proofs.CommandLine.Loading

/-!
# The log is opened once

A run opens the log of its process before it reads a batch. `Opening` lists how that may end: the
log is open already, or it is opened with the filter and the form of the settings, or it is not, for
the filter or for the process. `opening_openLog` shows that it ends in one of these ways, and
`Opening.ok_iff` when the log is open in the end. Once open, it stays as the first run has opened
it, whatever settings come later (`run_openLog_again`).
-/

namespace AccessorUpgrade.CommandLine

open Workspace (host)

/-- The workspace with its log open: as it has been opened before, or as the settings say. -/
def Workspace.logged (w : Workspace) (settings : Settings) : Workspace :=
  { w with log := w.log.or (some (settings.logFilter, settings.logFormat)) }

/-- How the opening of a log may end, and what is left of the workspace then. -/
inductive Opening (w : Workspace) (settings : Settings) :
    Except LogFault Unit × Workspace → Prop where
  | again (hopen : w.log ≠ none) : Opening w settings (.ok (), w.logged settings)
  | first (hnew : w.log = none) (hfilter : w.filterFault? settings.logFilter = none)
      (hprocess : w.logFault? = none) : Opening w settings (.ok (), w.logged settings)
  | filter (reason : String) (hnew : w.log = none)
      (hfilter : w.filterFault? settings.logFilter = some reason) :
      Opening w settings (.error (.filter reason), w)
  | subscriber (reason : String) (hnew : w.log = none)
      (hfilter : w.filterFault? settings.logFilter = none) (hprocess : w.logFault? = some reason) :
      Opening w settings (.error (.subscriber reason), w)

variable {w : Workspace} {settings : Settings}

/-- An open log stays as it is. -/
theorem Workspace.logged_eq_self (h : w.log ≠ none) (settings : Settings) :
    w.logged settings = w := by
  obtain ⟨entry, hentry⟩ := Option.ne_none_iff_exists'.mp h
  have hlog : w.log.or (some (settings.logFilter, settings.logFormat)) = w.log := by
    rw [hentry]
    rfl
  rw [Workspace.logged, hlog]

/-- Once it has been opened, the log is open. -/
theorem Workspace.log_logged_ne_none (w : Workspace) (settings : Settings) :
    (w.logged settings).log ≠ none := by
  cases h : w.log <;> simp [Workspace.logged, h]

/-- Files are written with an open log as they are without. -/
theorem Workspace.write_logged {path text : String} {written : Workspace}
    (h : w.write path text = .ok written) (settings : Settings) :
    ∃ written', (w.logged settings).write path text = .ok written' ∧
      written' = { w.logged settings with files := written.files } := by
  have htarget : (w.logged settings).target path = w.target path := rfl
  unfold Workspace.write at h ⊢
  rw [htarget]
  cases hplace : w.target path with
  | error e => simp [hplace] at h
  | ok place =>
    rw [hplace] at h
    cases place with
    | outside | directory => cases h
    | file | vacant =>
      cases h
      exact ⟨_, rfl, rfl⟩

/-- A process that takes a log has it open then. -/
theorem run_host_openLog (h : w.logFault? = none) (filter : String) (form : LogFormat) :
    (host.openLog filter form).run w = (.ok (), { w with log := some (filter, form) }) := by
  refine (run_bind_of_run (run_get w)).trans ?_
  split
  · next reason hreason => cases h.symm.trans hreason
  · rfl

/-- A process that takes no log tells why. -/
theorem run_host_openLog_of_fault {reason : String} (h : w.logFault? = some reason)
    (filter : String) (form : LogFormat) :
    (host.openLog filter form).run w = (.error reason, w) := by
  refine (run_bind_of_run (run_get w)).trans ?_
  split
  · next reason' hreason =>
    obtain rfl := Option.some.inj (h.symm.trans hreason)
    rfl
  · next hnone => cases h.symm.trans hnone

/-- Opening a log ends in one of the ways that there are. -/
theorem opening_openLog (w : Workspace) (settings : Settings) :
    Opening w settings ((openLog host settings).run w) := by
  have hasLog : host.hasLog.run w = (w.log.isSome, w) := rfl
  have hverdict : (host.filterFault? settings.logFilter).run w =
      (w.filterFault? settings.logFilter, w) := rfl
  have hlast {result : Except String Unit} {w' : Workspace}
      (h : (host.openLog settings.logFilter settings.logFormat).run w = (result, w')) :
      (host.openLog settings.logFilter settings.logFormat >>= fun result =>
        pure (result.mapError LogFault.subscriber)).run w = (result.mapError .subscriber, w') :=
    run_bind_of_run h
  unfold openLog
  rw [run_bind_of_run hasLog]
  cases hlog : w.log with
  | some entry =>
    have hopen : w.log ≠ none := by simp [hlog]
    have hagain : Opening w settings (.ok (), w.logged settings) := .again hopen
    rw [Workspace.logged_eq_self hopen] at hagain
    exact hagain
  | none =>
    simp only [Option.isSome_none, Bool.false_eq_true, if_false]
    rw [run_bind_of_run hverdict]
    cases hfilter : w.filterFault? settings.logFilter with
    | some reason => exact .filter reason hlog hfilter
    | none =>
      simp only
      cases hprocess : w.logFault? with
      | some reason =>
        rw [hlast (run_host_openLog_of_fault hprocess _ _)]
        exact .subscriber reason hlog hfilter hprocess
      | none =>
        have hlogged : w.logged settings =
            { w with log := some (settings.logFilter, settings.logFormat) } := by
          rw [Workspace.logged, hlog]
          rfl
        rw [hlast (run_host_openLog hprocess _ _), ← hlogged]
        exact .first hlog hfilter hprocess

namespace Opening

variable {x : Except LogFault Unit × Workspace}

/-- The log is open in the end exactly when it was open before, or the settings have a filter and
the process takes a log. -/
theorem ok_iff (h : Opening w settings x) :
    x.1 = .ok () ↔
      w.log ≠ none ∨ w.filterFault? settings.logFilter = none ∧ w.logFault? = none := by
  cases h with
  | again hopen => simp [hopen]
  | first hnew hfilter hprocess => simp [hfilter, hprocess]
  | filter reason hnew hfilter => simp [hnew, hfilter]
  | subscriber reason hnew hfilter hprocess => simp [hnew, hprocess]

/-- When the log is open, nothing else has changed. -/
theorem eq_of_ok (h : Opening w settings x) (hx : x.1 = .ok ()) :
    x = (.ok (), w.logged settings) := by
  cases h with
  | again | first => rfl
  | filter | subscriber => cases hx

/-- When the log cannot be opened, nothing has changed. -/
theorem eq_of_error (h : Opening w settings x) {fault : LogFault} (hx : x.1 = .error fault) :
    x = (.error fault, w) := by
  cases h with
  | again | first => cases hx
  | filter | subscriber =>
    cases hx
    rfl

end Opening

/-- A log that one run has opened, another run leaves as it is, whatever its settings are. -/
theorem run_openLog_again (w : Workspace) (settings later : Settings) :
    (openLog host later).run (w.logged settings) = (.ok (), w.logged settings) := by
  have hopen : (w.logged settings).log ≠ none := w.log_logged_ne_none settings
  have hopening := opening_openLog (w.logged settings) later
  have hrun := hopening.eq_of_ok (hopening.ok_iff.mpr (.inl hopen))
  rw [hrun, Workspace.logged_eq_self hopen]

end AccessorUpgrade.CommandLine
