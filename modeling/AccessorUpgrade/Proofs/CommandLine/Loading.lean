import AccessorUpgrade.CommandLine.Run
import AccessorUpgrade.CommandLine.Workspace

/-!
# Loading settings leaves no trace

A run looks at files and variables to find its settings, and changes none of them. Steps that only
look are put together from such steps (`IsReading.bind`). Loading settings is one of them, however
many bases lie under a settings file (`IsReading.loadSettings`).
-/

namespace AccessorUpgrade.CommandLine

open Workspace (host)

variable {α β : Type} {x : StateM Workspace α} {f : α → StateM Workspace β}

/-- After a first step, the second goes on from what the first has left. -/
theorem run_bind (w : Workspace) : (x >>= f).run w = (f (x.run w).1).run (x.run w).2 := rfl

/-- After a first step that is known, only the second is left. -/
theorem run_bind_of_run {a : α} {w w' : Workspace} (h : x.run w = (a, w')) :
    (x >>= f).run w = (f a).run w' := by
  rw [run_bind, h]

/-- Looking at the workspace is a step that leaves it. -/
theorem run_get (w : Workspace) : (get : StateM Workspace Workspace).run w = (w, w) := rfl

/-- A step that leaves every workspace as it is. -/
def IsReading (x : StateM Workspace α) : Prop := ∀ w, (x.run w).2 = w

namespace IsReading

/-- A value alone changes nothing. -/
theorem pure (a : α) : IsReading (Pure.pure a : StateM Workspace α) := fun _ => rfl

/-- Two steps that only look are such a step. -/
theorem bind (hx : IsReading x) (hf : ∀ a, IsReading (f a)) : IsReading (x >>= f) := by
  intro w
  rw [run_bind, hx w, hf]

/-- A file is only looked at. -/
theorem readFile (path : String) : IsReading (host.readFile path) := fun _ => rfl

/-- The variables are only looked at. -/
theorem environment : IsReading host.environment := fun _ => rfl

/-- A settings file and its bases are only looked at. -/
theorem readLayer (bound : Nat) (path text : String) :
    IsReading (readLayer host bound path text) := by
  -- Each base that is read uses up one of the bases that may lie under the file.
  induction bound generalizing path text with
  | zero =>
    unfold CommandLine.readLayer
    split
    · exact pure _
    split
    · exact pure _
    next document _ => cases Settings.File.baseOf document <;> exact pure _
  | succ bound ih =>
    unfold CommandLine.readLayer
    split
    · exact pure _
    split
    · exact pure _
    next document _ =>
      cases Settings.File.baseOf document with
      | none => exact pure _
      | invalid => exact pure _
      | path base =>
        refine bind (readFile _) fun result => ?_
        cases result with
        | error e => exact pure _
        | ok text => exact bind (ih _ _) fun _ => pure _

/-- Of several settings files, those that are tried are only looked at. -/
theorem readUsualFiles (fault : Option SettingsFault) (paths : List String) :
    IsReading (readUsualFiles host fault paths) := by
  induction paths generalizing fault with
  | nil => exact pure _
  | cons path paths ih =>
    unfold CommandLine.readUsualFiles
    split
    · exact ih _
    refine bind (readFile _) fun result => ?_
    -- Only a file that is there and can be understood ends the search.
    split
    · exact ih _
    · exact ih _
    · refine bind (readLayer _ _ _) fun result => ?_
      cases result with
      | error e => exact ih _
      | ok layer => exact pure _

/-- The settings file that a flag names is only looked at. -/
theorem readNamedFile (path : String) : IsReading (readNamedFile host path) := by
  refine bind (readFile _) fun result => ?_
  cases result with
  | error e => exact pure _
  | ok text => exact readLayer _ _ _

/-- Settings are loaded without a change. -/
theorem loadSettings (args : List String) : IsReading (loadSettings host args) := by
  unfold CommandLine.loadSettings
  split
  · exact pure _
  next flags _ =>
    refine bind environment fun environment => ?_
    cases flags.file with
    | none =>
      refine bind (readUsualFiles _ _) fun result => ?_
      cases result <;> exact pure _
    | some path =>
      refine bind (readNamedFile _) fun result => ?_
      cases result <;> exact pure _

end IsReading

end AccessorUpgrade.CommandLine
