import AccessorUpgrade.Proofs.CommandLine.Log
import AccessorUpgrade.Proofs.CommandLine.Workspace
import AccessorUpgrade.Proofs.Format.Record

/-!
# Streams and exit of a run

What a run with a command, settings, a log and a text on standard input does, depends on the batch
that the text stands for. A text that is no batch leaves a message on standard error and nothing
else; one method that cannot be read is enough for that (`Batch.exists_of_decode`). Otherwise the
report goes to standard output or to a file as a whole, standard error shows the refused methods
(`Echo`), and the run succeeds if there are none (`run_streams`). A run that has no log does not get
to the batch (`run_of_logFault`).
-/

namespace AccessorUpgrade

/-! ## Malformed methods -/

/-- An item among those that stand for the methods of a batch, which is an object or an array. -/
inductive Batch.Lists : Json → Json → Prop
  | object {members : List (String × Json)} {items : List Json} {ending ending' : Json.Ending}
      {item : Json} : ("methods", .array items ending') ∈ members → item ∈ items →
      Lists (.object members ending) item
  | array {items others : List Json} {ending ending' : Json.Ending} {item : Json} :
      item ∈ items → Lists (.array (.array items ending' :: others) ending) item

/-- When a batch is read, so are all items that stand for its methods. -/
theorem Batch.exists_of_decode {source : Source} {json item : Json} {batch : Batch}
    (h : Batch.format.decode source json = .ok batch) (hitem : Batch.Lists json item) :
    ∃ m, MarkedMethod.format.decode source item = .ok m := by
  -- In both forms of a batch, the methods are read as a list.
  have hlist {items : List Json} {ending : Json.Ending} {methods : List MarkedMethod}
      (hmem : item ∈ items)
      (hmethods : MarkedMethod.format.list.decode source (.array items ending) = .ok methods) :
      ∃ m, MarkedMethod.format.decode source item = .ok m := by
    obtain ⟨items', hitems', hread⟩ := Format.exists_of_decode_list hmethods
    obtain ⟨rfl, -⟩ := Json.array.inj hitems'
    obtain ⟨m, -, hm⟩ := exists_result_of_mapM hread item hmem
    exact ⟨m, hm⟩
  cases hitem with
  | object hmember hmem =>
    simp only [Batch.format, Fields.format, Fields.ofObject] at h
    split at h
    · cases h
    next hslots =>
      obtain ⟨before, after, htake⟩ :=
        Fields.exists_take_of_takeAll hslots hmember (List.mem_singleton.mpr rfl)
      obtain ⟨filled, hfill, -⟩ := exists_of_map (f := (·, before.2)) htake
      obtain ⟨methods, hmethods, -⟩ := Field.exists_of_fill hfill
      exact hlist hmem hmethods
  | array hmem =>
    simp only [Batch.format, Fields.format, Fields.ofArray] at h
    split at h
    · cases h
    next hitems =>
      obtain ⟨pair, hpair, -⟩ := exists_of_map hitems
      simp only [Fields.cons, Field.next] at hpair
      split at hpair
      · cases hpair
      next hnext =>
        obtain ⟨methods, hmethods, -⟩ := exists_of_map hnext
        exact hlist hmem hmethods

namespace CommandLine

open Workspace (host)

/-! ## Diagnostics -/

/-- How the line for a diagnostic begins: with its site, or with the signature of the method if the
site has no file and no line. -/
inductive LineStart (d : Diagnostic) (signature : String) : String → Prop
  | site {site : Site} : d.site = some site → site.file ≠ none ∨ site.line ≠ 0 →
      LineStart d signature site.text
  | signature : (∀ site, d.site = some site → site.file = none ∧ site.line = 0) →
      LineStart d signature signature

/-- What standard error shows of outcomes: a line for each refused method, in their order. -/
inductive Echo : List Outcome → String → Prop
  | nil : Echo [] ""
  | accepted {o : Outcome} {requests : List Request} {outcomes : List Outcome} {echo : String} :
      o.result = .ok requests → Echo outcomes echo → Echo (o :: outcomes) echo
  | refused {o : Outcome} {d : Diagnostic} {start : String} {outcomes : List Outcome}
      {echo : String} : o.result = .error d → LineStart d o.method start → Echo outcomes echo →
      Echo (o :: outcomes)
        (start ++ ": " ++ d.code.label ++ ": " ++ d.message ++ "\n" ++ echo)

/-- What a run tells of a report: it succeeds if all methods are accepted, and then shows nothing on
standard error. -/
structure Tells (report : Report) (exit : Exit) (echo : String) : Prop where
  lines : Echo report.outcomes echo
  success_iff : exit = .success ↔ ∀ o ∈ report.outcomes, ∃ requests, o.result = .ok requests
  quiet : exit = .success → echo = ""

/-- A diagnostic is shown in one line. -/
theorem exists_line_eq (d : Diagnostic) (signature : String) :
    ∃ start, LineStart d signature start ∧
      d.line signature = start ++ ": " ++ d.code.label ++ ": " ++ d.message ++ "\n" := by
  have hlocated (site : Site) :
      site.isLocated = true ↔ site.file ≠ none ∨ site.line ≠ 0 := by
    simp [Site.isLocated, Option.isSome_iff_ne_none, UInt32.pos_iff_ne_zero]
  cases hsite : d.site with
  | none =>
    refine ⟨signature, .signature (by simp [hsite]), ?_⟩
    simp [Diagnostic.line, Diagnostic.text, hsite, String.append_assoc]
  | some site =>
    by_cases h : site.isLocated = true
    · refine ⟨site.text, .site hsite ((hlocated site).mp h), ?_⟩
      simp [Diagnostic.line, Diagnostic.text, hsite, h, String.append_assoc]
    · refine ⟨signature, .signature ?_, ?_⟩
      · simpa [hsite, hlocated] using h
      · simp [Diagnostic.line, Diagnostic.text, hsite, h, String.append_assoc]

/-- The lines of a report are what standard error is to show of its outcomes. -/
theorem echo_diagnosticLines (project : Option String) (outcomes : List Outcome) :
    Echo outcomes (String.join (Report.diagnosticLines ⟨project, outcomes⟩)) := by
  induction outcomes with
  | nil => exact .nil
  | cons o outcomes ih =>
    cases hresult : o.result with
    | ok requests =>
      have hlines : Report.diagnosticLines ⟨project, o :: outcomes⟩ =
          Report.diagnosticLines ⟨project, outcomes⟩ := by
        simp [Report.diagnosticLines, Outcome.diagnostic?, hresult]
      rw [hlines]
      exact .accepted hresult ih
    | error d =>
      have hlines : Report.diagnosticLines ⟨project, o :: outcomes⟩ =
          d.line o.method :: Report.diagnosticLines ⟨project, outcomes⟩ := by
        simp [Report.diagnosticLines, Outcome.diagnostic?, hresult]
      obtain ⟨start, hstart, hline⟩ := exists_line_eq d o.method
      rw [hlines, String.join_cons, hline]
      exact .refused hresult hstart ih

/-- Nothing is shown of methods that are all accepted. -/
theorem Echo.eq_empty {outcomes : List Outcome} {echo : String} (h : Echo outcomes echo)
    (haccepted : ∀ o ∈ outcomes, ∃ requests, o.result = .ok requests) : echo = "" := by
  induction h with
  | nil => rfl
  | accepted _ _ ih => exact ih fun o ho => haccepted o (List.mem_cons_of_mem _ ho)
  | refused hresult _ _ _ =>
    obtain ⟨requests, hrequests⟩ := haccepted _ List.mem_cons_self
    cases hresult.symm.trans hrequests

/-- A report has no failures exactly when all methods are accepted. -/
theorem hasFailures_eq_false_iff (report : Report) :
    report.hasFailures = false ↔ ∀ o ∈ report.outcomes, ∃ requests, o.result = .ok requests := by
  have houtcome (o : Outcome) : o.isFailure = false ↔ ∃ requests, o.result = .ok requests := by
    cases h : o.result <;> simp [Outcome.isFailure, Outcome.diagnostic?, h]
  simp [Report.hasFailures, houtcome]

/-- The lines of a report and the exit that its failures make are what a run is to tell of it. -/
theorem tells (report : Report) :
    Tells report (if report.hasFailures then .failure else .success)
      (String.join report.diagnosticLines) := by
  have hecho : Echo report.outcomes (String.join report.diagnosticLines) :=
    echo_diagnosticLines report.project report.outcomes
  have hsuccess : (if report.hasFailures then Exit.failure else .success) = .success ↔
      ∀ o ∈ report.outcomes, ∃ requests, o.result = .ok requests := by
    rw [← hasFailures_eq_false_iff]
    cases report.hasFailures <;> simp
  exact ⟨hecho, hsuccess, fun h => hecho.eq_empty (hsuccess.mp h)⟩

/-! ## Reports -/

/-- What a report tells of a batch: the name that the settings have for the project, unless it is
empty, and what the reader for this project makes of the methods, each of them once and in order. -/
structure Reports (settings : Settings) (batch : Batch) (report : Report) : Prop where
  project : report.project = settings.projectName.filter (· ≠ "")
  outcomes : ∃ p : Option Project, p.map (·.name) = report.project ∧
    report.outcomes = (Reader.standard p).readAll batch.methods
  null_iff : (∃ others, Report.format.encode report = .record (("project", .null) :: others)) ↔
    settings.projectName = none ∨ settings.projectName = some ""

/-- The project of some settings has the name that they give, unless it is empty. -/
theorem name_of_projectName (name : Option String) :
    (name.bind Project.ofName?).map (·.name) = name.filter (· ≠ "") := by
  cases name with
  | none => rfl
  | some name => by_cases hname : name = "" <;> simp [Project.ofName?, Option.filter, hname]

/-- A report is written with its project first, null if there is none. -/
theorem encode_eq_null_iff (report : Report) :
    (∃ others, Report.format.encode report = .record (("project", .null) :: others)) ↔
      report.project = none := by
  have hencode : Report.format.encode report =
      .record [("project", (Format.nullable .string).encode report.project),
        ("outcomes", Outcome.format.list.encode report.outcomes)] := rfl
  rw [hencode]
  cases report.project <;> simp [Json.record, Format.nullable, Format.string]

/-- The report of a run tells what it has to tell of the batch. -/
theorem reports_reportOn (settings : Settings) (batch : Batch) :
    Reports settings batch (reportOn settings batch) := by
  have hproject : (reportOn settings batch).project = settings.projectName.filter (· ≠ "") :=
    name_of_projectName settings.projectName
  refine ⟨hproject, ⟨settings.projectName.bind Project.ofName?, rfl, rfl⟩, ?_⟩
  rw [encode_eq_null_iff, hproject]
  cases settings.projectName with
  | none => simp
  | some name => simp

/-- A project is known by its name. -/
theorem eq_of_map_name_eq {p q : Option Project} (h : p.map (·.name) = q.map (·.name)) : p = q := by
  have hname : Function.Injective Project.name := fun
    | ⟨_, _⟩, ⟨_, _⟩, rfl => rfl
  exact Option.map_injective hname h

/-- There is one report only on a batch. -/
theorem Reports.eq_reportOn {settings : Settings} {batch : Batch} {report : Report}
    (h : Reports settings batch report) : report = reportOn settings batch := by
  obtain ⟨hproject, ⟨p, hp, houtcomes⟩, -⟩ := h
  have hsame : p = settings.projectName.bind Project.ofName? := by
    refine eq_of_map_name_eq ?_
    rw [hp, hproject, name_of_projectName]
  obtain ⟨project, outcomes⟩ := report
  subst hsame hp houtcomes
  rfl

/-! ## Steps -/

section

variable {α β : Type} {x : StateM Workspace α} {f : α → StateM Workspace β} {a : α}
  {w w' : Workspace} {line : List String} {command : Command} {settings : Settings} {text : String}

/-- Lines are shown in their order. -/
theorem run_showLines (lines : List String) (w : Workspace) :
    (showLines host lines).run w = (.ok (), { w with error := w.error ++ String.join lines }) := by
  induction lines generalizing w with
  | nil =>
    rw [String.join_nil, String.append_empty]
    rfl
  | cons line lines ih =>
    have hfirst : (host.putError line).run w = (.ok (), { w with error := w.error ++ line }) := rfl
    unfold showLines
    refine (run_bind_of_run hfirst).trans ?_
    rw [ih, String.join_cons, String.append_assoc]

/-- Without a file, the report is written to standard output. -/
theorem run_writeReport_output (h : command.output = none) (report : Report) (w : Workspace) :
    (writeReport host command report).run w =
      (.ok (), { w with output := w.output ++ reportText command.pretty report }) := by
  simp only [writeReport, h]
  rfl

/-- A report is written to a file that takes it. -/
theorem run_writeReport_file {path : String} (h : command.output = some path) {report : Report}
    (hwrite : w.write path (reportText command.pretty report) = .ok w') :
    (writeReport host command report).run w = (.ok (), w') := by
  have hfile : (host.writeFile path (reportText command.pretty report)).run w = (.ok (), w') := by
    refine (run_bind_of_run (run_get w)).trans ?_
    simp only [hwrite]
    rfl
  simp only [writeReport, h]
  exact run_bind_of_run hfile

/-- A run that gets to an exit ends with it. -/
theorem run_of_attempt_ok {exit : Exit} (h : (attempt host line).run w = (.ok exit, w')) :
    (run host line).run w = (exit, w') :=
  run_bind_of_run h

/-- A run that comes upon a fault shows it on standard error and fails. -/
theorem run_of_attempt_error {fault : Fault} (h : (attempt host line).run w = (.error fault, w'))
    (hfault : fault.isEnquiry = false) :
    (run host line).run w =
      (.failure, { w' with error := w'.error ++ (fault.message w'.wording ++ "\n") }) := by
  have hwording : host.wording.run w' = (w'.wording, w') := rfl
  refine (run_bind_of_run h).trans ?_
  refine (run_bind_of_run hwording).trans ?_
  simp only [hfault]
  rfl

/-! ## Runs -/

/-- What a run gets from its arguments: a command, and settings. -/
structure Understands (w : Workspace) (line : List String) (command : Command)
    (settings : Settings) : Prop where
  ofArguments : Command.ofArguments ((Split.ofLine id line).command.drop 1) = .ok command
  loadSettings : ((loadSettings host ((Split.ofLine id line).settings.drop 1)).run w).1 =
    .ok settings

/-- What a run that reads standard input starts from: arguments that ask for it, settings, a log
that opens, and a text on standard input. -/
structure Starts (w : Workspace) (line : List String) (command : Command) (settings : Settings)
    (text : String) : Prop extends Understands w line command settings where
  openLog : ((openLog host settings).run w).1 = .ok ()
  readsInput : command.readsInput = true
  input : String.fromUTF8? w.input = some text

/-- Nothing has changed when the log is opened, and after that the command is carried out. -/
theorem Understands.attempt (h : Understands w line command settings) :
    (attempt host line).run w =
      (CommandLine.openLog host settings >>= fun
        | .error fault => pure (.error (.log fault))
        | .ok () => carryOut host command settings).run w := by
  have hsettings :
      (CommandLine.loadSettings host ((Split.ofLine id line).settings.drop 1)).run w =
        (.ok settings, w) :=
    Prod.ext h.loadSettings (IsReading.loadSettings _ w)
  simp only [CommandLine.attempt, h.ofArguments]
  exact run_bind_of_run hsettings

/-- A run without a log ends with a message, and nothing else has changed. -/
theorem run_of_logFault (h : Understands w line command settings) {fault : LogFault}
    (hlog : ((openLog host settings).run w).1 = .error fault) :
    (run host line).run w =
      (.failure, { w with error := w.error ++ (fault.message ++ "\n") }) := by
  have hattempt : (attempt host line).run w = (.error (.log fault), w) := by
    rw [h.attempt]
    exact run_bind_of_run ((opening_openLog w settings).eq_of_error hlog)
  exact run_of_attempt_error hattempt rfl

/-- Only the log has changed when the command is carried out. -/
theorem Starts.attempt (h : Starts w line command settings text) :
    (attempt host line).run w = (carryOut host command settings).run (w.logged settings) := by
  rw [h.toUnderstands.attempt]
  exact run_bind_of_run ((opening_openLog w settings).eq_of_ok h.openLog)

/-- The text of the batch is that of standard input. -/
theorem Starts.readBatchText (h : Starts w line command settings text) :
    (readBatchText host command).run (w.logged settings) = (.ok text, w.logged settings) := by
  have hinput : host.readInput.run (w.logged settings) = (.ok text, w.logged settings) := by
    have htext : String.fromUTF8? (w.logged settings).input = some text := h.input
    refine (run_bind_of_run (run_get _)).trans ?_
    simp only [htext]
    rfl
  simp only [CommandLine.readBatchText, h.readsInput, if_true]
  exact run_bind_of_run hinput

/-- A text that is no batch is a fault, and only the log has changed. -/
theorem Starts.attempt_of_error (h : Starts w line command settings text) {e : DecodeError}
    (he : Batch.format.ofText text = .error e) :
    (CommandLine.attempt host line).run w = (.error (.batch text e), w.logged settings) := by
  rw [h.attempt]
  refine (run_bind_of_run h.readBatchText).trans ?_
  simp only [he]
  rfl

/-- After the report on a batch has been written, the diagnostics are shown. -/
theorem Starts.attempt_of_ok (h : Starts w line command settings text) {batch : Batch}
    (hbatch : Batch.format.ofText text = .ok batch)
    (hwrite : (writeReport host command (reportOn settings batch)).run (w.logged settings) =
      (.ok (), w')) :
    (CommandLine.attempt host line).run w =
      (.ok (if (reportOn settings batch).hasFailures then .failure else .success),
        { w' with
          error := w'.error ++ String.join (reportOn settings batch).diagnosticLines }) := by
  rw [h.attempt]
  refine (run_bind_of_run h.readBatchText).trans ?_
  simp only [hbatch]
  refine (run_bind_of_run hwrite).trans ?_
  exact run_bind_of_run (run_showLines _ _)

/-- A run that reads standard input does what the batch there says, and nothing else changes but the
log, which is open. If the text is no batch, the run fails with one message on standard error, in
the words that there are for the fault; a single method that cannot be read is enough for that. If
it is one, there is one report on it, which tells the project of the settings and the outcomes that
its reader has for the methods. The text of the report is added to standard output, with a line
break; or it is the text of the file that the command names, if that can be written, and standard
output stays as it is. In either case standard error shows the refused methods only, one after the
other, and the run succeeds exactly when there are none. -/
theorem run_streams (h : Starts w line command settings text) :
    (∀ e, Batch.format.ofText text = .error e →
      (run host line).run w = (.failure,
        { w.logged settings with
          error := w.error ++
            ("failed to parse method batch: " ++ w.wording.batch text e ++ "\n") })) ∧
    (∀ item e, Batch.Lists (Json.read text.toList).root item →
      MarkedMethod.format.decode .text item = .error e →
      ∃ e', Batch.format.ofText text = .error e') ∧
    ∀ batch, Batch.format.ofText text = .ok batch →
      ∃ report exit echo, Reports settings batch report ∧ Tells report exit echo ∧
        let json := Report.format.encode report
        let rendering := if command.pretty then json.pretty else json.compact
        (command.output = none →
          (run host line).run w = (exit,
            { w.logged settings with
              output := w.output ++ (rendering ++ "\n"), error := w.error ++ echo })) ∧
        ∀ path written, command.output = some path →
          w.write path (rendering ++ "\n") = .ok written →
          ∃ w', (run host line).run w = (exit, w') ∧
            w' = { w.logged settings with
              files := written.files, error := w.error ++ echo } ∧
            w'.read path = .ok (rendering ++ "\n") := by
  refine ⟨fun e he => ?_, fun item e hitem he => ?_, fun batch hbatch => ?_⟩
  · exact run_of_attempt_error (h.attempt_of_error he) rfl
  · cases hbatch : Batch.format.ofText text with
    | error e' => exact ⟨e', rfl⟩
    | ok batch =>
      -- If there were a batch, the item would have been read as one of its methods.
      obtain ⟨m, hm⟩ := Batch.exists_of_decode (Format.decode_of_ofText hbatch) hitem
      cases he.symm.trans hm
  · refine ⟨_, _, _, reports_reportOn settings batch, tells (reportOn settings batch),
      fun houtput => ?_, fun path written houtput hwritten => ?_⟩
    · exact run_of_attempt_ok (h.attempt_of_ok hbatch (run_writeReport_output houtput _ _))
    · obtain ⟨w', hwrite, rfl⟩ := Workspace.write_logged hwritten settings
      have hreport := run_writeReport_file houtput hwrite
      have hrun := run_of_attempt_ok (h.attempt_of_ok hbatch hreport)
      have hread := Workspace.read_of_write hwrite
      -- Reading a file does not look at standard error.
      exact ⟨_, hrun, rfl, hread⟩

end

/-- A batch of one method, as text. -/
def voidText : String :=
  "\x7b\"methods\": [\x7b\"method\": \x7b\"owner\": \"a.Task\", \"name\": \"getX\"," ++
    " \"returnType\": \"void\"\x7d, \"upgradedProperty\": \x7b\x7d\x7d]\x7d"

/-- The method returns nothing, and its site is unknown. -/
def voidBatch : Batch :=
  ⟨[⟨⟨.object "a.Task", "getX", [], .raw .void, .unknown⟩, some ⟨[], none, none⟩⟩]⟩

/-- The text is on standard input, and there is nothing else. -/
def voidWorkspace : Workspace where
  files := []
  environment := []
  input := voidText.toUTF8
  output := ""
  error := ""

/-- After a run the log is open. -/
def voidLogged : Workspace := voidWorkspace.logged Settings.default

/-- The text of the report on the batch. -/
def voidReport : String := reportText false (reportOn Settings.default voidBatch)

/-- What standard error shows of the batch. -/
def voidEcho : String :=
  "a.Task.getX(): E_PROPSHIM_MISSING_PROJECT_CONTEXT: " ++ Refusal.noProject.message ++ "\n"

/-- Nothing sets a project, so a run tells of the method that it is refused, by its signature. -/
theorem eq_of_tells_void {exit : Exit} {echo : String}
    (h : Tells (reportOn Settings.default voidBatch) exit echo) :
    exit = .failure ∧ echo = voidEcho := by
  obtain ⟨hlines, hsuccess, -⟩ := h
  have houtcomes : (reportOn Settings.default voidBatch).outcomes =
      [⟨Method.qualifiedSignature ⟨.object "a.Task", "getX", [], .raw .void, .unknown⟩,
        .error ⟨.missingProjectContext, Refusal.noProject.message, some .unknown⟩⟩] := rfl
  rw [houtcomes] at hlines hsuccess
  constructor
  · cases exit with
    | failure => rfl
    | success => simp at hsuccess
  · cases hlines with
    | accepted hresult _ => cases hresult
    | refused hresult hstart hrest =>
      cases hresult
      cases hrest
      cases hstart with
      | site hsite hlocated =>
        cases hsite
        simp [Site.unknown] at hlocated
      | signature => decide +kernel

/-- The method is refused on standard error, and the report goes to standard output or to a file. -/
theorem run_streams_void :
    Starts voidWorkspace ["propshim", "-"] ⟨"-", none, false⟩ Settings.default voidText ∧
    Starts voidWorkspace ["propshim", "-o", "report.json", "-"] ⟨"-", some "report.json", false⟩
      Settings.default voidText ∧
    Batch.format.ofText voidText = .ok voidBatch ∧
    (run host ["propshim", "-"]).run voidWorkspace =
      (.failure, { voidLogged with output := voidReport, error := voidEcho }) ∧
    ∃ w, (run host ["propshim", "-o", "report.json", "-"]).run voidWorkspace = (.failure, w) ∧
      w.output = "" ∧ w.error = voidEcho ∧ w.read "report.json" = .ok voidReport := by
  have hsettings : ((loadSettings host []).run voidWorkspace).1 = .ok Settings.default := by
    decide +kernel
  have hlog : ((openLog host Settings.default).run voidWorkspace).1 = .ok () :=
    (opening_openLog _ _).ok_iff.mpr (.inr ⟨rfl, rfl⟩)
  have hinput : String.fromUTF8? voidWorkspace.input = some voidText :=
    dif_pos voidText.isValidUTF8
  have hbatch : Batch.format.ofText voidText = .ok voidBatch := by decide +kernel
  have hstarts : Starts voidWorkspace ["propshim", "-"] ⟨"-", none, false⟩ Settings.default
      voidText :=
    ⟨⟨by decide +kernel, hsettings⟩, hlog, rfl, hinput⟩
  have hstarts' : Starts voidWorkspace ["propshim", "-o", "report.json", "-"]
      ⟨"-", some "report.json", false⟩ Settings.default voidText :=
    ⟨⟨by decide +kernel, hsettings⟩, hlog, rfl, hinput⟩
  refine ⟨hstarts, hstarts', hbatch, ?_, ?_⟩
  · obtain ⟨-, -, hok⟩ := run_streams hstarts
    obtain ⟨report, exit, echo, hreports, htells, houtput, -⟩ := hok voidBatch hbatch
    obtain rfl := hreports.eq_reportOn
    obtain ⟨rfl, rfl⟩ := eq_of_tells_void htells
    rw [houtput rfl]
    simp only [voidWorkspace, String.empty_append]
    rfl
  · have htarget : voidWorkspace.target "report.json" = .ok (.vacant ["report.json"]) := by
      decide +kernel
    have hwrite : voidWorkspace.write "report.json" voidReport =
        .ok { voidWorkspace with files := [(["report.json"], voidReport)] } := by
      rw [Workspace.write, htarget]
      rfl
    obtain ⟨-, -, hok⟩ := run_streams hstarts'
    obtain ⟨report, exit, echo, hreports, htells, -, hfile⟩ := hok voidBatch hbatch
    obtain rfl := hreports.eq_reportOn
    obtain ⟨rfl, rfl⟩ := eq_of_tells_void htells
    obtain ⟨w, hrun, rfl, hread⟩ := hfile _ _ rfl hwrite
    exact ⟨_, hrun, rfl, String.empty_append, hread⟩

end CommandLine

end AccessorUpgrade
