import CloudPlan.Proofs.LogAppends
import CloudPlan.Proofs.Pass
import CloudPlan.Proofs.Preview
import CloudPlan.Proofs.RunProtocol

/-!
# Running the document of a command

A command that deploys or previews acts on its document only if it can be read, has no problems and is
lowered without errors. Then nothing but the execution of its plan can fail: the workspace is a new
one, on which no stack is busy, and a document without problems has a region that a stack can be set
to. `FileStore.dispatch_run` says what is left in the files in either case.
-/

set_option autoImplicit false

namespace CloudPlan

/-- The command for an activity. -/
def Activity.command (activity : Activity) (run : RunCommand) : Command :=
  match activity with
  | .up => .deploy run
  | .preview => .preview run

/-- A text that is not acted on: it holds no document, or one with problems, or one that is lowered
with an error. -/
inductive Document.Unfit (text : String) (mode : LookupMode) : Prop where
  | malformed (unread : Document.ofYaml? text = none)
  | invalid {doc : Document} (read : Document.ofYaml? text = some doc) (invalid : doc.problems ≠ [])
  | unlowered {doc : Document} {d : Diagnostic} (read : Document.ofYaml? text = some doc)
      (reported : d ∈ ((Adapter.standard mode).lower doc).diagnostics)
      (error : d.severity = .error)

/-- A text that holds a document that is acted on. -/
structure Document.Fit (text : String) (mode : LookupMode) (doc : Document) : Prop where
  read : Document.ofYaml? text = some doc
  valid : doc.problems = []
  lowered : ((Adapter.standard mode).lower doc).success = true

namespace Document

variable {text : String} {mode : LookupMode}

/-- A document is lowered with success if none of its diagnostics is an error. -/
theorem success_iff (doc : Document) :
    ((Adapter.standard mode).lower doc).success = true ↔
      ∀ d ∈ ((Adapter.standard mode).lower doc).diagnostics, d.severity ≠ .error :=
  Pass.success_finish_iff

/-- A document that is acted on is not one that is refused. -/
theorem Fit.not_unfit {doc : Document} (fit : Fit text mode doc) : ¬ Unfit text mode := by
  intro unfit
  cases unfit with
  | malformed unread => cases unread.symm.trans fit.read
  | invalid read invalid =>
    cases read.symm.trans fit.read
    exact invalid fit.valid
  | unlowered read reported error =>
    cases read.symm.trans fit.read
    exact (success_iff doc).mp fit.lowered _ reported error

/-- What is not unfit is fit. -/
theorem exists_fit (fit : ¬ Unfit text mode) : ∃ doc, Fit text mode doc := by
  cases read : Document.ofYaml? text with
  | none => exact absurd (.malformed read) fit
  | some doc =>
    refine ⟨doc, read, ?_, ?_⟩
    · exact by_contra fun invalid => fit (.invalid read invalid)
    · rw [success_iff]
      exact fun d reported error => fit (.unlowered read reported error)

/-- A document without problems has a region. -/
theorem region_of_valid {doc : Document} (valid : doc.problems = []) :
    Text.isBlankText doc.config.region = false := by
  cases blank : Text.isBlankText doc.config.region with
  | false => rfl
  | true => simp [problems, configProblems, blank] at valid

end Document

namespace Session

/-! ## What a session emits -/

/-- A part of a session comes to a result and emits some events, whatever has been printed before. -/
def Emits {α : Type} (x : Session α) (result : Except CommandError α) (events : List ProgressEvent) :
    Prop :=
  ∀ t, ∃ t', x.run.run t = (result, t') ∧ t'.events = t.events ++ events

namespace Emits

variable {α β : Type} {x : Session α} {f : α → Session β} {events later : List ProgressEvent}

/-- What comes after a part that yields a value goes on with it. -/
theorem bind {a : α} {result : Except CommandError β} (first : x.Emits (.ok a) events)
    (second : (f a).Emits result later) : (x >>= f).Emits result (events ++ later) := by
  intro t
  obtain ⟨t', run, emitted⟩ := first t
  obtain ⟨t'', run', emitted'⟩ := second t'
  refine ⟨t'', ?_, by rw [emitted', emitted, List.append_assoc]⟩
  rw [ExceptT.run_bind, StateT.run_bind, run]
  exact run'

/-- A part that emits nothing leaves it to what comes after. -/
theorem silent_bind {a : α} {result : Except CommandError β} (first : x.Emits (.ok a) [])
    (second : (f a).Emits result later) : (x >>= f).Emits result later := by
  have both := first.bind second
  rwa [List.nil_append] at both

/-- Nothing comes after a part that fails. -/
theorem bind_error {e : CommandError} (first : x.Emits (.error e) events) :
    (x >>= f).Emits (.error e) events := by
  intro t
  obtain ⟨t', run, emitted⟩ := first t
  refine ⟨t', ?_, emitted⟩
  rw [ExceptT.run_bind, StateT.run_bind, run]
  rfl

/-- To end with a value emits nothing. -/
theorem pure (a : α) : (Pure.pure a : Session α).Emits (.ok a) [] :=
  fun t => ⟨t, rfl, by simp⟩

/-- To fail emits nothing. -/
theorem throw (e : CommandError) : (MonadExcept.throw e : Session α).Emits (.error e) [] :=
  fun t => ⟨t, rfl, by simp⟩

/-- To print emits nothing. -/
theorem print (lines : List String) : (Session.print lines).Emits (.ok ()) [] :=
  fun _ => ⟨_, rfl, by simp⟩

/-- To print on standard error emits nothing. -/
theorem note (lines : List String) : (Session.note lines).Emits (.ok ()) [] :=
  fun _ => ⟨_, rfl, by simp⟩

/-- Announced events are emitted. -/
theorem announce (events : List ProgressEvent) :
    (Session.announce events).Emits (.ok ()) events :=
  fun _ => ⟨_, rfl, rfl⟩

end Emits

variable {doc : Document} {mode : LookupMode} {text : String}

/-- A document without problems passes its check. -/
theorem emits_requireValid (valid : doc.problems = []) (fault : Nat → CommandError) :
    (requireValid doc fault).Emits (.ok ()) [] := by
  unfold requireValid
  rw [valid]
  exact .pure ()

/-- One with problems fails there, with their number. -/
theorem emits_requireValid_error (invalid : doc.problems ≠ []) (fault : Nat → CommandError) :
    (requireValid doc fault).Emits (.error (fault doc.problems.length)) [] := by
  unfold requireValid
  rw [if_neg (by simpa using invalid)]
  exact .silent_bind (.note _) (.throw _)

/-- A document without problems that is lowered with success yields its result. -/
theorem emits_lower (valid : doc.problems = [])
    (lowered : ((Adapter.standard mode).lower doc).success = true) :
    (lower doc mode).Emits (.ok ((Adapter.standard mode).lower doc)) [] := by
  unfold lower
  refine .silent_bind (emits_requireValid valid _) (.silent_bind (.note _) ?_)
  rw [lowered]
  exact .pure _

/-- One that is not lowered with success fails with the number of errors. -/
theorem emits_lower_error (unlowered : ((Adapter.standard mode).lower doc).success = false)
    (valid : doc.problems = []) :
    (lower doc mode).Emits (.error (.notLowered ((Adapter.standard mode).lower doc).errors.length))
      [] := by
  unfold lower
  refine .silent_bind (emits_requireValid valid _) (.silent_bind (.note _) ?_)
  rw [unlowered]
  exact .silent_bind (.note _) (.bind_error (.throw _))

/-- How a session ends whose run has an error or none. -/
def verdict : Option String → Except CommandError Unit
  | none => .ok ()
  | some message => .error (.notRun message)

/-- A command succeeds if there is no error to report. -/
theorem verdict_eq_ok_iff (error : Option String) : verdict error = .ok () ↔ error = none := by
  cases error with
  | none => exact iff_of_true rfl rfl
  | some message => exact iff_of_false nofun nofun

/-- An error that is reported ends the command. -/
theorem emits_requireNone (error : Option String) :
    (requireNone error).Emits (verdict error) [] := by
  cases error with
  | none => exact .pure ()
  | some message => exact .throw _

/-- The error of a run for an activity, if it has one, and the events that it emits. -/
def reported (activity : Activity) (p : Program) (o : RunOptions) :
    Option String × List ProgressEvent :=
  match activity with
  | .up =>
    let (result, events, _) := Workspace.ofLocal.deploy (agenda p) p o
    (result.error, events)
  | .preview =>
    let (result, events, _) := Workspace.ofLocal.previewOnly (agenda p) p o
    (result.error, events)

/-- The program that a command makes of a document. -/
def programOf (doc : Document) (mode : LookupMode) : Program :=
  program doc (Plan.ofResult ((Adapter.standard mode).lower doc))

variable (activity : Activity) {run : RunCommand}

/-- A command runs the plan of a document without problems that is lowered without errors. -/
theorem emits_session (valid : doc.problems = [])
    (lowered : ((Adapter.standard run.lookup).lower doc).success = true) :
    let report := reported activity (programOf doc run.lookup) (clocked run.options)
    ((activity.command run).session doc).Emits (verdict report.1) report.2 := by
  intro report
  have planned : (plan doc run.lookup).Emits
      (.ok (Plan.ofResult ((Adapter.standard run.lookup).lower doc))) [] :=
    .silent_bind (emits_lower valid lowered) (.pure _)
  have shown (lines : List String) :
      (do announce report.2; print lines; requireNone report.1).Emits
        (verdict report.1) (report.2 ++ []) :=
    .bind (.announce _) (.silent_bind (.print _) (emits_requireNone _))
  rw [List.append_nil] at shown
  cases activity with
  | up => exact .silent_bind planned (shown _)
  | preview => exact .silent_bind planned (shown _)

/-- A command emits nothing and fails if it cannot plan its document. -/
theorem emits_session_error {e : CommandError} (failed : (lower doc run.lookup).Emits (.error e) []) :
    ((activity.command run).session doc).Emits (.error e) [] := by
  have planned : (plan doc run.lookup).Emits (.error e) [] := failed.bind_error
  cases activity with
  | up => exact planned.bind_error
  | preview => exact planned.bind_error

end Session

/-! ## Commands -/

namespace Command

open Session (programOf reported verdict clocked)

variable {text : String} {run : RunCommand} (activity : Activity)

/-- A command ends with what it emits while it reads its text and acts on it. -/
theorem execute_eq_of_emits {command : Command} {source : Except FileError String}
    {result : Except CommandError Unit} {events : List ProgressEvent}
    (emits : (Session.document command.file source >>= command.session).Emits result events) :
    (command.execute source).1 = result ∧ (command.execute source).2.events = events := by
  obtain ⟨t, run, emitted⟩ := emits .empty
  have executed : command.execute source = (result, t) := run
  rw [executed]
  exact ⟨rfl, emitted⟩

/-- A command on a text that holds a document does what its session does with the document. -/
theorem execute_eq {command : Command} {doc : Document} {result : Except CommandError Unit}
    {events : List ProgressEvent} (read : Document.ofYaml? text = some doc)
    (emits : (command.session doc).Emits result events) :
    (command.execute (.ok text)).1 = result ∧ (command.execute (.ok text)).2.events = events := by
  have document : (Session.document command.file (.ok text)).Emits (.ok doc) [] := by
    simp only [Session.document, read]
    exact .pure doc
  exact execute_eq_of_emits (document.silent_bind emits)

/-- A command fails on what is unfit and emits nothing. -/
theorem execute_of_unfit (unfit : Document.Unfit text run.lookup) :
    (∃ e, ((activity.command run).execute (.ok text)).1 = .error e) ∧
      ((activity.command run).execute (.ok text)).2.events = [] := by
  have refused {doc : Document} {e : CommandError} (read : Document.ofYaml? text = some doc)
      (failed : (Session.lower doc run.lookup).Emits (.error e) []) :
      (∃ e, ((activity.command run).execute (.ok text)).1 = .error e) ∧
        ((activity.command run).execute (.ok text)).2.events = [] := by
    obtain ⟨failed, silent⟩ := execute_eq read (Session.emits_session_error activity failed)
    exact ⟨⟨e, failed⟩, silent⟩
  cases unfit with
  | malformed unread =>
    have document : (Session.document (activity.command run).file (.ok text)).Emits
        (.error .malformed) [] := by
      simp only [Session.document, unread]
      exact .throw _
    obtain ⟨failed, silent⟩ := execute_eq_of_emits document.bind_error
    exact ⟨⟨_, failed⟩, silent⟩
  | invalid read invalid =>
    exact refused read (.bind_error (Session.emits_requireValid_error invalid _))
  | @unlowered doc d read reported error =>
    by_cases valid : doc.problems = []
    · refine refused read (Session.emits_lower_error ?_ valid)
      rw [← Bool.not_eq_true, Document.success_iff]
      exact fun clean => clean d reported error
    · exact refused read (.bind_error (Session.emits_requireValid_error valid _))

/-- A command runs the plan of what is fit. -/
theorem execute_of_fit {doc : Document} (fit : Document.Fit text run.lookup doc) :
    let report := reported activity (programOf doc run.lookup) (clocked run.options)
    ((activity.command run).execute (.ok text)).1 = verdict report.1 ∧
      ((activity.command run).execute (.ok text)).2.events = report.2 :=
  execute_eq fit.read (Session.emits_session activity fit.valid fit.lowered)

end Command

/-! ## Runs on a new workspace -/

namespace Session

variable {p : Program} {o : RunOptions}

/-- The stack that a run configures: it has the region of the settings. -/
def configuredStack (p : Program) (o : RunOptions) : LocalStack :=
  { LocalStack.ofProgram (o.stackFor p) p with settings := [(regionKey, p.config.region)] }

/-- A region that is not blank can be set. -/
theorem configures_agenda (region : Text.isBlankText p.config.region = false) :
    Workspace.ofLocal.Configures (agenda p) p o (configuredStack p o) (agenda p) := by
  refine ⟨LocalStack.ofProgram (o.stackFor p) p, agenda p, rfl, ?_⟩
  have set : (LocalStack.ofProgram (o.stackFor p) p).set regionKey p.config.region =
      .ok (configuredStack p o) := by
    unfold LocalStack.set
    rw [region]
    rfl
  exact Prod.ext set rfl

/-- On a new workspace no stack is busy. -/
theorem not_busy_agenda (stack : String) : stack ∉ (agenda p).state.busy :=
  List.not_mem_nil

/-- Without a limit, an activity on a new workspace comes to what executing the program comes to. -/
theorem run_agenda {α : Type} (activity : Activity)
    {operate : LocalWorkspace → LocalStack → Operation α × LocalWorkspace}
    (region : Text.isBlankText p.config.region = false) (unlimited : o.timeout = none)
    {result : Except StackError α}
    (executes : (operate (agenda p).state (configuredStack p o)).1.result = result) :
    let report := Workspace.ofLocal.run activity operate (agenda p) p o
    report.outcome.isOk = result.isOk ∧
      report.events.map ProgressEvent.type =
        [.stackCreating, .stackConfiguring, activity.event,
          if result.isOk then .complete else .error] := by
  intro report
  obtain ⟨outcome, types⟩ := (Workspace.ofLocal.ran_runSteps activity operate (agenda p) p
    o).of_configures (configures_agenda region) unlimited
  have outcome' : report.outcome.isOk = result.isOk := by
    rw [← outcome.trans executes]
    show ((Workspace.ofLocal.runSteps activity operate (agenda p) p o).1.mapError _).isOk = _
    cases (Workspace.ofLocal.runSteps activity operate (agenda p) p o).1 <;> rfl
  refine ⟨outcome', ?_⟩
  show ((Workspace.ofLocal.runSteps activity operate (agenda p) p o).2.1.map
    (ProgressEvent.ofType · (o.stackFor p)) ++ [lastEvent (o.stackFor p) report.outcome]).map
      ProgressEvent.type = _
  rw [types, Workspace.lastEvent_eq, outcome']
  rfl

/-- The stack that is configured is previewed in the region of the program. -/
theorem dryRun_configuredStack
    (own : p.provider = (LocalProvider.ofRegion p.config.region).provider) :
    (configuredStack p o).dryRun = p.execute := by
  have region : (configuredStack p o).region = p.config.region := by
    unfold LocalStack.region configuredStack Entries.get?
    rw [if_pos rfl]
    rfl
  unfold LocalStack.dryRun
  rw [region, ← own]
  rfl

/-- A result is a success if it has a value. -/
theorem isOk_iff {ε α : Type} {x : Except ε α} : x.isOk = true ↔ ∃ a, x = .ok a := by
  cases x with
  | ok a => exact iff_of_true rfl ⟨a, rfl⟩
  | error e => exact iff_of_false nofun nofun

/-- A deployment reports an error exactly if it has failed. -/
theorem deployError_eq_none_iff {stack : String} {outcome : Except ClassifiedError UpResult} :
    (DeployResult.ofOutcome stack outcome).error = none ↔ outcome.isOk = true := by
  cases outcome with
  | ok up => exact iff_of_true rfl rfl
  | error detail => exact iff_of_false nofun nofun

/-- So does a preview. -/
theorem previewError_eq_none_iff {stack : String} {outcome : Except ClassifiedError ChangeCounts} :
    (PreviewResult.ofOutcome stack outcome).error = none ↔ outcome.isOk = true := by
  cases outcome with
  | ok changes => exact iff_of_true rfl rfl
  | error detail => exact iff_of_false nofun nofun

/-- Applying succeeds exactly if the execution does. -/
theorem isOk_upResult (e : Execution) : (LocalStack.upResult e).isOk = e.result.isOk := by
  unfold LocalStack.upResult
  cases e.result <;> rfl

/-- So does previewing. -/
theorem isOk_previewResult (e : Execution) : (LocalStack.previewResult e).isOk = e.result.isOk := by
  unfold LocalStack.previewResult
  cases e.result <;> rfl

/-- Without a limit, a run for a program with the local provider of its own region has an error
unless the program is executed, and it emits four events. -/
theorem reported_eq (activity : Activity) (region : Text.isBlankText p.config.region = false)
    (own : p.provider = (LocalProvider.ofRegion p.config.region).provider)
    (unlimited : o.timeout = none) :
    ((reported activity p o).1 = none ↔ ∃ linked, p.execute.result = .ok linked) ∧
      (reported activity p o).2.map ProgressEvent.type =
        [.stackCreating, .stackConfiguring, activity.event,
          if p.execute.result.isOk then .complete else .error] := by
  cases activity with
  | up =>
    have executes : (Workspace.ofLocal.up (agenda p).state (configuredStack p o)).1.result =
        LocalStack.upResult p.execute :=
      LocalWorkspace.result_up (not_busy_agenda _)
    obtain ⟨outcome, types⟩ := run_agenda .up region unlimited executes
    rw [isOk_upResult] at outcome types
    refine ⟨deployError_eq_none_iff.trans ?_, types⟩
    rw [outcome, isOk_iff]
  | preview =>
    have executes : (Workspace.ofLocal.preview (agenda p).state (configuredStack p o)).1.result =
        LocalStack.previewResult p.execute := by
      rw [← dryRun_configuredStack own]
      exact congrArg (fun q => q.1.result) (LocalWorkspace.preview_eq (not_busy_agenda _))
    obtain ⟨outcome, types⟩ := run_agenda .preview region unlimited executes
    rw [isOk_previewResult] at outcome types
    refine ⟨previewError_eq_none_iff.trans ?_, types⟩
    rw [outcome, isOk_iff]

end Session

/-! ## Commands on files -/

namespace FileStore

variable (s : FileStore) (clock : Clock) (activity : Activity) (run : RunCommand)

/-- A command reads its text, is executed on it and logs its events. -/
theorem dispatch_eq {text : String} (read : s.read run.file = .ok text) :
    let ran := s.dispatch clock (activity.command run)
    let executed := (activity.command run).execute (.ok text)
    ran.1 = executed.1 ∧ ran.2.1 = executed.2 ∧
      ran.2.2 = match run.eventLog with
        | some path => s.logEvents path clock ran.2.1.events
        | none => s := by
  rw [← read]
  cases activity <;> exact ⟨rfl, rfl, rfl⟩

/-- The text of a document with one queue. -/
def queueText : String :=
  "config:\n  region: us-east-1\n  service_name: orders\n" ++
    "graph:\n  nodes:\n    - id: platform:jobs\n      properties:\n        platform: queue\n"

/-- The queue of that document. -/
def queueNode : Node := ⟨"platform:jobs", [("platform", .string "queue")]⟩

/-- The document in that text. -/
def queueDocument : Document := ⟨⟨"us-east-1", "orders", none, none⟩, [], ⟨[queueNode], []⟩⟩

/-- A document whose service has no name. -/
def namelessText : String :=
  "config:\n  region: us-east-1\n  service_name: ''\n"

/-- A store with both texts. -/
def documentStore : FileStore :=
  ⟨[(["cirrus.yaml"], .file queueText), (["draft.yaml"], .file namelessText)]⟩

/-- What depends on nothing is constructed alone. -/
theorem constructionOrder_alone {r : Resource} (free : r.dependsOn = []) :
    constructionOrder [r] = [r] := by
  have visited : Walk.visit [(r.name, r)] .start r.name = (Walk.start.enter r.name).finish r := by
    simp only [Walk.visit, Entries.get?, if_true, Walk.mark?, Walk.start]
    rw [free, Walk.run, Walk.run]
  show (Walk.visit [(r.name, r)] .start r.name).finished.reverse = [r]
  rw [visited]
  rfl

/-- The text with the queue is acted on. -/
theorem fit_queueText : Document.Fit queueText .registry queueDocument :=
  ⟨by decide +kernel, by decide, by decide⟩

/-- The text whose service has no name is refused. -/
theorem unfit_namelessText : Document.Unfit namelessText .registry := by
  have read : Document.ofYaml? namelessText =
      some ⟨⟨"us-east-1", "", none, none⟩, [], .empty⟩ := by decide +kernel
  exact .invalid read (by decide)

/-- The plan of the queue is executed, whichever way lowerers are looked up. -/
theorem exists_linked_queue (mode : LookupMode) : ∃ linked,
    (Program.execute ⟨Plan.ofResult ((Adapter.standard mode).lower queueDocument),
      queueDocument.config, (LocalProvider.ofRegion queueDocument.config.region).provider⟩).result =
        .ok linked := by
  have lowered : ((Adapter.standard mode).lower queueDocument).resources = [queueOf queueNode] := by
    cases mode <;> decide +kernel
  unfold Plan.ofResult
  rw [lowered, constructionOrder_alone rfl]
  exact ⟨_, rfl⟩

/-- A log can be made in a directory that is not there yet. -/
theorem logWritable_documentStore : documentStore.LogWritable "logs/run.jsonl" :=
  ⟨_, _, none, rfl, rfl⟩

/-- A clock that shows a second more for each event. -/
def leapDayClock : Clock := ⟨fun n => "2024-02-29T00:00:0" ++ toString n ++ "Z"⟩

end FileStore

end CloudPlan
