import CloudPlan.CommandLine.Command
import CloudPlan.Deploy.EventLog
import CloudPlan.Document.Markup
import CloudPlan.Link.LocalProvider
import CloudPlan.Plan.Basic

/-!
# Running commands

`Command.execute` runs a command on the text of its document: what it prints, the progress events
and the error that ends it. Nothing is lowered unless the document has no problems, and nothing is
run unless it could be lowered. `FileStore.dispatch` reads the document from a store of files and
adds the events to the log there, if one was asked for.
-/

set_option autoImplicit false

namespace CloudPlan

/-- Why a command failed. -/
inductive CommandError where
  | unreadable (file : String) (cause : FileError)
  | malformed
  | problems (count : Nat)
  | invalid
  | notLowered (count : Nat)
  | notRun (message : String)
deriving DecidableEq, Repr

/-- The wording of an error. -/
def CommandError.message : CommandError → String
  | .unreadable file cause => "failed to read " ++ file ++ ": " ++ cause.message
  | .malformed => "YAML parse error"
  | .problems count => toString count ++ " validation error(s)"
  | .invalid => "validation failed"
  | .notLowered count => "lowering failed with " ++ toString count ++ " error(s)"
  | .notRun message => message

/-- What a command has printed so far, on standard output and standard error, and its events. -/
structure Transcript where
  output : List String
  notes : List String
  events : List ProgressEvent
deriving DecidableEq, Repr

namespace Transcript

/-- Nothing printed yet. -/
def empty : Transcript := ⟨[], [], []⟩

/-- Lines as a text, each with its end. -/
def text (lines : List String) : String :=
  String.join (lines.map fun line => line ++ "\n")

end Transcript

/-- A part of a command. -/
abbrev Session (α : Type) := ExceptT CommandError (StateM Transcript) α

namespace Session

/-- Prints lines on standard output. -/
def print (lines : List String) : Session Unit :=
  modify fun t => { t with output := t.output ++ lines }

/-- Prints lines on standard error. -/
def note (lines : List String) : Session Unit :=
  modify fun t => { t with notes := t.notes ++ lines }

/-- The line for an event. -/
def eventLine (e : ProgressEvent) : String :=
  let label := match e.type with
    | .stackCreating => "creating stack"
    | .stackConfiguring => "configuring stack"
    | .deploying => "deploying"
    | .previewing => "previewing"
    | .complete => "complete"
    | .error => "error"
  let detail := match e.error with
    | some error => ": " ++ error.message ++ " (" ++ error.category.name ++ ", retryable=" ++
        (if error.retryable then "true" else "false") ++ ")"
    | none => ""
  "[" ++ e.stack ++ "] " ++ label ++ detail

/-- Shows progress events. -/
def announce (events : List ProgressEvent) : Session Unit := do
  note (events.map eventLine)
  modify fun t => { t with events := t.events ++ events }

/-- A line for each error. -/
def errorLines (messages : List String) : List String :=
  messages.map fun message => "  ERROR: " ++ message

/-- The document in a text that was read, or not. -/
def document (file : String) (source : Except FileError String) : Session Document :=
  match source with
  | .error cause => throw (.unreadable file cause)
  | .ok text =>
    match Document.ofYaml? text with
    | some doc => return doc
    | none => throw .malformed

/-- Shows the problems of a document; `fault` is the error when there are any. -/
def requireValid (doc : Document) (fault : Nat → CommandError) : Session Unit := do
  unless doc.problems.isEmpty do
    note (errorLines (doc.problems.map Problem.message))
    throw (fault doc.problems.length)

/-- Lowers a document without problems; a result with errors is a failure. -/
def lower (doc : Document) (mode : LookupMode) : Session LoweringResult := do
  requireValid doc fun _ => .invalid
  let result := (Adapter.standard mode).lower doc
  let warnings := result.diagnostics.filter fun d => d.severity ≠ .error
  note (warnings.map fun d => "  WARN: " ++ d.describe)
  unless result.success do
    note (errorLines (result.errors.map Diagnostic.describe))
    throw (.notLowered result.errors.length)
  return result

/-- Checks a document. -/
def validate (doc : Document) : Session Unit := do
  requireValid doc .problems
  print ["OK: " ++ doc.config.serviceName ++ " (" ++ toString doc.intents.length ++ " intents, " ++
    toString doc.graph.nodes.length ++ " nodes, " ++ toString doc.graph.edges.length ++ " edges)"]

/-- The lines for a lowering result. -/
def loweringLines (service : String) (mode : LookupMode) (result : LoweringResult) :
    List String :=
  ["Lowered: " ++ service ++ " (" ++ toString result.resources.length ++ " resources, lookup=" ++
    mode.name ++ ")", ""] ++
    result.resources.map fun r => "  " ++ r.name ++ " (" ++ r.type ++ ") <- " ++ r.source

/-- A number at the right of three columns. -/
def ordinal (n : Nat) : String :=
  let digits := toString n
  String.ofList (List.replicate (3 - digits.length) ' ') ++ digits

/-- The line for a planned resource. -/
def planLine (position : Nat) (r : PlannedResource) : String :=
  let after := if r.dependsOn.isEmpty then ""
    else " after [" ++ Text.joinWith ", " r.dependsOn ++ "]"
  "  " ++ ordinal (position + 1) ++ ". + " ++ r.name ++ " (" ++ r.type ++ ")" ++ after

/-- The lines for a plan. -/
def planLines (service : String) (plan : Plan) : List String :=
  ["Planning: " ++ service ++ " (" ++ toString plan.resources.length ++ " resources)", ""] ++
    plan.resources.mapIdx planLine ++
    (if plan.outputs.isEmpty then []
      else ["", "Outputs:"] ++ plan.outputs.map fun (key, template) =>
        "  " ++ key ++ " = " ++ template) ++
    ["", "Fingerprint: " ++ plan.fingerprint]

/-- The lines for change counts. -/
def changeLines (counts : ChangeCounts) : List String :=
  counts.map fun (operation, n) => "  " ++ operation ++ ": " ++ toString n

/-- The lines for a deployment. -/
def deployLines (r : DeployResult) : List String :=
  if r.success then
    ["Deploy complete: " ++ r.stack] ++ (r.summary.changes.map changeLines).getD [] ++
      r.outputs.map fun (key, value) => "  " ++ key ++ " = " ++ value.compact
  else []

/-- The lines for a preview. -/
def previewLines (r : PreviewResult) : List String :=
  match r.changes with
  | some changes => ("Preview: " ++ r.stack) :: changeLines changes
  | none => []

/-- The program of a document, on a provider of its own region. -/
def program (doc : Document) (plan : Plan) : Program :=
  ⟨plan, doc.config, (LocalProvider.ofRegion doc.config.region).provider⟩

/-- Lowers and plans a document. -/
def plan (doc : Document) (mode : LookupMode) : Session Plan := do
  return Plan.ofResult (← lower doc mode)

/-- Fails if there is an error. -/
def requireNone (error : Option String) : Session Unit :=
  match error with
  | some message => throw (.notRun message)
  | none => return ()

/-- The options of a run as the clock of the program sees them: it ticks once in a millisecond, so
that no limit is shorter than that. -/
def clocked (o : RunOptions) : RunOptions :=
  { o with timeout := o.timeout.map (max 1) }

/-- The local workspace of a program, on which nothing has been done. -/
def agenda (p : Program) : Agenda LocalWorkspace LocalStack :=
  .ofState (.ofProvider p.provider [])

/-- Applies the plan of a document. -/
def deploy (doc : Document) (run : RunCommand) : Session Unit := do
  let p := program doc (← plan doc run.lookup)
  let (result, events, _) := Workspace.ofLocal.deploy (agenda p) p (clocked run.options)
  announce events
  print (if run.json then [result.json.pretty] else deployLines result)
  requireNone result.error

/-- Previews the plan of a document. -/
def preview (doc : Document) (run : RunCommand) : Session Unit := do
  let p := program doc (← plan doc run.lookup)
  let (result, events, _) := Workspace.ofLocal.previewOnly (agenda p) p (clocked run.options)
  announce events
  print (if run.json then [result.json.pretty] else previewLines result)
  requireNone result.error

end Session

namespace Command

/-- What a command does with its document. -/
def session (command : Command) (doc : Document) : Session Unit :=
  match command with
  | .validate _ => Session.validate doc
  | .lower _ mode json => do
    let result ← Session.lower doc mode
    Session.print (if json then [result.json.pretty]
      else Session.loweringLines doc.config.serviceName mode result)
  | .plan _ mode json => do
    let plan ← Session.plan doc mode
    Session.print (if json then [plan.json.pretty]
      else Session.planLines doc.config.serviceName plan)
  | .preview run => Session.preview doc run
  | .deploy run => Session.deploy doc run

/-- Runs a command on the text of its document, if it could be read. -/
def execute (command : Command) (source : Except FileError String) :
    Except CommandError Unit × Transcript :=
  (do command.session (← Session.document command.file source)).run.run .empty

end Command

namespace FileStore

/-- Adds events to a log as far as that is possible; the clock is read for each of them. -/
def logEvents (s : FileStore) (path : String) (clock : Clock) (events : List ProgressEvent) :
    FileStore :=
  (clock.stamp events).foldl (fun s e => (s.appendEvent path e).2) s

/-- Runs a command on a store of files, with a clock for the times of its events. -/
def dispatch (s : FileStore) (clock : Clock) (command : Command) :
    Except CommandError Unit × Transcript × FileStore :=
  let (result, transcript) := command.execute (s.read command.file)
  let files := match command.eventLog? with
    | some path => s.logEvents path clock transcript.events
    | none => s
  (result, transcript, files)

end FileStore

end CloudPlan
