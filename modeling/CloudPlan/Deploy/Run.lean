import CloudPlan.Deploy.Workspace

/-!
# Deploying and previewing

Both operations go through the same steps: the stack is created or selected, its region is set, the
operation runs, perhaps under a time limit, and a last event tells how it ended. A failure does not
escape; it is classified and reported in the result.
-/

set_option autoImplicit false

namespace CloudPlan

/-- What a caller may choose. -/
structure RunOptions where
  stack : Option String
  project : Option String
  timeout : Option Nat

/-- Nothing chosen. -/
def RunOptions.default : RunOptions := ⟨none, none, none⟩

/-- The name of a program's stack when none is chosen. -/
def Program.defaultStack (p : Program) : String :=
  p.config.serviceName ++ "-" ++ p.config.region

/-- The stack of a run. -/
def RunOptions.stackFor (o : RunOptions) (p : Program) : String :=
  o.stack.getD p.defaultStack

/-- The project of a run. -/
def RunOptions.projectFor (o : RunOptions) (p : Program) : String :=
  o.project.getD p.config.serviceName

/-- How a run ended, the events it emitted and what it left. -/
structure RunReport (σ η α : Type) where
  outcome : Except ClassifiedError α
  events : List ProgressEvent
  agenda : Agenda σ η

section

variable {σ η α : Type}

/-- Creates or selects the stack of a run. -/
def Workspace.obtain (w : Workspace σ η) (a : Agenda σ η) (p : Program) (o : RunOptions) :
    Except StackError η × Agenda σ η :=
  let (op, state) := w.select a.state (o.projectFor p) (o.stackFor p) p
  (op.result, { a with state }.waitFor w op)

/-- Sets the region of a stack. -/
def Workspace.setRegion (w : Workspace σ η) (a : Agenda σ η) (stack : η) (region : String) :
    Except StackError η × Agenda σ η :=
  let (op, state) := w.configure a.state stack regionKey region
  (op.result, { a with state }.waitFor w op)

/-- Runs an activity, by way of `operate`, for someone who waits until the limit. -/
def Workspace.perform (w : Workspace σ η) (activity : Activity)
    (operate : σ → η → Operation α × σ) (a : Agenda σ η) (stack : η) (limit : Option Nat) :
    Except StackError α × Agenda σ η :=
  if limit = some 0 then (.error (.timeout 0), a.postpone activity stack)
  else
    let (op, state) := operate (a.catchUp w).state stack
    (op.await limit, .ofState state)

/-- The steps of a run before its last event: the outcome, the types of the events and what is
left. -/
def Workspace.runSteps (w : Workspace σ η) (activity : Activity)
    (operate : σ → η → Operation α × σ) (a : Agenda σ η) (p : Program) (o : RunOptions) :
    Except StackError α × List EventType × Agenda σ η :=
  match w.obtain a p o with
  | (.error e, a) => (.error e, [.stackCreating], a)
  | (.ok stack, a) =>
    match w.setRegion a stack p.config.region with
    | (.error e, a) => (.error e, [.stackCreating, .stackConfiguring], a)
    | (.ok stack, a) =>
      let (result, a) := w.perform activity operate a stack o.timeout
      (result, [.stackCreating, .stackConfiguring, activity.event], a)

/-- The last event of a run. -/
def lastEvent {α : Type} (stack : String) : Except ClassifiedError α → ProgressEvent
  | .ok _ => .ofType .complete stack
  | .error detail => ⟨.error, stack, some detail⟩

/-- A whole run. -/
def Workspace.run (w : Workspace σ η) (activity : Activity)
    (operate : σ → η → Operation α × σ) (a : Agenda σ η) (p : Program) (o : RunOptions) :
    RunReport σ η α :=
  let stack := o.stackFor p
  let (result, types, agenda) := w.runSteps activity operate a p o
  let outcome := result.mapError StackError.classify
  ⟨outcome, types.map (ProgressEvent.ofType · stack) ++ [lastEvent stack outcome], agenda⟩

end

/-- The result of a deployment. -/
def DeployResult.ofOutcome (stack : String) : Except ClassifiedError UpResult → DeployResult
  | .ok up =>
    ⟨true, stack, Entries.mapValues OutputValue.value up.outputs, ⟨some up.changes⟩, none, none⟩
  | .error detail => ⟨false, stack, [], ⟨none⟩, some detail.message, some detail⟩

/-- The result of a preview. -/
def PreviewResult.ofOutcome (stack : String) : Except ClassifiedError ChangeCounts → PreviewResult
  | .ok changes => ⟨true, stack, some changes, none, none⟩
  | .error detail => ⟨false, stack, none, some detail.message, some detail⟩

/-- Applies a program to its stack. -/
def Workspace.deploy {σ η : Type} (w : Workspace σ η) (a : Agenda σ η) (p : Program)
    (o : RunOptions) : DeployResult × List ProgressEvent × Agenda σ η :=
  let report := w.run .up w.up a p o
  (.ofOutcome (o.stackFor p) report.outcome, report.events, report.agenda)

/-- Previews a program on its stack. -/
def Workspace.previewOnly {σ η : Type} (w : Workspace σ η) (a : Agenda σ η) (p : Program)
    (o : RunOptions) : PreviewResult × List ProgressEvent × Agenda σ η :=
  let report := w.run .preview w.preview a p o
  (.ofOutcome (o.stackFor p) report.outcome, report.events, report.agenda)

end CloudPlan
