import CloudPlan.Deploy.Event
import CloudPlan.Link.LocalProvider
import CloudPlan.Link.Program
import CloudPlan.Text.Blank

/-!
# Stacks in this process

A local stack applies its program through the provider of its workspace and previews it through a
provider made for the preview alone. Each provider has a log of the calls made on it. While an
operation runs its stack is busy, and a second one is refused.
-/

set_option autoImplicit false

namespace CloudPlan

/-- The setting that holds the region of a stack. -/
def regionKey : String := "aws:region"

/-- What applying a program comes to. -/
structure UpResult where
  outputs : Entries OutputValue
  changes : ChangeCounts

/-- The names of the stacks with an operation in progress. -/
abbrev BusyStacks := List String

namespace BusyStacks

/-- Starts an operation on a stack. -/
def start (busy : BusyStacks) (stack : String) : Except StackError BusyStacks :=
  if busy.contains stack then .error (.conflict stack) else .ok (stack :: busy)

/-- Ends the operation on a stack. -/
def finish (busy : BusyStacks) (stack : String) : BusyStacks :=
  busy.filter fun s => s ≠ stack

end BusyStacks

/-- A stack with the program that it is made of and its settings. -/
structure LocalStack where
  name : String
  program : Program
  settings : Entries String

namespace LocalStack

/-- A stack without settings. -/
def ofProgram (name : String) (program : Program) : LocalStack := ⟨name, program, []⟩

/-- The region of a stack: the one set, or else the one that the program was made for. -/
def region (s : LocalStack) : String :=
  (Entries.get? s.settings regionKey).getD s.program.config.region

/-- Changes a setting. A blank value is refused. -/
def set (s : LocalStack) (key value : String) : Except StackError LocalStack :=
  if Text.isBlankText value then .error (.config key "value must not be empty")
  else .ok { s with settings := Entries.insertSorted s.settings key value }

/-- The numbers of resources made and skipped. -/
def changeCounts (linked : LinkedOutputs) : ChangeCounts :=
  ("create", linked.objects.length) ::
    if linked.skipped.isEmpty then [] else [("skip", linked.skipped.length)]

/-- What an execution comes to for a stack. -/
def upResult (e : Execution) : Except StackError UpResult :=
  match e.result with
  | .error e => .error (.link e)
  | .ok linked =>
    .ok ⟨Entries.mapValues (fun j => ⟨j, false⟩) linked.outputs, changeCounts linked⟩

/-- The stack's program for a preview, on a provider for this alone with the given log. -/
def dryProgram (s : LocalStack) (log : Nat) : Program :=
  s.program.withProvider ((LocalProvider.ofRegion s.region).provider.withLog log)

/-- What a dry run comes to. -/
def previewResult (e : Execution) : Except StackError ChangeCounts :=
  match e.result with
  | .error e => .error (.link e)
  | .ok linked => .ok (changeCounts linked)

end LocalStack

/-- An operation that has been started: after how long it ends, unless it waits for something
else, and what it comes to. -/
structure Operation (α : Type) where
  duration : Option Nat
  result : Except StackError α

namespace Operation

variable {α : Type}

/-- An operation that ends at once. -/
def instant (result : Except StackError α) : Operation α := ⟨some 0, result⟩

/-- Whether an operation ends without waiting. -/
def isInstant (op : Operation α) : Bool :=
  op.duration == some 0

/-- The outcome for someone who waits until the limit. Ending exactly at the limit is too late. -/
def await (limit : Option Nat) (op : Operation α) : Except StackError α :=
  match limit, op.duration with
  | some limit, none => .error (.timeout limit)
  | some limit, some duration => if limit ≤ duration then .error (.timeout limit) else op.result
  | none, _ => op.result

end Operation

/-- A run that waits at the gate: its stack, the log of its provider, and the calls that it will
make after that. -/
structure WaitingRun where
  stack : String
  log : Nat
  calls : List CreateCall

/-- The state shared by the stacks of one workspace. Construction of the gated names waits while
the gate is closed. -/
structure LocalWorkspace where
  provider : Provider
  gated : List String
  closed : Bool
  busy : BusyStacks
  logs : CallLogs
  waiting : List WaitingRun

namespace LocalWorkspace

/-- A workspace on which nothing has been done. -/
def ofProvider (provider : Provider) (gated : List String) : LocalWorkspace :=
  ⟨provider, gated, true, [], .forProvider provider, []⟩

/-- The calls made on the provider of a workspace. -/
def calls (w : LocalWorkspace) : List CreateCall :=
  w.logs.calls w.provider

/-- The stack of a program on a workspace. -/
def openStack (w : LocalWorkspace) (name : String) (program : Program) : LocalStack :=
  .ofProgram name (program.withProvider w.provider)

/-- Whether a call has to wait. -/
def waits (w : LocalWorkspace) (call : CreateCall) : Bool :=
  w.closed && w.gated.contains call.name

/-- Closes the gate. -/
def hold (w : LocalWorkspace) : LocalWorkspace :=
  { w with closed := true }

/-- Opens the gate. -/
def openGate (w : LocalWorkspace) : LocalWorkspace :=
  { w with closed := false }

/-- Ends the operation on a stack. -/
def finish (w : LocalWorkspace) (stack : String) : LocalWorkspace :=
  { w with busy := w.busy.finish stack }

/-- Lets a waiting run make its calls and end. -/
def resume (w : LocalWorkspace) (run : WaitingRun) : LocalWorkspace :=
  { w with logs := w.logs.add run.log run.calls }.finish run.stack

/-- Lets all waiting runs end. -/
def resumeAll (w : LocalWorkspace) : LocalWorkspace :=
  w.waiting.foldl resume { w with waiting := [] }

/-- Does something on a stack that is busy meanwhile: from the start, which may be refused, until the
operation ends, whatever it comes to. -/
def whileBusy {α : Type} (w : LocalWorkspace) (stack : String)
    (operate : LocalWorkspace → Operation α × LocalWorkspace) : Operation α × LocalWorkspace :=
  match w.busy.start stack with
  | .error e => (.instant (.error e), w)
  | .ok busy =>
    let (op, after) := operate { w with busy }
    (op, if op.isInstant then after.finish stack else after)

/-- Executes the program of a stack up to the first call that has to wait. What is left waits. -/
def execute (w : LocalWorkspace) (s : LocalStack) : Operation UpResult × LocalWorkspace :=
  let execution := s.program.execute
  let result := LocalStack.upResult execution
  let made := execution.calls.takeWhile fun call => !w.waits call
  let log := s.program.provider.log
  let after := { w with logs := w.logs.add log made }
  match execution.calls.drop made.length with
  | [] => (.instant result, after)
  | rest => (⟨none, result⟩, { after with waiting := w.waiting ++ [⟨s.name, log, rest⟩] })

/-- Executes the program of a stack with a provider that is dropped afterwards. -/
def dryRun (w : LocalWorkspace) (s : LocalStack) : Operation ChangeCounts × LocalWorkspace :=
  let (execution, logs) := (s.dryProgram w.logs.length).executeIn w.logs.opened
  (.instant (LocalStack.previewResult execution), { w with logs := logs.dropped })

/-- Applies the program of a stack. -/
def up (w : LocalWorkspace) (s : LocalStack) : Operation UpResult × LocalWorkspace :=
  w.whileBusy s.name fun w => w.execute s

/-- Previews the program of a stack. -/
def preview (w : LocalWorkspace) (s : LocalStack) : Operation ChangeCounts × LocalWorkspace :=
  w.whileBusy s.name fun w => w.dryRun s

end LocalWorkspace

end CloudPlan
