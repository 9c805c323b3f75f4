import CloudPlan.Deploy.Stack

/-!
# Workspaces

A workspace offers stacks and what can be done with them. An operation begins when its caller
starts to wait. A caller with a limit of zero gives up before that; the operation is not lost, but
is put on an agenda and begins as soon as someone waits on the workspace.
-/

set_option autoImplicit false

namespace CloudPlan

/-- A backend for stacks with a state `σ` and stack handles `η`. -/
structure Workspace (σ η : Type) where
  select : σ → (project stack : String) → Program → Operation η × σ
  configure : σ → η → (key value : String) → Operation η × σ
  up : σ → η → Operation UpResult × σ
  preview : σ → η → Operation ChangeCounts × σ

/-- The workspace of local stacks. -/
def Workspace.ofLocal : Workspace LocalWorkspace LocalStack where
  select w _ stack program := (.instant (.ok (w.openStack stack program)), w)
  configure w stack key value := (.instant (stack.set key value), w)
  up w stack := w.up stack
  preview w stack := w.preview stack

/-- What a run does with its stack. -/
inductive Activity where
  | up
  | preview
deriving DecidableEq, Repr

/-- The event that tells of an activity. -/
def Activity.event : Activity → EventType
  | .up => .deploying
  | .preview => .previewing

/-- Lets an activity begin, whatever comes of it. -/
def Workspace.begin {σ η : Type} (w : Workspace σ η) (state : σ) (activity : Activity)
    (stack : η) : σ :=
  match activity with
  | .up => (w.up state stack).2
  | .preview => (w.preview state stack).2

/-- The state of a workspace, and the activities that have not begun although they are due. -/
structure Agenda (σ η : Type) where
  state : σ
  due : List (Activity × η)

namespace Agenda

variable {σ η : Type}

/-- A state in which nothing is due. -/
def ofState (state : σ) : Agenda σ η := ⟨state, []⟩

/-- Lets what is due begin, in its order. -/
def catchUp (a : Agenda σ η) (w : Workspace σ η) : Agenda σ η :=
  .ofState (a.due.foldl (fun state d => w.begin state d.1 d.2) a.state)

/-- What happens while someone waits for an operation to end. -/
def waitFor {α : Type} (a : Agenda σ η) (w : Workspace σ η) (op : Operation α) : Agenda σ η :=
  if op.isInstant then a else a.catchUp w

/-- Puts an activity off. -/
def postpone (a : Agenda σ η) (activity : Activity) (stack : η) : Agenda σ η :=
  { a with due := a.due ++ [(activity, stack)] }

/-- Closes the gate of a local workspace. -/
def hold (a : Agenda LocalWorkspace LocalStack) : Agenda LocalWorkspace LocalStack :=
  { a with state := a.state.hold }

/-- Opens the gate of a local workspace, and lets what is due and then what waits come to its
end. -/
def release (a : Agenda LocalWorkspace LocalStack) : Agenda LocalWorkspace LocalStack :=
  .ofState ({ a with state := a.state.openGate }.catchUp .ofLocal).state.resumeAll

end Agenda

end CloudPlan
