import CloudPlan.Deploy.Run

/-!
# Scripted workspaces

A workspace whose operations do what a script says, and which remembers what it was asked.
-/

set_option autoImplicit false

namespace CloudPlan

/-- What a scripted workspace was asked. -/
inductive BackendRequest where
  | select (project stack : String) (resources : Nat)
  | configure (key value : String)
  | up
  | preview
deriving DecidableEq, Repr

/-- What a scripted operation does: it waits, and then it may fail. -/
structure ScriptStep where
  sleep : Nat
  failure : Option StackError

/-- The step that does nothing. -/
def ScriptStep.idle : ScriptStep := ⟨0, none⟩

/-- The operation of a step that otherwise yields a given value. -/
def ScriptStep.operation {α : Type} (step : ScriptStep) (a : α) : Operation α :=
  ⟨some step.sleep, match step.failure with
    | some e => .error e
    | none => .ok a⟩

/-- What every operation of a workspace does. -/
structure Script where
  select : ScriptStep
  configure : ScriptStep
  up : ScriptStep
  upResult : UpResult
  preview : ScriptStep
  previewResult : ChangeCounts

/-- The workspace of a script. -/
def Workspace.ofScript (script : Script) : Workspace (List BackendRequest) Unit where
  select log project stack program :=
    (script.select.operation (), log ++ [.select project stack program.plan.resources.length])
  configure log _ key value := (script.configure.operation (), log ++ [.configure key value])
  up log _ := (script.up.operation script.upResult, log ++ [.up])
  preview log _ := (script.preview.operation script.previewResult, log ++ [.preview])

end CloudPlan
