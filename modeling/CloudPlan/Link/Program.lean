import CloudPlan.Config
import CloudPlan.Link.Reference
import CloudPlan.Resource.Basic

/-!
# Executing a plan

A program constructs the resources of a plan strictly one after another, replacing references by
what the objects constructed before have, and stops at the first failure. Resources of types that
the provider does not support are skipped. After that the output templates are resolved.
-/

set_option autoImplicit false

namespace CloudPlan

/-- What an execution that succeeds has made. -/
structure LinkedOutputs where
  outputs : Entries Json
  objects : List LiveObject
  skipped : List String
deriving DecidableEq, Repr

/-- How far an execution has come. `live` holds the last object of each name. -/
structure Progress where
  live : LiveObjects
  objects : List LiveObject
  skipped : List String
  calls : List CreateCall

/-- Nothing constructed yet. -/
def Progress.start : Progress := ⟨[], [], [], []⟩

/-- The outcome of an execution and the construction calls it made. -/
structure Execution where
  calls : List CreateCall
  result : Except LinkError LinkedOutputs

/-- A plan with the settings it was made for and the provider that constructs its resources. -/
structure Program where
  plan : Plan
  config : Config
  provider : Provider

/-- The inputs of a resource, with references replaced. -/
def PlannedResource.resolveInputs (r : PlannedResource) (live : LiveObjects) :
    Except LinkError (Entries Json) :=
  r.properties.mapM fun (key, value) =>
    (value.resolve ⟨r.name, r.type, key⟩ live).map fun j => (key, j)

/-- The request that constructs a resource from its inputs. -/
def PlannedResource.request (r : PlannedResource) (live : LiveObjects) (inputs : Entries Json) :
    CreateRequest :=
  ⟨r.name, r.type, inputs, r.dependsOn.filterMap fun name => Entries.get? live name⟩

/-- Constructs resources in order until one fails. -/
def construct (provider : Provider) (progress : Progress) :
    List PlannedResource → Progress × Option LinkError
  | [] => (progress, none)
  | r :: rest =>
    if provider.supports r.type then
      match r.resolveInputs progress.live with
      | .error e => (progress, some e)
      | .ok inputs =>
        let request := r.request progress.live inputs
        let calls := progress.calls ++ [request.call]
        match provider.create request with
        | .error message =>
          ({ progress with calls }, some (.construction r.name r.type message))
        | .ok object =>
          construct provider
            { progress with
              live := Entries.insert progress.live r.name object
              objects := progress.objects ++ [object]
              calls } rest
    else construct provider { progress with skipped := progress.skipped ++ [r.name] } rest

/-- The value of one output template. -/
def resolveOutput (live : LiveObjects) (key template : String) : Except LinkError Json :=
  match parseTemplate? template with
  | none => .error (.invalidTemplate key template)
  | some (name, field) =>
    match (Entries.get? live name).bind fun object => object.field? field with
    | none => .error (.unresolvedOutput key name field)
    | some j => .ok j

/-- The values of output templates, up to the first that has none. -/
def resolveOutputs (live : LiveObjects) (templates : Entries String) :
    Except LinkError (Entries Json) :=
  templates.mapM fun (key, template) => (resolveOutput live key template).map fun j => (key, j)

namespace Program

/-- Executes a program. -/
def execute (p : Program) : Execution :=
  match construct p.provider .start p.plan.resources with
  | (progress, some e) => ⟨progress.calls, .error e⟩
  | (progress, none) =>
    ⟨progress.calls, (resolveOutputs progress.live p.plan.outputs).map fun outputs =>
      ⟨outputs, progress.objects, progress.skipped⟩⟩

/-- Executes a program. The calls are in the log of its provider afterwards. -/
def executeIn (p : Program) (logs : CallLogs) : Execution × CallLogs :=
  let execution := p.execute
  (execution, logs.add p.provider.log execution.calls)

/-- The same plan with another provider. -/
def withProvider (p : Program) (provider : Provider) : Program :=
  { p with provider }

end Program

end CloudPlan
