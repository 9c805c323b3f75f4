import CloudPlan.Deploy.Stack
import CloudPlan.Proofs.Regions

/-!
# What a preview tells

A preview executes the program of a stack with a provider of its own, in the region that the stack is
set to, while applying executes it with the provider of the workspace. The two regions need not be the
same, and what comes out differs in texts. But a preview counts, and counts do not depend on texts: so
a preview comes to what applying the stack would come to, number by number or with the same error.

It also leaves the workspace as it is (`preview_predicts_up`). Its calls are in the log of its own
provider, which is dropped with the provider (`LocalWorkspace.dryRun_eq`), and the stack is busy no
longer than the run, however that ends (`BusyStacks.finish_of_start`).
-/

set_option autoImplicit false

namespace CloudPlan

/-! ## Busy stacks -/

namespace BusyStacks

variable {busy next : BusyStacks} {stack name : String}

/-- A run starts on a stack exactly if the stack is not busy, and makes it busy. -/
theorem start_eq_ok_iff : busy.start stack = .ok next ↔ stack ∉ busy ∧ next = stack :: busy := by
  unfold start
  by_cases taken : stack ∈ busy <;> simp [taken, eq_comm]

/-- A start is refused only because the stack is busy. -/
theorem start_eq_error_iff {e : StackError} :
    busy.start stack = .error e ↔ stack ∈ busy ∧ e = .conflict stack := by
  unfold start
  by_cases taken : stack ∈ busy <;> simp [taken, eq_comm]

/-- What is still busy after a run has ended is what was busy before, less the stack of the run. -/
theorem mem_finish : name ∈ busy.finish stack ↔ name ∈ busy ∧ name ≠ stack := by
  simp [finish]

/-- Ending undoes starting. -/
theorem finish_of_start (started : busy.start stack = .ok next) : next.finish stack = busy := by
  obtain ⟨fresh, rfl⟩ := start_eq_ok_iff.mp started
  unfold finish
  rw [List.filter_cons_of_neg (by simp), List.filter_eq_self]
  intro other member
  simpa using ne_of_mem_of_not_mem member fresh

end BusyStacks

/-! ## Logs -/

namespace CallLogs

/-- What is added to the log that was opened last goes when that log is dropped. -/
theorem dropped_add_opened (logs : CallLogs) (calls : List CreateCall) :
    (logs.opened.add logs.length calls).dropped = logs := by
  unfold opened add dropped
  have inside : logs.length < (logs ++ [[]]).length := by simp
  rw [List.modify_eq_take_cons_drop inside, List.take_left, List.drop_eq_nil_of_le (by simp),
    List.dropLast_concat]

/-- What is added to the log of a provider stands behind the calls that were made on it before. -/
theorem calls_add {logs : CallLogs} {p : Provider} (kept : p.log < logs.length)
    (calls : List CreateCall) : (logs.add p.log calls).calls p = logs.calls p ++ calls := by
  unfold CallLogs.calls add
  rw [List.getElem?_modify_eq, List.getElem?_eq_getElem kept]
  rfl

end CallLogs

/-- What is constructed does not depend on where the calls are remembered. -/
theorem construct_withLog (provider : Provider) (log : Nat) (progress : Progress)
    (rs : List PlannedResource) :
    construct (provider.withLog log) progress rs = construct provider progress rs := by
  have supports : (provider.withLog log).supports = provider.supports := rfl
  have create : (provider.withLog log).create = provider.create := rfl
  induction rs generalizing progress with
  | nil => rfl
  | cons r rest ih => simp only [construct, supports, create, ih]

/-- Nor does what an execution comes to. -/
theorem Program.execute_withLog (p : Program) (provider : Provider) (log : Nat) :
    (p.withProvider (provider.withLog log)).execute = (p.withProvider provider).execute := by
  unfold Program.execute Program.withProvider
  simp only [construct_withLog]

/-! ## Handles -/

/-- The stack is a handle that a workspace with some provider gave out, with settings changed since. -/
inductive LocalStack.HandleOf (provider : Provider) : LocalStack → Prop where
  | opened {w : LocalWorkspace} (same : w.provider = provider) (name : String) (program : Program) :
      HandleOf provider (w.openStack name program)
  | configured {s t : LocalStack} {key value : String} (handle : HandleOf provider s)
      (set : s.set key value = .ok t) : HandleOf provider t

namespace LocalStack

/-- A setting changes neither the name nor the program of a stack. -/
theorem program_of_set {s t : LocalStack} {key value : String} (set : s.set key value = .ok t) :
    t.name = s.name ∧ t.program = s.program := by
  unfold LocalStack.set at set
  split at set
  · cases set
  · cases set
    exact ⟨rfl, rfl⟩

/-- The program of a handle runs on the provider of the handle. -/
theorem HandleOf.provider_eq {provider : Provider} {s : LocalStack} (handle : HandleOf provider s) :
    s.program.provider = provider := by
  induction handle with
  | opened same _ _ => exact same
  | configured _ set before => rw [(program_of_set set).2, before]

/-- Runs that create and skip the same have the same counts of changes. -/
theorem changeCounts_of_alike {a b : LinkedOutputs} (alike : a.Alike b) :
    changeCounts a = changeCounts b := by
  have objects : a.objects.length = b.objects.length := by
    rw [← List.length_map LiveObject.shape, alike.objects, List.length_map]
  unfold changeCounts
  rw [objects, alike.skipped]

/-- Alike executions come to the same, once previewed and once applied. -/
theorem previewResult_of_alike {a b : Execution} (alike : a.Alike b) :
    previewResult a = (upResult b).map UpResult.changes := by
  unfold previewResult upResult
  rcases alike.result with ⟨e, failed, failed'⟩ | ⟨x, y, linked, linked', same⟩
  · rw [failed, failed']
    rfl
  · rw [linked, linked']
    show Except.ok (changeCounts x) = Except.ok (changeCounts y)
    rw [changeCounts_of_alike same]

/-- The execution of the stack's program for a preview. -/
def dryRun (s : LocalStack) : Execution :=
  (s.program.withProvider (LocalProvider.ofRegion s.region).provider).execute

/-- It is the same wherever its calls are remembered. -/
theorem execute_dryProgram (s : LocalStack) (log : Nat) : (s.dryProgram log).execute = s.dryRun :=
  s.program.execute_withLog _ log

/-- A dry run of a handle goes like the run with the provider of the workspace. -/
theorem HandleOf.dryRun_alike {region : String} {log : Nat} {s : LocalStack}
    (handle : HandleOf ((LocalProvider.ofRegion region).provider.withLog log) s) :
    s.dryRun.Alike s.program.execute := by
  -- the provider of the workspace is the one that the program came with
  have own : s.program.withProvider ((LocalProvider.ofRegion region).provider.withLog log) =
      s.program := by
    rw [← handle.provider_eq]
    rfl
  have alike := execute_alike s.program s.region region
  rw [← s.program.execute_withLog (LocalProvider.ofRegion region).provider log, own] at alike
  exact alike

end LocalStack

namespace LocalWorkspace

variable {w : LocalWorkspace} {s : LocalStack}

/-- A run starts on a stack that is not busy. -/
theorem start_of_free {stack : String} (free : stack ∉ w.busy) :
    w.busy.start stack = .ok (stack :: w.busy) :=
  BusyStacks.start_eq_ok_iff.mpr ⟨free, rfl⟩

/-! ### Being busy -/

section WhileBusy

variable {α : Type} {stack : String}
  (operate : LocalWorkspace → Operation α × LocalWorkspace)

/-- On a busy stack an operation is refused, and nothing is done. -/
theorem whileBusy_of_busy (taken : stack ∈ w.busy) :
    w.whileBusy stack operate = (.instant (.error (.conflict stack)), w) := by
  unfold whileBusy
  rw [BusyStacks.start_eq_error_iff.mpr ⟨taken, rfl⟩]

/-- On a free stack an operation is done with the stack busy, which it stays only if the operation
has not ended. -/
theorem whileBusy_of_free (free : stack ∉ w.busy) :
    w.whileBusy stack operate =
      let ran := operate { w with busy := stack :: w.busy }
      (ran.1, if ran.1.isInstant then ran.2.finish stack else ran.2) := by
  unfold whileBusy
  rw [start_of_free free]

end WhileBusy

/-- On a busy stack a deployment is refused, and nothing changes. -/
theorem up_of_busy (taken : s.name ∈ w.busy) :
    w.up s = (.instant (.error (.conflict s.name)), w) :=
  whileBusy_of_busy _ taken

/-- So is a preview. -/
theorem preview_of_busy (taken : s.name ∈ w.busy) :
    w.preview s = (.instant (.error (.conflict s.name)), w) :=
  whileBusy_of_busy _ taken

/-! ### Applying -/

/-- A program is executed to its end, or up to a call that has to wait with those behind it. The calls
made are in the log of its provider. -/
theorem execute_cases (w : LocalWorkspace) (s : LocalStack) :
    let log := s.program.provider.log
    let result := LocalStack.upResult s.program.execute
    w.execute s =
      (.instant result, { w with logs := w.logs.add log s.program.execute.calls }) ∨
    ∃ made rest, made ++ rest = s.program.execute.calls ∧ rest ≠ [] ∧
      w.execute s = (⟨none, result⟩,
        { w with
          logs := w.logs.add log made
          waiting := w.waiting ++ [⟨s.name, log, rest⟩] }) := by
  intro log result
  -- the calls up to the first that has to wait, and those from there on
  have calls := List.prefix_iff_eq_append.mp
    (s.program.execute.calls.takeWhile_prefix fun call => !w.waits call)
  unfold execute
  simp only
  split
  · rename_i none
    rw [none, List.append_nil] at calls
    rw [calls]
    exact Or.inl rfl
  · rename_i rest some
    exact Or.inr ⟨_, _, calls, some, rfl⟩

/-- Whether or not its run has to wait, applying a free stack comes to what its program comes to. -/
theorem result_up (free : s.name ∉ w.busy) :
    (w.up s).1.result = LocalStack.upResult s.program.execute := by
  rw [up, whileBusy_of_free _ free]
  rcases execute_cases { w with busy := s.name :: w.busy } s with ended | ⟨_, _, _, _, waits⟩
  · rw [ended]
    rfl
  · rw [waits]

/-- Applying a handle to its end adds the calls of the execution to those made on the provider of the
workspace before. -/
theorem calls_up (handle : LocalStack.HandleOf w.provider s) (kept : w.provider.log < w.logs.length)
    (free : s.name ∉ w.busy) (ends : (w.up s).1.isInstant = true) :
    (w.up s).2.calls = w.calls ++ s.program.execute.calls := by
  rw [up, whileBusy_of_free _ free] at ends ⊢
  rcases execute_cases { w with busy := s.name :: w.busy } s with ended | ⟨_, _, _, _, waits⟩
  · rw [ended, handle.provider_eq]
    exact CallLogs.calls_add kept _
  · rw [waits] at ends
    cases ends

/-! ### Previewing -/

/-- A dry run comes to what it comes to for the stack alone and leaves nothing behind. -/
theorem dryRun_eq (w : LocalWorkspace) (s : LocalStack) :
    w.dryRun s = (.instant (LocalStack.previewResult s.dryRun), w) := by
  have logs : (w.logs.opened.add w.logs.length (s.dryProgram w.logs.length).execute.calls).dropped =
      w.logs :=
    w.logs.dropped_add_opened _
  rw [← s.execute_dryProgram w.logs.length]
  exact Prod.ext rfl (congrArg (fun logs => { w with logs }) logs)

/-- A preview of a free stack comes to its dry run and leaves the workspace as it is. -/
theorem preview_eq (free : s.name ∉ w.busy) :
    w.preview s = (.instant (LocalStack.previewResult s.dryRun), w) := by
  rw [preview, whileBusy_of_free _ free]
  simp only [dryRun_eq]
  exact Prod.ext rfl (congrArg (fun busy => { w with busy })
    (BusyStacks.finish_of_start (start_of_free free)))

end LocalWorkspace

/-- **A preview predicts applying.** Programs are executed alike in any two regions: with the same
error, or with results that are the same up to texts. Therefore, on a workspace with a local provider,
a preview of any handle on a free stack comes to the numbers of changes that applying it comes to, or
to the same error, and it leaves the workspace with all its calls as it is. -/
theorem preview_predicts_up :
    (∀ (p : Program) (region region' : String),
      (p.withProvider (LocalProvider.ofRegion region).provider).execute.Alike
        (p.withProvider (LocalProvider.ofRegion region').provider).execute) ∧
    ∀ (region : String) (log : Nat) (w : LocalWorkspace) (s : LocalStack),
      w.provider = (LocalProvider.ofRegion region).provider.withLog log →
      LocalStack.HandleOf w.provider s → s.name ∉ w.busy →
      (w.preview s).1.result = (w.up s).1.result.map UpResult.changes ∧ (w.preview s).2 = w := by
  refine ⟨execute_alike, ?_⟩
  intro region log w s provider handle free
  rw [provider] at handle
  rw [LocalWorkspace.preview_eq free, LocalWorkspace.result_up free]
  exact ⟨LocalStack.previewResult_of_alike handle.dryRun_alike, rfl⟩

/-- A program that makes one queue and shows its address. -/
def queueProgram : Program :=
  ⟨⟨[⟨"jobs-queue", ResourceKind.queue.token, [], []⟩],
      [("jobs-queue-url", outputTemplate "jobs-queue" "url")]⟩,
    ⟨"us-east-1", "orders", none, none⟩, (LocalProvider.ofRegion "us-east-1").provider⟩

/-- A workspace in the region of that program. -/
def homeWorkspace : LocalWorkspace :=
  .ofProvider (LocalProvider.ofRegion "us-east-1").provider []

set_option maxRecDepth 10000 in
/-- A stack of that workspace that is set to another region is previewed there: with the count that
applying it comes to, and without the call that applying it makes on the provider of the workspace. -/
theorem preview_predicts_up_elsewhere :
    ∃ s, (homeWorkspace.openStack "orders-dev" queueProgram).set regionKey "eu-west-1" = .ok s ∧
      s.region = "eu-west-1" ∧
      (homeWorkspace.up s).1.result.map UpResult.changes = .ok [("create", 1)] ∧
      (homeWorkspace.preview s).2.calls = [] ∧
      (homeWorkspace.up s).2.calls = [⟨"jobs-queue", ResourceKind.queue.token, []⟩] := by
  obtain ⟨s, set⟩ : ∃ s, (homeWorkspace.openStack "orders-dev" queueProgram).set regionKey
      "eu-west-1" = .ok s := ⟨_, rfl⟩
  have handle : LocalStack.HandleOf homeWorkspace.provider s :=
    .configured (.opened rfl "orders-dev" queueProgram) set
  obtain ⟨predicted, unchanged⟩ :=
    preview_predicts_up.2 "us-east-1" 0 homeWorkspace s rfl handle List.not_mem_nil
  cases set
  refine ⟨_, rfl, rfl, ?_, ?_, rfl⟩
  · rw [← predicted]
    rfl
  · rw [unchanged]
    rfl

end CloudPlan
