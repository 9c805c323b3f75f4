import CloudPlan.Deploy.Workspace
import CloudPlan.Proofs.Preview
import Mathlib.Data.List.InsertIdx

/-!
# One operation on each stack

`Occupancy` is what the handles of one workspace share: the busy stacks, and beside them the operations
in progress, which start and end in any order. The invariant is `Occupancy.Exact`: the busy stacks are
those with an operation in progress, and each has only one. `exact_step` says that starting and ending
keep it, also when a start is refused, and `exact_run` that it therefore holds after any events.

What a workspace does is such a course of events (`Mirrors.run`). An operation that waits at the gate
goes on meanwhile; one that does not has ended, well or badly, when its result is there. So whoever
takes one step at a time is never refused (`OpenStacks.Idle.take`).
-/

set_option autoImplicit false

namespace CloudPlan

/-! ## Operations in progress -/

/-- An operation in progress on a stack. -/
structure Ongoing where
  activity : Activity
  stack : LocalStack

/-- The busy stacks of a workspace and the operations in progress. -/
structure Occupancy where
  busy : BusyStacks
  ongoing : List Ongoing

namespace Occupancy

/-- Nothing in progress. -/
def idle : Occupancy := ⟨[], []⟩

/-- The names of the stacks with an operation in progress. -/
def names (o : Occupancy) : List String :=
  o.ongoing.map fun op => op.stack.name

/-- Starts an operation, unless that is refused. -/
def start (o : Occupancy) (op : Ongoing) : Except StackError Unit × Occupancy :=
  match o.busy.start op.stack.name with
  | .error e => (.error e, o)
  | .ok busy => (.ok (), ⟨busy, o.ongoing ++ [op]⟩)

/-- Ends the operation at a position, whatever has come of it. -/
def finish (o : Occupancy) (position : Nat) : Occupancy :=
  match o.ongoing[position]? with
  | none => o
  | some op => ⟨o.busy.finish op.stack.name, o.ongoing.eraseIdx position⟩

/-- What can happen: somebody starts an operation, or one ends. -/
inductive Event where
  | start (op : Ongoing)
  | finish (position : Nat)

/-- One event. -/
def step (o : Occupancy) : Event → Occupancy
  | .start op => (o.start op).2
  | .finish position => o.finish position

/-- Events one after the other. -/
def run (o : Occupancy) (events : List Event) : Occupancy :=
  events.foldl step o

/-- Events are taken one after another. -/
theorem run_append (o : Occupancy) (early late : List Event) :
    o.run (early ++ late) = (o.run early).run late :=
  List.foldl_append

/-- The busy stacks are those with an operation in progress, and no two operations share a stack. -/
structure Exact (o : Occupancy) : Prop where
  busy_iff : ∀ name, name ∈ o.busy ↔ name ∈ o.names
  single : o.names.Nodup

variable {o : Occupancy}

/-- A start is refused and changes nothing, as the stack is busy; or it makes the stack busy. -/
theorem start_cases (o : Occupancy) (op : Ongoing) :
    (op.stack.name ∈ o.busy ∧ o.start op = (.error (.conflict op.stack.name), o)) ∨
    op.stack.name ∉ o.busy ∧
      o.start op = (.ok (), ⟨op.stack.name :: o.busy, o.ongoing ++ [op]⟩) := by
  unfold start
  cases started : o.busy.start op.stack.name with
  | error e =>
    obtain ⟨taken, rfl⟩ := BusyStacks.start_eq_error_iff.mp started
    exact Or.inl ⟨taken, rfl⟩
  | ok busy =>
    obtain ⟨fresh, rfl⟩ := BusyStacks.start_eq_ok_iff.mp started
    exact Or.inr ⟨fresh, rfl⟩

/-- An operation that starts adds the name of its stack at the end. -/
theorem names_concat (busy : BusyStacks) (ongoing : List Ongoing) (op : Ongoing) :
    names ⟨busy, ongoing ++ [op]⟩ = names ⟨busy, ongoing⟩ ++ [op.stack.name] :=
  List.map_append

/-- The operation at a position ends: its stack is free, and the others go on. -/
theorem finish_of_getElem? {position : Nat} {op : Ongoing}
    (going : o.ongoing[position]? = some op) :
    o.finish position = ⟨o.busy.finish op.stack.name, o.ongoing.eraseIdx position⟩ := by
  simp only [finish, going]

/-- Where no operation is, none ends. -/
theorem finish_of_length_le {position : Nat} (beyond : o.ongoing.length ≤ position) :
    o.finish position = o := by
  simp only [finish, List.getElem?_eq_none beyond]

/-- An operation that ends right after its start, whether or not it was refused, leaves nothing
behind. -/
theorem finish_start (o : Occupancy) (op : Ongoing) :
    (o.start op).2.finish o.ongoing.length = o := by
  rcases start_cases o op with ⟨_, refused⟩ | ⟨fresh, started⟩
  · rw [refused]
    exact finish_of_length_le le_rfl
  · rw [started, finish_of_getElem? List.getElem?_concat_length]
    have busy := BusyStacks.finish_of_start (BusyStacks.start_eq_ok_iff.mpr ⟨fresh, rfl⟩)
    have ongoing : (o.ongoing ++ [op]).eraseIdx o.ongoing.length = o.ongoing := by
      rw [List.eraseIdx_append_of_length_le le_rfl, Nat.sub_self]
      exact List.append_nil _
    rw [busy, ongoing]

/-! ## The invariant -/

/-- Where nothing is in progress no stack is busy. -/
theorem exact_idle : idle.Exact where
  busy_iff _ := Iff.rfl
  single := List.nodup_nil

/-- A start keeps the invariant, whether or not it is refused. -/
theorem Exact.start (exact : o.Exact) (op : Ongoing) : (o.start op).2.Exact := by
  rcases start_cases o op with ⟨_, refused⟩ | ⟨fresh, started⟩
  · rw [refused]
    exact exact
  · rw [started]
    constructor
    · intro name
      rw [names_concat, List.mem_cons, exact.busy_iff, List.mem_append, List.mem_singleton, or_comm]
      rfl
    · rw [exact.busy_iff] at fresh
      rw [names_concat, ← List.concat_eq_append, List.nodup_concat]
      exact ⟨fresh, exact.single⟩

/-- So does an end, as no other operation is on the same stack. -/
theorem Exact.finish (exact : o.Exact) (position : Nat) : (o.finish position).Exact := by
  cases going : o.ongoing[position]? with
  | none =>
    rw [finish_of_length_le (List.getElem?_eq_none_iff.mp going)]
    exact exact
  | some op =>
    rw [finish_of_getElem? going]
    obtain ⟨inside, here⟩ : ∃ h : position < o.names.length, o.names[position] = op.stack.name := by
      rw [← List.getElem?_eq_some_iff, names, List.getElem?_map, going]
      rfl
    -- no other operation is on that stack, so the names left are those that stay busy
    have names : names ⟨o.busy.finish op.stack.name, o.ongoing.eraseIdx position⟩ =
        o.names.erase op.stack.name := by
      rw [← here, exact.single.erase_getElem]
      exact (List.eraseIdx_map ..).symm
    constructor
    · intro name
      rw [names, exact.single.mem_erase_iff, BusyStacks.mem_finish, exact.busy_iff, and_comm]
    · rw [names]
      exact exact.single.erase _

/-- Every event keeps the invariant. -/
theorem exact_step (exact : o.Exact) : (event : Event) → (o.step event).Exact
  | .start op => exact.start op
  | .finish position => exact.finish position

/-- Hence so do all events, in whichever order. -/
theorem exact_run (exact : o.Exact) (events : List Event) : (o.run events).Exact := by
  induction events generalizing o with
  | nil => exact exact
  | cons event rest ih => exact ih (exact_step exact event)

/-- Whether a start is refused depends on the operations in progress only. -/
theorem Exact.start_cases (exact : o.Exact) (op : Ongoing) :
    (op.stack.name ∈ o.names → o.start op = (.error (.conflict op.stack.name), o)) ∧
    (op.stack.name ∉ o.names → ∃ busy, o.start op = (.ok (), ⟨busy, o.ongoing ++ [op]⟩)) := by
  rw [← exact.busy_iff]
  rcases o.start_cases op with ⟨taken, refused⟩ | ⟨fresh, started⟩
  · exact ⟨fun _ => refused, fun free => absurd taken free⟩
  · exact ⟨fun busy => absurd busy fresh, fun _ => ⟨_, started⟩⟩

/-- An operation that ends leaves its stack free, and every other one as it is. -/
theorem mem_busy_finish {position : Nat} {op : Ongoing}
    (going : o.ongoing[position]? = some op) (name : String) :
    name ∈ (o.finish position).busy ↔ name ∈ o.busy ∧ name ≠ op.stack.name := by
  rw [finish_of_getElem? going]
  exact BusyStacks.mem_finish

end Occupancy

/-! ## Workspaces -/

namespace LocalStack

/-- Executing a program never comes to a refusal. -/
theorem upResult_ne_conflict (e : Execution) (name : String) :
    upResult e ≠ .error (.conflict name) := by
  unfold upResult
  cases e.result <;> simp

/-- Neither does executing it for a preview. -/
theorem previewResult_ne_conflict (e : Execution) (name : String) :
    previewResult e ≠ .error (.conflict name) := by
  unfold previewResult
  cases e.result <;> simp

/-- A setting is never refused because of other operations. -/
theorem set_ne_conflict (s : LocalStack) (key value name : String) :
    s.set key value ≠ .error (.conflict name) := by
  unfold LocalStack.set
  split <;> simp

end LocalStack

namespace LocalWorkspace

/-- Lets the run that waits at a position make its calls and end. -/
def resumeAt (w : LocalWorkspace) (position : Nat) : LocalWorkspace :=
  match w.waiting[position]? with
  | none => w
  | some run => { w with waiting := w.waiting.eraseIdx position }.resume run

/-- What can be done with a workspace: an operation is asked for, a run that waits is let end, or the
gate is moved. -/
inductive Action where
  | up (s : LocalStack)
  | preview (s : LocalStack)
  | resume (position : Nat)
  | hold
  | openGate

/-- One action. -/
def act (w : LocalWorkspace) : Action → LocalWorkspace
  | .up s => (w.up s).2
  | .preview s => (w.preview s).2
  | .resume position => w.resumeAt position
  | .hold => w.hold
  | .openGate => w.openGate

/-- What an action is for the stacks: an operation that does not wait ends where it starts, and one that
is refused is not there to be ended. -/
def events (w : LocalWorkspace) : Action → List Occupancy.Event
  | .up s => .start ⟨.up, s⟩ ::
    if (w.up s).1.isInstant then [.finish w.waiting.length] else []
  | .preview s => [.start ⟨.preview, s⟩, .finish w.waiting.length]
  | .resume position => [.finish position]
  | .hold | .openGate => []

/-- Actions one after the other. -/
def run (w : LocalWorkspace) (actions : List Action) : LocalWorkspace :=
  actions.foldl act w

/-- What actions are for the stacks. -/
def course (w : LocalWorkspace) : List Action → List Occupancy.Event
  | [] => []
  | a :: rest => w.events a ++ (w.act a).course rest

/-- The workspace shows the operations in progress: they wait. -/
structure Mirrors (w : LocalWorkspace) (o : Occupancy) : Prop where
  busy : w.busy = o.busy
  waiting : w.waiting.map WaitingRun.stack = o.names

variable {w : LocalWorkspace} {o : Occupancy}

/-- On a new workspace nothing is in progress. -/
theorem mirrors_ofProvider (provider : Provider) (gated : List String) :
    (ofProvider provider gated).Mirrors .idle :=
  ⟨rfl, rfl⟩

/-- As many runs wait as operations are in progress. -/
theorem Mirrors.length_eq (mirrors : w.Mirrors o) : w.waiting.length = o.ongoing.length := by
  rw [← List.length_map WaitingRun.stack, mirrors.waiting, Occupancy.names, List.length_map]

/-- Applying ends at once, refused or not, or the stack was free and is busy from now on. -/
theorem up_cases (w : LocalWorkspace) (s : LocalStack) :
    ((w.up s).1.isInstant = true ∧ (w.up s).2.busy = w.busy ∧ (w.up s).2.waiting = w.waiting) ∨
    (w.up s).1.isInstant = false ∧ s.name ∉ w.busy ∧ (w.up s).2.busy = s.name :: w.busy ∧
      ∃ run : WaitingRun, run.stack = s.name ∧ (w.up s).2.waiting = w.waiting ++ [run] := by
  by_cases taken : s.name ∈ w.busy
  · rw [up_of_busy taken]
    exact Or.inl ⟨rfl, rfl, rfl⟩
  · rw [up, whileBusy_of_free _ taken]
    rcases execute_cases { w with busy := s.name :: w.busy } s with
      ended | ⟨_, _, _, _, waits⟩
    · rw [ended]
      exact Or.inl ⟨rfl, BusyStacks.finish_of_start (start_of_free taken), rfl⟩
    · rw [waits]
      exact Or.inr ⟨rfl, taken, rfl, _, rfl, rfl⟩

/-- A preview leaves the workspace as it is, refused or not. -/
theorem preview_leaves (w : LocalWorkspace) (s : LocalStack) : (w.preview s).2 = w := by
  by_cases taken : s.name ∈ w.busy
  · rw [preview_of_busy taken]
  · rw [preview_eq taken]

/-- Applying starts an operation, which ends there and then unless it waits. -/
theorem Mirrors.up (mirrors : w.Mirrors o) (s : LocalStack) :
    (w.up s).2.Mirrors (o.run (w.events (.up s))) := by
  have events : w.events (.up s) = .start ⟨.up, s⟩ ::
      if (w.up s).1.isInstant then [.finish o.ongoing.length] else [] := by
    rw [← mirrors.length_eq]
    rfl
  rw [events]
  rcases w.up_cases s with ⟨instant, busy, waiting⟩ | ⟨waits, free, busy, run, stack, waiting⟩
  · rw [instant]
    show (w.up s).2.Mirrors ((o.start ⟨.up, s⟩).2.finish o.ongoing.length)
    rw [o.finish_start]
    exact ⟨busy.trans mirrors.busy, by rw [waiting, mirrors.waiting]⟩
  · rw [waits]
    show (w.up s).2.Mirrors (o.start ⟨.up, s⟩).2
    rcases o.start_cases ⟨.up, s⟩ with ⟨taken, _⟩ | ⟨_, started⟩
    · rw [← mirrors.busy] at taken
      exact absurd taken free
    · rw [started]
      refine ⟨by rw [busy, mirrors.busy], ?_⟩
      rw [waiting, List.map_append, mirrors.waiting, Occupancy.names_concat, List.map_singleton, stack]
      rfl

/-- Previewing starts an operation that ends there and then. -/
theorem Mirrors.preview (mirrors : w.Mirrors o) (s : LocalStack) :
    (w.preview s).2.Mirrors (o.run (w.events (.preview s))) := by
  show (w.preview s).2.Mirrors ((o.start ⟨.preview, s⟩).2.finish w.waiting.length)
  rw [mirrors.length_eq, o.finish_start, preview_leaves]
  exact mirrors

/-- Letting a waiting run end is the end of its operation. -/
theorem Mirrors.resumeAt (mirrors : w.Mirrors o) (position : Nat) :
    (w.resumeAt position).Mirrors (o.finish position) := by
  have same := congrArg (fun names : List String => names[position]?) mirrors.waiting
  simp only [Occupancy.names, List.getElem?_map] at same
  unfold LocalWorkspace.resumeAt
  cases held : w.waiting[position]? with
  | none =>
    rw [Occupancy.finish_of_length_le]
    · exact mirrors
    · rw [← mirrors.length_eq]
      exact List.getElem?_eq_none_iff.mp held
  | some run =>
    rw [held, eq_comm, Option.map_some, Option.map_eq_some_iff] at same
    obtain ⟨op, going, stack⟩ := same
    rw [Occupancy.finish_of_getElem? going, stack]
    refine ⟨by rw [← mirrors.busy]; rfl, ?_⟩
    show (w.waiting.eraseIdx position).map WaitingRun.stack =
      (o.ongoing.eraseIdx position).map fun op => op.stack.name
    rw [← List.eraseIdx_map, mirrors.waiting, ← List.eraseIdx_map]
    rfl

/-- What an action does to a workspace, its events do to the operations in progress. -/
theorem Mirrors.act (mirrors : w.Mirrors o) :
    (a : Action) → (w.act a).Mirrors (o.run (w.events a))
  | .up s => mirrors.up s
  | .preview s => mirrors.preview s
  | .resume position => mirrors.resumeAt position
  | .hold | .openGate => ⟨mirrors.busy, mirrors.waiting⟩

/-- Hence a workspace goes through what its actions are for the stacks. -/
theorem Mirrors.run (mirrors : w.Mirrors o) (actions : List Action) :
    (w.run actions).Mirrors (o.run (w.course actions)) := by
  induction actions generalizing w o with
  | nil => exact mirrors
  | cons a rest ih =>
    rw [course, Occupancy.run_append]
    exact ih (mirrors.act a)

/-- Letting all waiting runs end is letting the first one end as often as there are runs. -/
theorem resumeAll_eq (w : LocalWorkspace) :
    w.resumeAll = w.run (List.replicate w.waiting.length (.resume 0)) := by
  obtain ⟨provider, gated, closed, busy, logs, waiting⟩ := w
  induction waiting generalizing busy logs with
  | nil => rfl
  | cons first rest ih => exact ih _ _

/-- After all waiting runs have ended none waits. -/
theorem waiting_resumeAll (w : LocalWorkspace) : w.resumeAll.waiting = [] := by
  obtain ⟨provider, gated, closed, busy, logs, waiting⟩ := w
  induction waiting generalizing busy logs with
  | nil => rfl
  | cons first rest ih => exact ih _ _

/-- After all waiting runs have ended no stack is busy. -/
theorem Mirrors.resumeAll (mirrors : w.Mirrors o) (exact : o.Exact) :
    w.resumeAll.Mirrors .idle := by
  have after := mirrors.run (List.replicate w.waiting.length (.resume 0))
  rw [← resumeAll_eq] at after
  have names := after.waiting
  rw [waiting_resumeAll] at names
  refine ⟨?_, by rw [waiting_resumeAll]; rfl⟩
  rw [after.busy]
  refine List.eq_nil_iff_forall_not_mem.mpr fun name busy => ?_
  rw [(Occupancy.exact_run exact _).busy_iff, ← names] at busy
  exact List.not_mem_nil busy

end LocalWorkspace

/-! ## One step after the other -/

/-- A workspace and the handles of its stacks. -/
structure OpenStacks where
  workspace : LocalWorkspace
  handles : List LocalStack

namespace OpenStacks

/-- No stacks yet on a new workspace. -/
def ofProvider (provider : Provider) (gated : List String) : OpenStacks :=
  ⟨.ofProvider provider gated, []⟩

/-- What can be asked for: another stack, or something of a handle. -/
inductive Request where
  | select (project stack : String) (program : Program)
  | configure (handle : Nat) (key value : String)
  | run (activity : Activity) (handle : Nat)

/-- Lets an operation on a stack begin and run to its end. -/
def complete {α : Type} (h : OpenStacks)
    (operate : LocalWorkspace → LocalStack → Operation α × LocalWorkspace) (s : LocalStack) :
    Except StackError Unit × OpenStacks :=
  let (op, w) := operate h.workspace s
  (op.result.map fun _ => (), { h with workspace := w.resumeAll })

/-- Sees to a request until it is done: how it ends, and what it leaves. -/
def take (h : OpenStacks) : Request → Except StackError Unit × OpenStacks
  | .select project stack program =>
    let (op, w) := Workspace.ofLocal.select h.workspace project stack program
    (op.result.map fun _ => (), ⟨w, h.handles ++ op.result.toOption.toList⟩)
  | .configure handle key value =>
    match h.handles[handle]? with
    | none => (.ok (), h)
    | some s =>
      let (op, w) := Workspace.ofLocal.configure h.workspace s key value
      (op.result.map fun _ => (), ⟨w, h.handles.set handle (op.result.toOption.getD s)⟩)
  | .run activity handle =>
    match h.handles[handle]?, activity with
    | none, _ => (.ok (), h)
    | some s, .up => h.complete Workspace.ofLocal.up s
    | some s, .preview => h.complete Workspace.ofLocal.preview s

/-- Sees to requests one after the other. -/
def takeAll (h : OpenStacks) (requests : List Request) : OpenStacks :=
  requests.foldl (fun h request => (h.take request).2) h

/-- Nothing is in progress. -/
def Idle (h : OpenStacks) : Prop :=
  h.workspace.Mirrors .idle

/-- On a new workspace nothing is in progress. -/
theorem idle_ofProvider (provider : Provider) (gated : List String) :
    (ofProvider provider gated).Idle :=
  LocalWorkspace.mirrors_ofProvider provider gated

variable {h : OpenStacks}

/-- Where nothing is in progress every stack is free. -/
theorem Idle.free (idle : h.Idle) (s : LocalStack) : s.name ∉ h.workspace.busy := by
  rw [LocalWorkspace.Mirrors.busy idle]
  exact List.not_mem_nil

/-- After an operation that goes a regular course has come to its end nothing is in progress. -/
theorem complete_of_course {α : Type}
    {operate : LocalWorkspace → LocalStack → Operation α × LocalWorkspace} {s : LocalStack}
    {events : List Occupancy.Event}
    (course : (operate h.workspace s).2.Mirrors (Occupancy.idle.run events))
    (accepted : ∀ name, (operate h.workspace s).1.result ≠ .error (.conflict name)) :
    (h.complete operate s).2.Idle ∧ ∀ name, (h.complete operate s).1 ≠ .error (.conflict name) :=
  ⟨course.resumeAll (Occupancy.exact_run Occupancy.exact_idle events),
    fun name refused => accepted name (map_eq_error_iff.mp refused)⟩

/-- A request that is seen to where nothing is in progress is not refused, and after its end nothing is
in progress. -/
theorem Idle.take (idle : h.Idle) (request : Request) :
    (h.take request).2.Idle ∧ ∀ name, (h.take request).1 ≠ .error (.conflict name) := by
  -- only runs start an operation, and `complete` sees each of them to its end
  cases request with
  | select project stack program => exact ⟨idle, fun name refused => by cases refused⟩
  | configure handle key value =>
    cases known : h.handles[handle]? with
    | none =>
      simp only [OpenStacks.take, known]
      exact ⟨idle, fun name refused => by cases refused⟩
    | some s =>
      simp only [OpenStacks.take, known]
      refine ⟨idle, fun name refused => ?_⟩
      have failed : s.set key value = .error (.conflict name) := map_eq_error_iff.mp refused
      exact s.set_ne_conflict key value name failed
  | run activity handle =>
    cases known : h.handles[handle]? with
    | none =>
      simp only [OpenStacks.take, known]
      exact ⟨idle, fun name refused => by cases refused⟩
    | some s =>
      cases activity with
      | up =>
        simp only [OpenStacks.take, known]
        refine complete_of_course (LocalWorkspace.Mirrors.up idle s) fun name => ?_
        show (h.workspace.up s).1.result ≠ _
        rw [LocalWorkspace.result_up (idle.free s)]
        exact LocalStack.upResult_ne_conflict _ name
      | preview =>
        simp only [OpenStacks.take, known]
        refine complete_of_course (LocalWorkspace.Mirrors.preview idle s) fun name => ?_
        show (h.workspace.preview s).1.result ≠ _
        rw [LocalWorkspace.preview_eq (idle.free s)]
        exact LocalStack.previewResult_ne_conflict _ name

/-- So requests that are seen to one after the other leave nothing in progress. -/
theorem Idle.takeAll (idle : h.Idle) (requests : List Request) : (h.takeAll requests).Idle := by
  induction requests generalizing h with
  | nil => exact idle
  | cons request rest ih => exact ih (idle.take request).1

end OpenStacks

/-- **One operation on each stack.** However the operations on the stacks of a workspace start and end,
the busy stacks are those with an operation in progress, each with one only. A start is refused if there
is one with that name, which changes nothing, and succeeds otherwise; and the end of an operation frees
its stack and no other. Every course of a workspace goes like this: applying and previewing are refused
because of an operation in progress only, and an operation that has come to something, or to an error,
leaves its stack as free as it was. So one step taken after the other never meets a refusal. -/
theorem busy_iff_ongoing :
    (∀ events : List Occupancy.Event, let o := Occupancy.idle.run events
      (∀ name, name ∈ o.busy ↔ name ∈ o.names) ∧ o.names.Nodup ∧
      (∀ op : Ongoing,
        (op.stack.name ∈ o.names → o.start op = (.error (.conflict op.stack.name), o)) ∧
        (op.stack.name ∉ o.names → ∃ busy, o.start op = (.ok (), ⟨busy, o.ongoing ++ [op]⟩))) ∧
      ∀ position op, o.ongoing[position]? = some op → ∀ name,
        name ∈ (o.finish position).busy ↔ name ∈ o.busy ∧ name ≠ op.stack.name) ∧
    (∀ (provider : Provider) (gated : List String) (actions : List LocalWorkspace.Action),
      let start := LocalWorkspace.ofProvider provider gated
      let w := start.run actions
      let o := Occupancy.idle.run (start.course actions)
      w.busy = o.busy ∧ w.waiting.map WaitingRun.stack = o.names ∧ ∀ s : LocalStack,
        (s.name ∈ o.names → w.up s = (.instant (.error (.conflict s.name)), w) ∧
          w.preview s = (.instant (.error (.conflict s.name)), w)) ∧
        (s.name ∉ o.names →
          (w.up s).1.result = LocalStack.upResult s.program.execute ∧
          ((w.up s).1.isInstant = true → (w.up s).2.busy = w.busy) ∧
          w.preview s = (.instant (LocalStack.previewResult s.dryRun), w))) ∧
    ∀ (provider : Provider) (gated : List String) (requests : List OpenStacks.Request),
      let h := (OpenStacks.ofProvider provider gated).takeAll requests
      h.workspace.busy = [] ∧ ∀ request name, (h.take request).1 ≠ .error (.conflict name) := by
  refine ⟨?_, ?_, ?_⟩
  · intro events o
    have exact : o.Exact := Occupancy.exact_run Occupancy.exact_idle events
    exact ⟨exact.busy_iff, exact.single, exact.start_cases,
      fun position op going => Occupancy.mem_busy_finish going⟩
  · intro provider gated actions start w o
    have exact : o.Exact := Occupancy.exact_run Occupancy.exact_idle _
    -- the workspace goes along with the course of its actions, so what holds of one holds of the
    -- other
    have mirrors : w.Mirrors o := (LocalWorkspace.mirrors_ofProvider provider gated).run actions
    refine ⟨mirrors.busy, mirrors.waiting, fun s => ?_⟩
    rw [← exact.busy_iff, ← mirrors.busy]
    refine ⟨fun taken => ⟨LocalWorkspace.up_of_busy taken, LocalWorkspace.preview_of_busy taken⟩,
      fun free => ⟨LocalWorkspace.result_up free, fun instant => ?_,
        LocalWorkspace.preview_eq free⟩⟩
    rcases w.up_cases s with ⟨_, same, _⟩ | ⟨waits, _⟩
    · exact same
    · rw [waits] at instant
      cases instant
  · intro provider gated requests h
    have idle : h.Idle := (OpenStacks.idle_ofProvider provider gated).takeAll requests
    exact ⟨LocalWorkspace.Mirrors.busy idle, fun request => (idle.take request).2⟩

/-- A stack is busy while its run waits at the gate, and a preview asked for meanwhile does not free it;
once the run has ended, it is free. -/
example :
    let w := LocalWorkspace.ofProvider queueProgram.provider ["jobs-queue"]
    let s := w.openStack "orders-dev" queueProgram
    (w.run [.up s, .preview s]).busy = ["orders-dev"] ∧
      (w.run [.up s, .preview s, .resume 0]).busy = [] :=
  ⟨rfl, rfl⟩

end CloudPlan
