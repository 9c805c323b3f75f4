import CloudPlan.Deploy.Run
import CloudPlan.Deploy.Script

/-!
# The protocol of a run

A run goes through three stages: it obtains its stack, configures it and lets its activity run. Each
stage is announced before it is tried, and the run ends with one event more, which tells how the
activity ended or what the run failed of. `Workspace.Ran` lists the ways in which a run can go, by
what the workspace answers. `Workspace.run_follows` derives what holds of every run, whatever a
workspace answers and however long it takes.
-/

set_option autoImplicit false

namespace CloudPlan

/-- The operation ends before the limit, if there is one. -/
def Operation.EndsWithin {α : Type} (op : Operation α) (limit : Option Nat) : Prop :=
  ∀ l, limit = some l → ∃ d, op.duration = some d ∧ d < l

namespace Operation

variable {α : Type} {op : Operation α} {limit : Option Nat}

/-- What ends in time gives its result. -/
theorem await_of_endsWithin (inTime : op.EndsWithin limit) : op.await limit = op.result := by
  cases limit with
  | none => rfl
  | some l =>
    obtain ⟨d, ends, lt⟩ := inTime l rfl
    simp only [await, ends]
    rw [if_neg (by omega)]

/-- Whoever waits for an operation until a limit that it does not keep is told so. -/
theorem await_of_late {l : Nat} (late : ¬ op.EndsWithin (some l)) :
    op.await (some l) = .error (.timeout l) := by
  unfold await
  cases ends : op.duration with
  | none => rfl
  | some d =>
    refine if_pos (Nat.le_of_not_lt fun lt => late ?_)
    rintro _ ⟨⟩
    exact ⟨d, ends, lt⟩

/-- Nothing ends in no time. -/
theorem not_endsWithin_zero : ¬ op.EndsWithin (some 0) := by
  intro inTime
  obtain ⟨d, _, lt⟩ := inTime 0 rfl
  exact Nat.not_lt_zero d lt

end Operation

namespace Workspace

variable {σ η α : Type} (w : Workspace σ η) (activity : Activity)
  (operate : σ → η → Operation α × σ) (a : Agenda σ η) (p : Program) (o : RunOptions)

/-- A run obtains a stack, with something left to be done. -/
def Obtains (stack : η) (left : Agenda σ η) : Prop :=
  w.obtain a p o = (.ok stack, left)

/-- A run configures the stack that it obtains. -/
def Configures (stack : η) (left : Agenda σ η) : Prop :=
  ∃ handle before, w.Obtains a p o handle before ∧
    w.setRegion before handle p.config.region = (.ok stack, left)

/-- The activity of a run on a configured stack. -/
def activityOf (stack : η) (left : Agenda σ η) : Operation α :=
  (operate (left.catchUp w).state stack).1

/-- The activity of a run succeeds, and in time. -/
def Completes (x : α) : Prop :=
  ∃ stack left, w.Configures a p o stack left ∧
    (w.activityOf operate stack left).EndsWithin o.timeout ∧
    (w.activityOf operate stack left).result = .ok x

/-- The ways in which a run can go: what it comes to and which stages it announces. -/
inductive Ran : Except StackError α → List EventType → Prop where
  | unobtained {e : StackError} {left : Agenda σ η} (failed : w.obtain a p o = (.error e, left)) :
      Ran (.error e) [.stackCreating]
  | unconfigured {stack : η} {before left : Agenda σ η} {e : StackError}
      (obtained : w.Obtains a p o stack before)
      (failed : w.setRegion before stack p.config.region = (.error e, left)) :
      Ran (.error e) [.stackCreating, .stackConfiguring]
  | ended {stack : η} {left : Agenda σ η} (configured : w.Configures a p o stack left)
      (inTime : (w.activityOf operate stack left).EndsWithin o.timeout) :
      Ran (w.activityOf operate stack left).result
        [.stackCreating, .stackConfiguring, activity.event]
  | late {stack : η} {left : Agenda σ η} {limit : Nat} (configured : w.Configures a p o stack left)
      (limited : o.timeout = some limit)
      (late : ¬ (w.activityOf operate stack left).EndsWithin (some limit)) :
      Ran (.error (.timeout limit)) [.stackCreating, .stackConfiguring, activity.event]

/-- An activity that ends in time gives its result. -/
theorem perform_of_endsWithin {stack : η} {left : Agenda σ η} {limit : Option Nat}
    (inTime : (w.activityOf operate stack left).EndsWithin limit) :
    (w.perform activity operate left stack limit).1 = (w.activityOf operate stack left).result := by
  unfold perform
  rw [if_neg]
  · exact Operation.await_of_endsWithin inTime
  · rintro rfl
    exact Operation.not_endsWithin_zero inTime

/-- One that is late is timed out. -/
theorem perform_of_late {stack : η} {left : Agenda σ η} {limit : Nat}
    (late : ¬ (w.activityOf operate stack left).EndsWithin (some limit)) :
    (w.perform activity operate left stack (some limit)).1 = .error (.timeout limit) := by
  unfold perform
  split
  · rename_i zero
    cases zero
    rfl
  · exact Operation.await_of_late late

/-- A run goes in one of these ways. -/
theorem ran_runSteps :
    w.Ran activity operate a p o (w.runSteps activity operate a p o).1
      (w.runSteps activity operate a p o).2.1 := by
  unfold runSteps
  split
  · exact .unobtained ‹_›
  · rename_i stack before obtained
    split
    · exact .unconfigured obtained ‹_›
    · rename_i stack left set
      have configured : w.Configures a p o stack left := ⟨_, _, obtained, set⟩
      show w.Ran activity operate a p o (w.perform activity operate left stack o.timeout).1 _
      by_cases inTime : (w.activityOf operate stack left).EndsWithin o.timeout
      · rw [perform_of_endsWithin w activity operate inTime]
        exact .ended configured inTime
      · cases limited : o.timeout with
        | none => exact absurd (fun l is => by rw [limited] at is; cases is) inTime
        | some limit =>
          rw [limited] at inTime
          rw [perform_of_late w activity operate inTime]
          exact .late configured limited inTime

/-- A run configures no more than one stack. -/
theorem configures_unique {s t : η} {l m : Agenda σ η} (one : w.Configures a p o s l)
    (other : w.Configures a p o t m) : s = t ∧ l = m := by
  obtain ⟨handle, before, obtained, set⟩ := one
  obtain ⟨handle', before', obtained', set'⟩ := other
  rw [Obtains] at obtained obtained'
  obtain ⟨rfl, rfl⟩ : handle = handle' ∧ before = before' := by
    simpa using obtained.symm.trans obtained'
  simpa using set.symm.trans set'

/-- The announcements of a run by the stages that it passes. -/
inductive Opening (activity : Activity) (obtained configured : Prop) : List EventType → Prop where
  | creating (failed : ¬ obtained) : Opening activity obtained configured [.stackCreating]
  | configuring (ok : obtained) (failed : ¬ configured) :
      Opening activity obtained configured [.stackCreating, .stackConfiguring]
  | operating (ok : obtained) (set : configured) :
      Opening activity obtained configured [.stackCreating, .stackConfiguring, activity.event]

/-- Nothing that is announced tells of an end. -/
theorem Opening.not_terminal {activity : Activity} {obtained configured : Prop}
    {types : List EventType} (opening : Opening activity obtained configured types) :
    ∀ t ∈ types, t ≠ .complete ∧ t ≠ .error := by
  have running : activity.event ≠ .complete ∧ activity.event ≠ .error := by
    cases activity <;> decide
  cases opening with
  | creating _ | configuring _ _ => decide
  | operating _ _ =>
    intro t member
    obtain rfl | rfl | rfl : t = .stackCreating ∨ t = .stackConfiguring ∨ t = activity.event := by
      simpa using member
    · decide
    · decide
    · exact running

section Ways

variable {w activity operate a p o}

/-- A run that fails to obtain a stack obtains none. -/
theorem not_obtains {e : StackError} {left : Agenda σ η}
    (failed : w.obtain a p o = (.error e, left)) : ¬ ∃ stack left, w.Obtains a p o stack left := by
  rintro ⟨_, _, obtained⟩
  cases failed.symm.trans obtained

/-- Without a stack nothing is configured. -/
theorem not_configures_of_unobtained (failed : ¬ ∃ stack left, w.Obtains a p o stack left) :
    ¬ ∃ stack left, w.Configures a p o stack left := by
  rintro ⟨_, _, handle, before, obtained, _⟩
  exact failed ⟨handle, before, obtained⟩

/-- Nor is a stack whose region cannot be set. -/
theorem not_configures_of_unset {stack : η} {before left : Agenda σ η} {e : StackError}
    (obtained : w.Obtains a p o stack before)
    (failed : w.setRegion before stack p.config.region = (.error e, left)) :
    ¬ ∃ stack left, w.Configures a p o stack left := by
  rintro ⟨_, _, handle, before', obtained', set⟩
  cases obtained.symm.trans obtained'
  cases failed.symm.trans set

/-- A run comes to a value exactly if its activity succeeds with it, and in time. -/
theorem Ran.eq_ok_iff {outcome : Except StackError α} {types : List EventType}
    (ran : w.Ran activity operate a p o outcome types) (x : α) :
    outcome = .ok x ↔ w.Completes operate a p o x := by
  have fails {e : StackError} (none : ¬ ∃ stack left, w.Configures a p o stack left) :
      Except.error e = .ok x ↔ w.Completes operate a p o x :=
    ⟨nofun, fun ⟨stack, left, configured, _⟩ => absurd ⟨stack, left, configured⟩ none⟩
  cases ran with
  | unobtained failed => exact fails (not_configures_of_unobtained (not_obtains failed))
  | unconfigured obtained failed => exact fails (not_configures_of_unset obtained failed)
  | ended configured inTime =>
    constructor
    · exact fun result => ⟨_, _, configured, inTime, result⟩
    · rintro ⟨stack, left, configured', _, result⟩
      obtain ⟨rfl, rfl⟩ := w.configures_unique a p o configured configured'
      exact result
  | late configured limited late =>
    constructor
    · nofun
    · rintro ⟨stack, left, configured', inTime, _⟩
      obtain ⟨rfl, rfl⟩ := w.configures_unique a p o configured configured'
      exact absurd (limited ▸ inTime) late

/-- Without a limit, a run on a stack that can be configured comes to what its activity comes to. -/
theorem Ran.of_configures {outcome : Except StackError α} {types : List EventType} {stack : η}
    {left : Agenda σ η} (ran : w.Ran activity operate a p o outcome types)
    (configured : w.Configures a p o stack left) (unlimited : o.timeout = none) :
    outcome = (w.activityOf operate stack left).result ∧
      types = [.stackCreating, .stackConfiguring, activity.event] := by
  cases ran with
  | unobtained failed =>
    exact absurd ⟨_, _, configured⟩ (not_configures_of_unobtained (not_obtains failed))
  | unconfigured obtained failed =>
    exact absurd ⟨_, _, configured⟩ (not_configures_of_unset obtained failed)
  | ended configured' _ =>
    obtain ⟨rfl, rfl⟩ := w.configures_unique a p o configured configured'
    exact ⟨rfl, rfl⟩
  | late _ limited _ =>
    rw [unlimited] at limited
    cases limited

/-- The announcements of a run tell the stages that it passes. -/
theorem Ran.opening {outcome : Except StackError α}
    {types : List EventType} (ran : w.Ran activity operate a p o outcome types) :
    Opening activity (∃ stack left, w.Obtains a p o stack left)
      (∃ stack left, w.Configures a p o stack left) types := by
  cases ran with
  | unobtained failed => exact .creating (not_obtains failed)
  | unconfigured obtained failed =>
    exact .configuring ⟨_, _, obtained⟩ (not_configures_of_unset obtained failed)
  | ended configured _ | late configured _ _ =>
    obtain ⟨handle, before, obtained, set⟩ := configured
    exact .operating ⟨handle, before, obtained⟩ ⟨_, _, handle, before, obtained, set⟩

end Ways

/-- The fault that an outcome tells of. -/
def faultOf {ε β : Type} : Except ε β → Option ε
  | .ok _ => none
  | .error e => some e

/-- The protocol of a run on a stack, given the events that it emits and what it says of its
success. -/
structure Follows (events : List ProgressEvent) (stack : String) (success : Bool)
    (error : Option String) (detail : Option ClassifiedError) : Prop where
  /-- What is announced, and then one last event. -/
  trace : ∃ types, Opening activity (∃ handle left, w.Obtains a p o handle left)
      (∃ handle left, w.Configures a p o handle left) types ∧
    events = types.map (ProgressEvent.ofType · stack) ++
      [⟨if success then .complete else .error, stack, detail⟩]
  terminal : (events.filter fun e => e.type = .complete ∨ e.type = .error).length = 1
  last_iff : events.getLast?.map ProgressEvent.type = some .complete ↔ success = true
  stack_eq : ∀ e ∈ events, e.stack = stack
  error_of_mem : ∀ e ∈ events, e.error = if e.type = .error then detail else none
  success_iff : success = true ↔ ∃ x, w.Completes operate a p o x
  detail_iff : success = true ↔ detail = none
  error_iff : success = true ↔ error = none
  error_eq : error = detail.map ClassifiedError.message
  /-- The error of a run is classified from what it failed of. -/
  cause : ∀ d, detail = some d →
    ∃ e types, w.Ran activity operate a p o (.error e) types ∧ d = e.classify

/-- The last event tells of completion or of the error, on the stack of the run. -/
theorem lastEvent_eq {β : Type} (stack : String) (outcome : Except ClassifiedError β) :
    lastEvent stack outcome =
      ⟨if outcome.isOk then .complete else .error, stack, faultOf outcome⟩ := by
  cases outcome <;> rfl

section Ways

variable {w activity operate a p o}

/-- Whatever way a run goes, it follows the protocol. -/
theorem Ran.follows {result : Except StackError α} {types : List EventType}
    (ran : w.Ran activity operate a p o result types) (stack : String) :
    let outcome := result.mapError StackError.classify
    w.Follows activity operate a p o
      (types.map (ProgressEvent.ofType · stack) ++ [lastEvent stack outcome]) stack outcome.isOk
      ((faultOf outcome).map ClassifiedError.message) (faultOf outcome) := by
  intro outcome
  -- the last event is the only one that tells of an end
  have announced : ∀ t ∈ types, t ≠ .complete ∧ t ≠ .error := ran.opening.not_terminal
  have ends : outcome.isOk = true ↔ faultOf outcome = none := by
    cases outcome <;> simp [faultOf, Except.isOk, Except.toBool]
  rw [lastEvent_eq]
  constructor
  case trace => exact ⟨types, ran.opening, rfl⟩
  case terminal =>
    have silent : (types.map (ProgressEvent.ofType · stack)).filter
        (fun e => e.type = .complete ∨ e.type = .error) = [] := by
      rw [List.filter_eq_nil_iff, List.forall_mem_map]
      intro t member
      rw [decide_eq_true_iff]
      exact not_or.mpr (announced t member)
    rw [List.filter_append, silent]
    cases outcome.isOk <;> rfl
  case last_iff =>
    rw [List.getLast?_concat]
    cases outcome.isOk <;> simp
  case stack_eq =>
    rw [List.forall_mem_append, List.forall_mem_map, List.forall_mem_singleton]
    exact ⟨fun t _ => rfl, rfl⟩
  case error_of_mem =>
    rw [List.forall_mem_append, List.forall_mem_map, List.forall_mem_singleton]
    constructor
    · intro t member
      exact (if_neg (announced t member).2).symm
    · cases ok : outcome.isOk with
      | true => simpa using ends.mp ok
      | false => rfl
  case success_iff =>
    simp only [← ran.eq_ok_iff]
    cases result with
    | ok x => exact iff_of_true rfl ⟨x, rfl⟩
    | error e => exact iff_of_false nofun nofun
  case detail_iff => exact ends
  case error_iff => rw [Option.map_eq_none_iff, ends]
  case error_eq => rfl
  case cause =>
    intro d fault
    cases result with
    | ok x => cases fault
    | error e =>
      cases fault
      exact ⟨e, types, ran, rfl⟩

end Ways

/-- Every run follows the protocol. -/
theorem run_follows :
    let report := w.run activity operate a p o
    w.Follows activity operate a p o report.events (o.stackFor p) report.outcome.isOk
      ((faultOf report.outcome).map ClassifiedError.message) (faultOf report.outcome) :=
  (w.ran_runSteps activity operate a p o).follows (o.stackFor p)

/-- A run comes to a value exactly if its activity succeeds with it, and in time. -/
theorem outcome_run_eq_ok_iff (x : α) :
    (w.run activity operate a p o).outcome = .ok x ↔ w.Completes operate a p o x := by
  rw [← (w.ran_runSteps activity operate a p o).eq_ok_iff]
  show (w.runSteps activity operate a p o).1.mapError StackError.classify = .ok x ↔ _
  cases (w.runSteps activity operate a p o).1 with
  | ok y => exact ⟨fun done => Except.ok.inj done ▸ rfl, fun done => Except.ok.inj done ▸ rfl⟩
  | error e => exact iff_of_false nofun nofun

/-- An activity that takes as long as its limit is too late. -/
example (p : Program) :
    let slow : Script := ⟨.idle, .idle, ⟨20, none⟩, ⟨[], []⟩, .idle, []⟩
    ((ofScript slow).deploy (.ofState []) p ⟨none, none, some 20⟩).2.1.map ProgressEvent.type =
      [.stackCreating, .stackConfiguring, .deploying, .error] :=
  rfl

end Workspace

end CloudPlan
