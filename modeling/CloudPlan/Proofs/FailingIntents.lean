import CloudPlan.Proofs.ResourceMap

/-!
# Failing intents

An intent that cannot be lowered adds one error and nothing else to what the intents become: the run
over the intents is the same without it, behind fewer diagnostics (`lowerIntents_without`). Nodes and
edges report the same with and without it, so the diagnostics of the whole run differ by that one error
(`diagnostics_without`). `resources_gather` puts together what a run gathers, errors or not.
-/

set_option autoImplicit false

namespace CloudPlan

/-- The document without the intent at a position. -/
def Context.without (ctx : Context) (k : Nat) : Context :=
  { ctx with intents := ctx.intents.eraseIdx k }

/-- What has been gathered before the intent at a position. -/
def Adapter.upTo (a : Adapter) (ctx : Context) (k : Nat) : Pass :=
  (ctx.intents.take k).foldl (a.lowerIntent ctx) .start

/-- Lowering the intent at a position reports an error. -/
structure Adapter.FailsAt (a : Adapter) (ctx : Context) (k : Nat) (d : Diagnostic) : Prop where
  reported : ∃ intent, ctx.intents[k]? = some intent ∧
    (a.lowerIntent ctx (a.upTo ctx k) intent).diagnostics = (a.upTo ctx k).diagnostics ++ [d]
  severe : d.severity = .error

/-! ## Diagnostics apart, a failing intent leaves no trace among intents -/

/-- The pass with some diagnostics put before its own. -/
def Pass.behind (ds : List Diagnostic) (pass : Pass) : Pass :=
  { pass with diagnostics := ds ++ pass.diagnostics }

/-- A report comes after the diagnostics that were there before. -/
theorem Pass.report_behind (ds : List Diagnostic) (pass : Pass) (d : Diagnostic) :
    (pass.behind ds).report d = (pass.report d).behind ds := by
  simp [report, behind]

/-- A claim does not depend on diagnostics. -/
theorem Pass.claim_behind (ds : List Diagnostic) (pass : Pass) (source : String)
    (resources : List Resource) :
    (pass.behind ds).claim source resources = (pass.claim source resources).map (behind ds) := by
  have same : (pass.behind ds).takenParameter? resources = pass.takenParameter? resources := rfl
  unfold claim
  rw [same]
  cases pass.takenParameter? resources <;> rfl

namespace Adapter

variable {mode : LookupMode} {ctx : Context} {k : Nat} {d : Diagnostic}

/-- What an intent does is independent of the diagnostics before it. -/
theorem lowerIntent_behind (ds : List Diagnostic) (pass : Pass) (x : Intent) :
    (standard mode).lowerIntent ctx (pass.behind ds) x =
      ((standard mode).lowerIntent ctx pass x).behind ds := by
  cases x with
  | access i =>
    cases lowered : i.lower ctx with
    | ok resources =>
      rw [lowerIntent_access_of_ok mode ctx _ lowered, lowerIntent_access_of_ok mode ctx _ lowered]
      rfl
    | error e =>
      rw [lowerIntent_access_of_error mode ctx _ lowered,
        lowerIntent_access_of_error mode ctx _ lowered]
      exact pass.report_behind ds _
  | config i =>
    rw [lowerIntent_config, lowerIntent_config]
    cases i.lower ctx with
    | error e => exact pass.report_behind ds _
    | ok resources =>
      simp only [Except.bind, Pass.claim_behind]
      cases pass.claim i.edge resources with
      | ok next => rfl
      | error e => exact pass.report_behind ds _
  | network i => exact pass.report_behind ds _
  | telemetry i => rfl
  | other i => exact pass.report_behind ds _

/-- So is what any number of intents do. -/
theorem foldl_lowerIntent_behind (ds : List Diagnostic) (xs : List Intent) (pass : Pass) :
    xs.foldl ((standard mode).lowerIntent ctx) (pass.behind ds) =
      (xs.foldl ((standard mode).lowerIntent ctx) pass).behind ds := by
  induction xs generalizing pass with
  | nil => rfl
  | cons x rest ih => rw [List.foldl_cons, lowerIntent_behind, ih, List.foldl_cons]

/-- An intent does the same in the document without another one. -/
theorem lowerIntent_without :
    (standard mode).lowerIntent (ctx.without k) = (standard mode).lowerIntent ctx := by
  funext pass x
  cases x with
  | access i =>
    cases lowered : i.lower ctx with
    | ok resources =>
      rw [lowerIntent_access_of_ok mode ctx _ lowered]
      exact lowerIntent_access_of_ok mode (ctx.without k) _ lowered
    | error e =>
      rw [lowerIntent_access_of_error mode ctx _ lowered]
      exact lowerIntent_access_of_error mode (ctx.without k) _ lowered
  | config i =>
    rw [lowerIntent_config, lowerIntent_config]
    rfl
  | network i => rfl
  | telemetry i => rfl
  | other i => rfl

/-- An intent that adds a diagnostic adds nothing else. -/
theorem IntentStep.eq_report {pass next : Pass} {x : Intent} (step : IntentStep ctx pass x next)
    (reported : next.diagnostics = pass.diagnostics ++ [d]) : next = pass.report d := by
  have silent : pass.diagnostics ≠ pass.diagnostics ++ [d] := by simp
  have told : ∀ e, (pass.report e).diagnostics = pass.diagnostics ++ [d] →
      pass.report e = pass.report d := by
    intro e same
    have here : e = d := by simpa [Pass.report] using same
    rw [here]
  cases step with
  | granted => exact absurd reported silent
  | stored => exact absurd reported silent
  | ignored => exact absurd reported silent
  | denied => exact told _ reported
  | rejected => exact told _ reported
  | skipped => exact told _ reported

/-- With and without a failing intent, the intents become the same, behind different diagnostics. -/
theorem lowerIntents_without (fails : (standard mode).FailsAt ctx k d) :
    ∃ rest : Pass,
      (standard mode).lowerIntents ctx .start =
        rest.behind (((standard mode).upTo ctx k).diagnostics ++ [d]) ∧
      (standard mode).lowerIntents (ctx.without k) .start =
        rest.behind ((standard mode).upTo ctx k).diagnostics := by
  obtain ⟨x, here, reported⟩ := fails.reported
  obtain ⟨bound, rfl⟩ := List.getElem?_eq_some_iff.mp here
  -- both runs go on from here with the later intents, behind different diagnostics
  let quiet : Pass := { (standard mode).upTo ctx k with diagnostics := [] }
  refine ⟨(ctx.intents.drop (k + 1)).foldl ((standard mode).lowerIntent ctx) quiet, ?_, ?_⟩
  · have before : ((standard mode).upTo ctx k).report d =
        quiet.behind (((standard mode).upTo ctx k).diagnostics ++ [d]) := by
      simp [quiet, Pass.behind, Pass.report]
    have split : ctx.intents = ctx.intents.take k ++ ctx.intents[k] :: ctx.intents.drop (k + 1) := by
      rw [List.getElem_cons_drop, List.take_append_drop]
    calc (standard mode).lowerIntents ctx .start
        = (ctx.intents.take k ++ ctx.intents[k] :: ctx.intents.drop (k + 1)).foldl
            ((standard mode).lowerIntent ctx) .start := by rw [← split]; rfl
      _ = (ctx.intents.drop (k + 1)).foldl ((standard mode).lowerIntent ctx)
            ((standard mode).lowerIntent ctx ((standard mode).upTo ctx k) ctx.intents[k]) := by
          rw [List.foldl_append, List.foldl_cons]; rfl
      _ = _ := by
          rw [(intentStep_lowerIntent mode ctx _ _).eq_report reported, before,
            foldl_lowerIntent_behind]
  · have before : (standard mode).upTo ctx k =
        quiet.behind ((standard mode).upTo ctx k).diagnostics := by
      simp [quiet, Pass.behind]
    calc (standard mode).lowerIntents (ctx.without k) .start
        = (ctx.intents.eraseIdx k).foldl ((standard mode).lowerIntent ctx) .start := by
          rw [← lowerIntent_without]; rfl
      _ = (ctx.intents.drop (k + 1)).foldl ((standard mode).lowerIntent ctx)
            ((standard mode).upTo ctx k) := by
          rw [List.eraseIdx_eq_take_drop_succ, List.foldl_append]; rfl
      _ = (ctx.intents.drop (k + 1)).foldl ((standard mode).lowerIntent ctx)
            (quiet.behind ((standard mode).upTo ctx k).diagnostics) := by rw [← before]
      _ = _ := foldl_lowerIntent_behind _ _ _

/-! ## Nodes report the same -/

/-- Only functions are lowered with what intents say. -/
theorem lower_without_of_ne {p : Platform} (other : p ≠ .computeFunction) (n : Node)
    (needs needs' : Needs) : p.lower n (ctx.without k) needs' = p.lower n ctx needs := by
  cases p with
  | computeFunction => exact absurd rfl other
  | queue => rfl
  | keyValueTable => rfl
  | objectStore => rfl
  | httpGateway => rfl
  | pubsubTopic => rfl

/-- A function can always be lowered. -/
theorem exists_lower_function (n : Node) (ctx : Context) (needs : Needs) :
    ∃ resources, Platform.computeFunction.lower n ctx needs = .ok resources := by
  simp only [Platform.lower, lowerFunction]
  cases needs.role <;> exact ⟨_, rfl⟩

/-- What is reported of a node that is lowered with some needs. -/
def nodeReports (ctx : Context) (needs : Needs) (n : Node) : List Diagnostic :=
  match n.platform? with
  | none => []
  | some platform =>
    match Platform.ofName? platform with
    | none => [.warn n.id ("no lowerer registered for platform '" ++ platform ++ "'")]
    | some p =>
      match p.lower n ctx needs with
      | .ok _ => []
      | .error e => [.failed n.id platform e.message]

/-- A node adds its own reports to the diagnostics and nothing else. -/
theorem lowerNode_diagnostics (needs : NeedsIndex) (pass : Pass) (n : Node) :
    ((standard mode).lowerNode ctx needs pass n).diagnostics =
      pass.diagnostics ++ nodeReports ctx ((Entries.get? needs n.id).getD .none) n := by
  rw [lowerNode_standard, nodeReports]
  cases n.platform? with
  | none => exact (List.append_nil _).symm
  | some platform =>
    simp only
    cases Platform.ofName? platform with
    | none => rfl
    | some p =>
      simp only
      cases p.lower n ctx ((Entries.get? needs n.id).getD .none) with
      | ok resources => exact (List.append_nil _).symm
      | error e => rfl

/-- What is reported of a node depends neither on the other intents nor on its needs. -/
theorem nodeReports_without (needs needs' : Needs) (n : Node) :
    nodeReports (ctx.without k) needs' n = nodeReports ctx needs n := by
  unfold nodeReports
  cases n.platform? with
  | none => rfl
  | some platform =>
    simp only
    cases Platform.ofName? platform with
    | none => rfl
    | some p =>
      simp only
      by_cases function : p = .computeFunction
      · obtain ⟨_, lowered⟩ := exists_lower_function n ctx needs
        obtain ⟨_, lowered'⟩ := exists_lower_function n (ctx.without k) needs'
        rw [function, lowered, lowered']
      · rw [lower_without_of_ne function n needs needs']

/-- Steps that add to the end of a list do so in a row. -/
theorem foldl_appends {α β : Type} {f : Pass → α → Pass} {g : Pass → List β} {h : α → List β}
    (step : ∀ pass x, g (f pass x) = g pass ++ h x) (xs : List α) (pass : Pass) :
    g (xs.foldl f pass) = g pass ++ xs.flatMap h := by
  induction xs generalizing pass with
  | nil => exact (List.append_nil _).symm
  | cons x rest ih => rw [List.foldl_cons, ih, step, List.flatMap_cons, List.append_assoc]

/-- All diagnostics: those of the intents, and those of the nodes in order. -/
theorem diagnostics_lower (mode : LookupMode) (ctx : Context) :
    ((standard mode).lower ctx).diagnostics =
      ((standard mode).lowerIntents ctx .start).diagnostics ++ ctx.graph.nodes.flatMap fun n =>
        nodeReports ctx ((Entries.get? (needsOf ctx) n.id).getD .none) n := by
  have nodes : ((standard mode).gatherSources ctx).diagnostics =
      ((standard mode).lowerIntents ctx .start).diagnostics ++ ctx.graph.nodes.flatMap fun n =>
        nodeReports ctx ((Entries.get? (needsOf ctx) n.id).getD .none) n :=
    foldl_appends (lowerNode_diagnostics (needsOf ctx)) ctx.graph.nodes _
  rw [← nodes]
  exact (gather_eq _ _).2

/-- Without a failing intent the diagnostics are the same, but for its error. -/
theorem diagnostics_without (fails : (standard mode).FailsAt ctx k d) :
    ∃ later,
      ((standard mode).lower ctx).diagnostics =
        ((standard mode).upTo ctx k).diagnostics ++ d :: later ∧
      ((standard mode).lower (ctx.without k)).diagnostics =
        ((standard mode).upTo ctx k).diagnostics ++ later := by
  obtain ⟨rest, whole, without⟩ := lowerIntents_without fails
  refine ⟨rest.diagnostics ++ ctx.graph.nodes.flatMap fun n =>
    nodeReports ctx ((Entries.get? (needsOf ctx) n.id).getD .none) n, ?_, ?_⟩
  · rw [diagnostics_lower, whole]
    simp [Pass.behind]
  · have same : (fun n => nodeReports (ctx.without k)
        ((Entries.get? (needsOf (ctx.without k)) n.id).getD .none) n) =
        fun n => nodeReports ctx ((Entries.get? (needsOf ctx) n.id).getD .none) n :=
      funext fun n => nodeReports_without _ _ n
    rw [diagnostics_lower, without, same]
    exact List.append_assoc _ _ _

/-- The error of a failing intent is among the diagnostics of the result. -/
theorem FailsAt.mem_diagnostics (fails : (standard mode).FailsAt ctx k d) :
    d ∈ ((standard mode).lower ctx).diagnostics := by
  obtain ⟨later, whole, _⟩ := diagnostics_without fails
  rw [whole]
  exact List.mem_append_right _ List.mem_cons_self

/-! ## What is gathered -/

/-- A node adds what its lowerer yields and nothing else. -/
theorem lowerNode_resources (a : Adapter) (ctx : Context) (pass : Pass) (n : Node) :
    (a.lowerNode ctx (needsOf ctx) pass n).resources =
      pass.resources ++ made (a.nodeOutcome ctx n) := by
  unfold lowerNode nodeOutcome
  cases n.platform? with
  | none => exact (List.append_nil _).symm
  | some platform =>
    simp only [Option.bind_some]
    cases a.nodeLowerer? platform with
    | none => exact (List.append_nil _).symm
    | some l =>
      simp only
      cases l.lower n ctx ((Entries.get? (needsOf ctx) n.id).getD .none) with
      | ok resources => rfl
      | error e => exact (List.append_nil _).symm

/-- Everything gathered: what intents left, what nodes become, and what edges become. -/
theorem resources_gather (a : Adapter) (ctx : Context) :
    (a.gather ctx).resources =
      (a.lowerIntents ctx .start).resources ++
        ((ctx.graph.nodes.flatMap fun n => made (a.nodeOutcome ctx n)) ++
          (eventMappings ctx ++ httpIntegrations ctx)) := by
  have nodes : (a.gatherSources ctx).resources = (a.lowerIntents ctx .start).resources ++
      ctx.graph.nodes.flatMap fun n => made (a.nodeOutcome ctx n) :=
    foldl_appends (a.lowerNode_resources ctx) ctx.graph.nodes _
  rw [(a.gather_eq ctx).1, nodes, List.append_assoc, List.append_assoc]

/-- Without a failing intent the others make the same resources. -/
theorem resources_lowerIntents_without (fails : (standard mode).FailsAt ctx k d) :
    ((standard mode).lowerIntents (ctx.without k) .start).resources =
      ((standard mode).lowerIntents ctx .start).resources := by
  obtain ⟨rest, whole, without⟩ := lowerIntents_without fails
  rw [whole, without]
  rfl

/-- What has been gathered stays. -/
theorem subset_foldl_lowerIntent (xs : List Intent) (pass : Pass) {r : Resource}
    (old : r ∈ pass.resources) : r ∈ (xs.foldl ((standard mode).lowerIntent ctx) pass).resources := by
  induction xs generalizing pass with
  | nil => exact old
  | cons x rest ih =>
    apply ih
    cases step_lowerIntent (standard mode) ctx pass x with
    | recorded _ added _ _ =>
      rw [added]
      exact List.mem_append_left _ old
    | failed kept _ _ =>
      rw [kept]
      exact old

/-- What an access intent is lowered to is gathered. -/
theorem mem_lowerIntents_of_access {i : AccessIntent} {resources : List Resource}
    (intent : .access i ∈ ctx.intents) (lowered : i.lower ctx = .ok resources) {r : Resource}
    (member : r ∈ resources) : r ∈ ((standard mode).lowerIntents ctx .start).resources := by
  obtain ⟨before, after, split⟩ := List.append_of_mem intent
  rw [lowerIntents, split, List.foldl_append, List.foldl_cons]
  apply subset_foldl_lowerIntent
  rw [lowerIntent_access_of_ok mode ctx _ lowered]
  exact List.mem_append_right _ member

end Adapter

end CloudPlan
