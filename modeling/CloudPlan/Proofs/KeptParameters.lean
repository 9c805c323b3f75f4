import CloudPlan.Proofs.FailingIntents
import CloudPlan.Proofs.Kinds
import Mathlib.Data.List.Perm.Basic

/-!
# Config values are kept or reported

A config intent claims the name of its parameter before the parameter is recorded, and a name that is
claimed already makes an error. So the claimed names are at any time the names of the parameters
gathered so far, each once, and every config intent so far has either its parameter there or an error
(`Pass.Settles`, `Adapter.settles_lowerIntents`). Nothing else makes a parameter or an error of the
config lowerer, and no resource of another type bears the name of a parameter. Therefore all gathered
parameters are kept in the end (`parameters_perm`), and no value is lost without an error
(`stored_or_reported`).
-/

set_option autoImplicit false

namespace CloudPlan

/-- The resource is a parameter. -/
def Resource.isParameter (r : Resource) : Bool :=
  r.type == ResourceKind.parameter.token

/-- The diagnostic is an error of the config lowerer. -/
def Diagnostic.isConfigError (d : Diagnostic) : Bool :=
  d.severity == .error && d.lowerer == some "config"

/-- The parameters of a result. -/
def LoweringResult.parameters (result : LoweringResult) : List Resource :=
  result.resources.filter Resource.isParameter

/-- The errors of the config lowerer in a result. -/
def LoweringResult.configErrors (result : LoweringResult) : List Diagnostic :=
  result.diagnostics.filter Diagnostic.isConfigError

/-- The resource is a parameter that stores the value of a config intent. -/
structure Resource.Stores (r : Resource) (ctx : Context) (i : ConfigIntent) : Prop where
  name : r.name = i.parameterName
  type : r.type = ResourceKind.parameter.token
  source : r.source = i.edge
  value : Entries.get? r.properties "value" = some (i.source.value ctx)

/-- The parameter of a config intent stores its value. -/
theorem ConfigIntent.stores_parameter (i : ConfigIntent) (ctx : Context) :
    (i.parameter ctx).Stores ctx i where
  name := rfl
  type := rfl
  source := rfl
  value := by
    simp only [parameter, Resource.properties_after]
    rw [Resource.set, Entries.get?_insert, if_neg (by decide), Resource.set, Entries.get?_insert,
      if_pos rfl]

/-- Among resources of other kinds there is no parameter. -/
theorem OfKinds.filter_isParameter {resources : List Resource} {kinds : List ResourceKind}
    (all : OfKinds resources kinds) (foreign : ResourceKind.parameter ∉ kinds) :
    resources.filter Resource.isParameter = [] := by
  rw [List.filter_eq_nil_iff]
  intro r present
  obtain ⟨kind, listed, named⟩ := all r present
  unfold Resource.isParameter
  rw [named.type, beq_iff_eq, ResourceKind.token_inj]
  rintro rfl
  exact foreign listed

namespace Pass

/-- The parameters gathered so far. -/
def stored (pass : Pass) : List Resource :=
  pass.resources.filter Resource.isParameter

/-- The errors of the config lowerer so far. -/
def configErrors (pass : Pass) : List Diagnostic :=
  pass.diagnostics.filter Diagnostic.isConfigError

/-! ## One intent -/

/-- What an intent changes as far as parameters go: a config intent claims a free name and stores its
parameter, or it is refused with an error for its edge; another intent changes nothing. -/
inductive ParameterStep (ctx : Context) (pass next : Pass) : Intent → Prop where
  | stored {i : ConfigIntent} (free : i.parameterName ∉ Entries.keys pass.parameters)
      (claimed : next.parameters = pass.parameters ++ [(i.parameterName, i.edge)])
      (added : next.stored = pass.stored ++ [i.parameter ctx])
      (silent : next.configErrors = pass.configErrors) : ParameterStep ctx pass next (.config i)
  | refused {i : ConfigIntent} {d : Diagnostic} (source : d.source = i.edge)
      (claimed : next.parameters = pass.parameters) (kept : next.stored = pass.stored)
      (told : next.configErrors = pass.configErrors ++ [d]) :
      ParameterStep ctx pass next (.config i)
  | passed {x : Intent} (other : x.asConfig? = none) (claimed : next.parameters = pass.parameters)
      (kept : next.stored = pass.stored) (silent : next.configErrors = pass.configErrors) :
      ParameterStep ctx pass next x

/-- A report of another lowerer is no error of the config lowerer. -/
theorem configErrors_report_of_other {pass : Pass} {d : Diagnostic}
    (other : d.isConfigError = false) : (pass.report d).configErrors = pass.configErrors := by
  unfold configErrors report
  rw [List.filter_append, List.filter_cons_of_neg (by simp [other]), List.filter_nil,
    List.append_nil]

/-- Recording resources stores the parameters among them. -/
theorem stored_record (pass : Pass) (source : String) (resources : List Resource) :
    (pass.record source resources).stored =
      pass.stored ++ resources.filter Resource.isParameter :=
  List.filter_append ..

end Pass

/-- Each step of the standard adapter is one of these as far as parameters go. -/
theorem Adapter.IntentStep.parameterStep {ctx : Context} {pass next : Pass} {x : Intent}
    (step : IntentStep ctx pass x next) : Pass.ParameterStep ctx pass next x := by
  cases step with
  | @granted i p scope _ =>
    refine .passed rfl rfl ?_ rfl
    rw [Pass.stored_record, AccessIntent.ofKinds_resources.filter_isParameter (by decide),
      List.append_nil]
  | denied => exact .passed rfl rfl rfl (Pass.configErrors_report_of_other rfl)
  | @stored i _ free =>
    exact .stored free (Entries.insert_of_fresh free i.edge)
      (Pass.stored_record _ i.edge [i.parameter ctx]) rfl
  | @rejected i e _ =>
    have source : (Diagnostic.failed i.edge "config" e.message).source = i.edge := rfl
    exact .refused source rfl rfl (List.filter_append ..)
  | skipped foreign =>
    have other : x.asConfig? = none := by
      cases x with
      | config i => rcases foreign with network | other <;> contradiction
      | _ => rfl
    exact .passed other rfl rfl (Pass.configErrors_report_of_other rfl)
  | ignored => exact .passed rfl rfl rfl rfl

/-! ## All intents -/

/-- The claimed names are those of the parameters gathered so far, each once; every config intent so
far has its parameter there or an error; and there are no further parameters and errors. -/
structure Pass.Settles (ctx : Context) (pass : Pass) (done : List ConfigIntent) : Prop where
  claimed : Entries.keys pass.parameters = pass.stored.map Resource.name
  distinct : (pass.stored.map Resource.name).Nodup
  settled : ∀ i ∈ done,
    (∃ d ∈ pass.configErrors, d.source = i.edge) ∨ i.parameter ctx ∈ pass.stored
  counted : pass.stored.length + pass.configErrors.length = done.length

namespace Pass.Settles

variable {ctx : Context} {pass next : Pass} {done : List ConfigIntent} {x : Intent}

/-- At the start nothing is claimed, stored or reported. -/
theorem start (ctx : Context) : Pass.start.Settles ctx [] where
  claimed := rfl
  distinct := List.nodup_nil
  settled _ none := by cases none
  counted := rfl

/-- One more intent is settled by its parameter or by its error. -/
theorem step (settles : pass.Settles ctx done) (step : ParameterStep ctx pass next x) :
    next.Settles ctx (done ++ x.asConfig?.toList) := by
  cases step with
  | @stored i free claimed added silent =>
    -- the claimed names are those of the parameters, so a free name is that of a new one
    have unnamed : i.parameterName ∉ pass.stored.map Resource.name := by
      rw [← settles.claimed]
      exact free
    have names : next.stored.map Resource.name =
        pass.stored.map Resource.name ++ [i.parameterName] := by
      rw [added, List.map_append]
      rfl
    constructor
    · rw [names, claimed, ← settles.claimed]
      exact List.map_append
    · rw [names, List.nodup_append_comm]
      exact List.nodup_cons.mpr ⟨unnamed, settles.distinct⟩
    · intro j member
      rw [added, silent]
      rcases List.mem_append.mp member with old | new
      · exact (settles.settled j old).imp_right (List.mem_append_left _)
      · obtain rfl := List.mem_singleton.mp new
        exact Or.inr (List.mem_append_right _ (List.mem_singleton_self _))
    · have counted := settles.counted
      rw [added, silent, List.length_append, List.length_append]
      show _ + 1 + _ = _ + 1
      omega
  | @refused i d source claimed kept told =>
    constructor
    · rw [claimed, kept]
      exact settles.claimed
    · rw [kept]
      exact settles.distinct
    · intro j member
      rw [kept, told]
      rcases List.mem_append.mp member with old | new
      · refine (settles.settled j old).imp_left ?_
        rintro ⟨e, early, same⟩
        exact ⟨e, List.mem_append_left _ early, same⟩
      · obtain rfl := List.mem_singleton.mp new
        exact Or.inl ⟨d, List.mem_append_right _ (List.mem_singleton_self _), source⟩
    · have counted := settles.counted
      rw [kept, told, List.length_append, List.length_append]
      show _ + (_ + 1) = _ + 1
      omega
  | passed other claimed kept silent =>
    rw [other, Option.toList_none, List.append_nil]
    constructor
    · rw [claimed, kept]
      exact settles.claimed
    · rw [kept]
      exact settles.distinct
    · rw [kept, silent]
      exact settles.settled
    · rw [kept, silent]
      exact settles.counted

/-- So are any number of intents. -/
theorem foldl {f : Pass → Intent → Pass} (steps : ∀ pass x, ParameterStep ctx pass (f pass x) x)
    (xs : List Intent) (settles : pass.Settles ctx done) :
    (xs.foldl f pass).Settles ctx (done ++ configIntents xs) := by
  induction xs generalizing pass done with
  | nil => simpa [configIntents] using settles
  | cons x rest ih =>
    have first : configIntents (x :: rest) = x.asConfig?.toList ++ configIntents rest := by
      unfold configIntents
      rw [List.filterMap_cons]
      cases x.asConfig? <;> rfl
    rw [first, ← List.append_assoc]
    exact ih (settles.step (steps pass x))

end Pass.Settles

section Run

variable (mode : LookupMode) (ctx : Context)

/-- After all intents every config intent is settled. -/
theorem Adapter.settles_lowerIntents :
    ((standard mode).lowerIntents ctx .start).Settles ctx (configIntents ctx.intents) :=
  Pass.Settles.foldl (fun pass x => (intentStep_lowerIntent mode ctx pass x).parameterStep)
    ctx.intents (.start ctx)

/-! ## Nodes, edges and the end -/

/-- Nodes and edges store no parameters. -/
theorem Adapter.stored_gather :
    ((standard mode).gather ctx).stored = ((standard mode).lowerIntents ctx .start).stored := by
  have nodes : (ctx.graph.nodes.flatMap fun n =>
      made ((standard mode).nodeOutcome ctx n)).filter Resource.isParameter = [] := by
    rw [List.filter_flatMap, List.flatMap_eq_nil_iff]
    intro n present
    rw [nodeOutcome_standard mode ctx present]
    cases n.knownPlatform? with
    | none => rfl
    | some p =>
      apply (ofKinds_node p n ctx).filter_isParameter
      cases p <;> decide
  unfold Pass.stored
  rw [resources_gather, List.filter_append, List.filter_append, List.filter_append, nodes,
    (ofKinds_eventMappings ctx).filter_isParameter (by decide),
    (ofKinds_httpIntegrations ctx).filter_isParameter (by decide)]
  exact List.append_nil _

/-- Nor are their reports errors of the config lowerer. -/
theorem Adapter.isConfigError_of_mem_nodeReports {needs : Needs} {n : Node} {d : Diagnostic}
    (reported : d ∈ nodeReports ctx needs n) : d.isConfigError = false := by
  unfold nodeReports at reported
  split at reported
  · cases reported
  · rename_i platform _
    split at reported
    · obtain rfl := List.mem_singleton.mp reported
      rfl
    · rename_i p known
      split at reported
      · cases reported
      · obtain rfl := List.mem_singleton.mp reported
        have named : platform = p.name := Platform.ofName?_eq_some_iff.mp known
        rw [named]
        -- the error bears the name of a platform, and none is called as the config lowerer
        cases p <;> rfl

/-- The errors of the config lowerer in a result are those of the intents. -/
theorem Adapter.configErrors_lower :
    ((standard mode).lower ctx).configErrors =
      ((standard mode).lowerIntents ctx .start).configErrors := by
  have nodes : (ctx.graph.nodes.flatMap fun n => nodeReports ctx
      ((Entries.get? (needsOf ctx) n.id).getD .none) n).filter Diagnostic.isConfigError = [] := by
    rw [List.filter_flatMap, List.flatMap_eq_nil_iff]
    intro n _
    rw [List.filter_eq_nil_iff]
    intro d reported
    simp [isConfigError_of_mem_nodeReports ctx reported]
  unfold LoweringResult.configErrors
  rw [diagnostics_lower, List.filter_append, nodes]
  exact List.append_nil _

variable {mode ctx}

/-- A gathered parameter is kept. -/
theorem mem_lower_of_stored {r : Resource} (stored : r ∈ ((Adapter.standard mode).gather ctx).stored) :
    r ∈ ((Adapter.standard mode).lower ctx).resources := by
  obtain ⟨gathered, parameter⟩ := List.mem_filter.mp stored
  obtain ⟨s, kept, same⟩ := Pass.exists_mem_finish gathered
  -- the resource that is kept of the name is a parameter as well, and there is one of each name
  have early : s ∈ ((Adapter.standard mode).gather ctx).resources := Pass.mem_of_mem_finish kept
  have type : s.type = r.type := (Context.yields_of_mem_gather early).type_eq
    (Context.yields_of_mem_gather gathered) same
  have parameter' : s.isParameter = true := by
    unfold Resource.isParameter
    rw [type]
    exact parameter
  have distinct := (Adapter.settles_lowerIntents mode ctx).distinct
  rw [← Adapter.stored_gather] at distinct
  have one : s = r := List.inj_on_of_nodup_map distinct (List.mem_filter.mpr ⟨early, parameter'⟩)
    stored same
  rw [← one]
  exact kept

variable (mode ctx)

/-- The parameters of the result are those that the intents have stored, in the order of their
names. -/
theorem parameters_perm :
    ((Adapter.standard mode).lower ctx).parameters.Perm
      ((Adapter.standard mode).lowerIntents ctx .start).stored := by
  have distinct := (Adapter.settles_lowerIntents mode ctx).distinct.of_map
  have kept : ((Adapter.standard mode).lower ctx).parameters.Nodup :=
    (Pass.nodup_finish _).of_map.filter _
  rw [List.perm_ext_iff_of_nodup kept distinct]
  intro r
  rw [← Adapter.stored_gather, LoweringResult.parameters, Pass.stored, List.mem_filter,
    List.mem_filter]
  constructor
  · rintro ⟨present, parameter⟩
    exact ⟨Pass.mem_of_mem_finish present, parameter⟩
  · rintro ⟨gathered, parameter⟩
    exact ⟨mem_lower_of_stored (List.mem_filter.mpr ⟨gathered, parameter⟩), parameter⟩

/-- In the end there is one resource of each name. -/
theorem Pass.filter_name_finish {pass : Pass} {r : Resource} (kept : r ∈ pass.finish.resources) :
    pass.finish.resources.filter (fun s => s.name == r.name) = [r] := by
  rw [← List.perm_singleton, List.perm_ext_iff_of_nodup (pass.nodup_finish.of_map.filter _)
    (List.nodup_singleton r)]
  intro s
  rw [List.mem_filter, List.mem_singleton, beq_iff_eq]
  constructor
  · rintro ⟨present, same⟩
    exact Pass.eq_of_name_eq present kept same
  · rintro rfl
    exact ⟨kept, rfl⟩

/-- **No config value is lost.** A config intent has an error of the config lowerer for its edge, or
there is one resource of its parameter's name in the result, and that one stores its value; and the
parameters and those errors together are as many as the config intents. -/
theorem stored_or_reported :
    (∀ i, .config i ∈ ctx.intents →
      (∃ d ∈ ((Adapter.standard mode).lower ctx).configErrors, d.source = i.edge) ∨
        ∃ r, ((Adapter.standard mode).lower ctx).resources.filter
            (fun s => s.name == i.parameterName) = [r] ∧ r.Stores ctx i) ∧
      ((Adapter.standard mode).lower ctx).parameters.length +
        ((Adapter.standard mode).lower ctx).configErrors.length =
          (configIntents ctx.intents).length := by
  have settles := Adapter.settles_lowerIntents mode ctx
  constructor
  · intro i intent
    rcases settles.settled i (mem_configIntents.mpr intent) with reported | stored
    · left
      rw [Adapter.configErrors_lower]
      exact reported
    · right
      rw [← Adapter.stored_gather] at stored
      exact ⟨i.parameter ctx, Pass.filter_name_finish (mem_lower_of_stored stored),
        i.stores_parameter ctx⟩
  · rw [(parameters_perm mode ctx).length_eq, Adapter.configErrors_lower]
    exact settles.counted

/-- A document with two keys that meet in one parameter name. -/
def collidingKeys : Document :=
  ⟨⟨"us-east-1", "orders", none, none⟩,
    [.config ⟨"e1", "component:api", "QUEUE_URL", .literal "jobs"⟩,
      .config ⟨"e2", "component:api", "queue-url", .literal "mail"⟩],
    ⟨[⟨"component:api", [("platform", .string "compute-function")]⟩], []⟩⟩

set_option maxRecDepth 10000 in
/-- Of these two one is reported, so that the other one is the only parameter. -/
theorem stored_or_reported_colliding :
    ((Adapter.standard .registry).lower collidingKeys).configErrors.map Diagnostic.source =
        ["e2"] ∧
      ((Adapter.standard .registry).lower collidingKeys).parameters.length = 1 := by
  have errors : ((Adapter.standard .registry).lower collidingKeys).configErrors.map
      Diagnostic.source = ["e2"] := by decide
  have counted := (stored_or_reported .registry collidingKeys).2
  have reported : ((Adapter.standard .registry).lower collidingKeys).configErrors.length = 1 := by
    rw [← List.length_map Diagnostic.source, errors]
    rfl
  have intents : (configIntents collidingKeys.intents).length = 2 := rfl
  rw [reported, intents] at counted
  exact ⟨errors, by omega⟩

end Run

end CloudPlan
