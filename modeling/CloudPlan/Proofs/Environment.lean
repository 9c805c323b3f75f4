import CloudPlan.Proofs.IntentIsolation
import CloudPlan.Proofs.KeptParameters

/-!
# Environment and parameters agree

A config value is copied twice: into the environment of the function that it is for, where the first
intent for a key wins, and into a parameter, where a second intent for a name is an error. A run
without errors stores the parameter of every config intent (`stored_of_clean`), so two intents for one
variable are the same parameter, and the variable has the value of that parameter whichever intent set
it (`environment_agrees`).
-/

set_option autoImplicit false

namespace CloudPlan

/-- The environment of a resource consists of some variables; there is none without variables. -/
def Resource.HasVariables (r : Resource) (vars : Entries Value) : Prop :=
  Entries.get? r.properties "environment" =
    if vars.isEmpty then none else some (.map [("variables", .map vars)])

section Run

variable {mode : LookupMode} {ctx : Context}

/-- A run without errors keeps the parameter of every config intent. -/
theorem stored_of_clean (clean : ((Adapter.standard mode).gather ctx).Clean) {i : ConfigIntent}
    (intent : .config i ∈ ctx.intents) :
    i.parameter ctx ∈ ((Adapter.standard mode).lower ctx).resources := by
  have settles := Adapter.settles_lowerIntents mode ctx
  rcases settles.settled i (mem_configIntents.mpr intent) with ⟨d, reported, _⟩ | stored
  · rw [← Adapter.configErrors_lower] at reported
    obtain ⟨present, test⟩ := List.mem_filter.mp reported
    have severe : d.severity = .error := by
      unfold Diagnostic.isConfigError at test
      simpa using (Bool.and_eq_true_iff.mp test).1
    exact absurd severe (clean d present)
  · apply mem_lower_of_stored
    rw [Adapter.stored_gather]
    exact stored

/-- If no two functions share a short name, each of them is kept as it is made. -/
theorem function_kept (mode : LookupMode)
    (distinct : ∀ n m, ctx.Hosts n .computeFunction → ctx.Hosts m .computeFunction →
      n.shortName = m.shortName → n = m)
    {t : Node} (host : ctx.Hosts t .computeFunction) :
    functionOf t ctx.config (ctx.needsAt t.id) (execRoleName t.id) ∈
      ((Adapter.standard mode).lower ctx).resources := by
  obtain ⟨m, first⟩ := host.exists_firstHost?
  obtain ⟨host', same⟩ := Context.host_of_firstHost? first
  obtain rfl : m = t := distinct m t host' host same
  apply Pass.mem_finish.mpr
  rw [name_functionOf]
  exact find?_gather_function mode ctx first

/-- In a run without errors a variable has the value that is stored for any intent that sets it. -/
theorem get?_environment_eq_stored (clean : ((Adapter.standard mode).gather ctx).Clean)
    {i : ConfigIntent} (intent : .config i ∈ ctx.intents) :
    Entries.get? (ctx.needsAt i.target).environment i.key = some (i.source.value ctx) := by
  have set : ((configIntents ctx.intents).find? fun j => j.sets i.target i.key).isSome = true := by
    rw [List.find?_isSome]
    exact ⟨i, mem_configIntents.mpr intent, by simp [ConfigIntent.sets]⟩
  obtain ⟨j, first⟩ := Option.isSome_iff_exists.mp set
  have intent' : .config j ∈ ctx.intents :=
    mem_configIntents.mp (List.mem_of_find?_eq_some first)
  obtain ⟨target, key⟩ : j.target = i.target ∧ j.key = i.key := by
    simpa [ConfigIntent.sets] using List.find?_some first
  -- both intents name the same parameter, and there is one of that name
  have name : (j.parameter ctx).name = (i.parameter ctx).name := by
    show j.parameterName = i.parameterName
    unfold ConfigIntent.parameterName
    rw [target, key]
  have one : j.parameter ctx = i.parameter ctx :=
    Pass.eq_of_name_eq (stored_of_clean clean intent') (stored_of_clean clean intent) name
  calc Entries.get? (ctx.needsAt i.target).environment i.key
      = some (j.source.value ctx) := by
        rw [Context.get?_environment_needsAt, first, Option.map_some]
    _ = Entries.get? (j.parameter ctx).properties "value" := (j.stores_parameter ctx).value.symm
    _ = Entries.get? (i.parameter ctx).properties "value" := by rw [one]
    _ = some (i.source.value ctx) := (i.stores_parameter ctx).value

/-- **Environment and parameters agree.** In a run without errors on a document in which no two
functions share a short name, every function has the variables that config intents ask for at its node
and no others, and each variable has the value of the parameter that is stored for the intent. -/
theorem environment_agrees
    (distinct : ∀ n m, ctx.Hosts n .computeFunction → ctx.Hosts m .computeFunction →
      n.shortName = m.shortName → n = m)
    (success : ((Adapter.standard mode).lower ctx).success = true)
    {t : Node} (host : ctx.Hosts t .computeFunction) :
    ∃ f ∈ ((Adapter.standard mode).lower ctx).resources, f.IsPrimary t .computeFunction ∧
      ∃ vars, f.HasVariables vars ∧
        (∀ key, key ∈ Entries.keys vars ↔
          ∃ i, .config i ∈ ctx.intents ∧ i.target = t.id ∧ i.key = key) ∧
        ∀ i, .config i ∈ ctx.intents → i.target = t.id →
          ∃ p ∈ ((Adapter.standard mode).lower ctx).resources, p.Stores ctx i ∧
            Entries.get? vars i.key = Entries.get? p.properties "value" := by
  have clean := Pass.success_finish_iff.mp success
  refine ⟨_, function_kept mode distinct host, ⟨name_functionOf, type_functionOf, source_functionOf⟩,
    (ctx.needsAt t.id).environment, ?_, fun _ => Context.mem_keys_environment, ?_⟩
  · exact environment_functionOf t ctx.config _ (ctx.asked_needsAt t.id).securityGroups
  · intro i intent target
    have stores := i.stores_parameter ctx
    refine ⟨_, stored_of_clean clean intent, stores, ?_⟩
    rw [stores.value, ← target]
    exact get?_environment_eq_stored clean intent

/-- A document with two functions that are configured under one key. -/
def sharedKey : Document :=
  ⟨⟨"us-east-1", "orders", none, none⟩,
    [.config ⟨"e1", "component:api", "QUEUE_URL", .reference "platform:jobs" none⟩,
      .config ⟨"e2", "component:worker", "QUEUE_URL", .literal "mail"⟩],
    ⟨[⟨"component:api", [("platform", .string "compute-function")]⟩,
      ⟨"component:worker", [("platform", .string "compute-function")]⟩,
      ⟨"platform:jobs", [("platform", .string "queue")]⟩], []⟩⟩

set_option maxRecDepth 10000 in
/-- The function of the first node has the reference to the queue as its one variable. -/
theorem environment_agrees_sharedKey :
    ∃ f ∈ ((Adapter.standard .registry).lower sharedKey).resources, f.name = "api-function" ∧
      ∃ vars, f.HasVariables vars ∧
        Entries.get? vars "QUEUE_URL" = some (.refToField "jobs-queue" "url") := by
  have two : ∀ n, Context.Hosts sharedKey n .computeFunction →
      n = ⟨"component:api", [("platform", .string "compute-function")]⟩ ∨
        n = ⟨"component:worker", [("platform", .string "compute-function")]⟩ := by
    rintro n ⟨present, platform⟩
    rcases List.mem_cons.mp present with rfl | present
    · exact Or.inl rfl
    rcases List.mem_cons.mp present with rfl | present
    · exact Or.inr rfl
    obtain rfl := List.mem_singleton.mp present
    revert platform
    decide
  have distinct : ∀ n m, Context.Hosts sharedKey n .computeFunction →
      Context.Hosts sharedKey m .computeFunction → n.shortName = m.shortName → n = m := by
    intro n m first second same
    rcases two n first with rfl | rfl <;> rcases two m second with rfl | rfl
    · rfl
    · exact absurd same (by decide)
    · exact absurd same (by decide)
    · rfl
  have success : ((Adapter.standard .registry).lower sharedKey).success = true := by decide
  have host : Context.Hosts sharedKey
      ⟨"component:api", [("platform", .string "compute-function")]⟩ .computeFunction :=
    ⟨List.mem_cons_self, by decide⟩
  obtain ⟨f, kept, primary, vars, has, _, agree⟩ := environment_agrees distinct success host
  obtain ⟨p, _, stores, same⟩ := agree _ List.mem_cons_self rfl
  have value : ValueSource.value (.reference "platform:jobs" none) sharedKey =
      .refToField "jobs-queue" "url" := by decide
  refine ⟨f, kept, primary.name, vars, has, ?_⟩
  rw [← value, ← stores.value]
  exact same

end Run

end CloudPlan
