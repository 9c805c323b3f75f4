import CloudPlan.Proofs.GrantedAccess

/-!
# Exactly the access asked for

An access intent is lowered on three conditions that have nothing to do with each other: it asks for
some level of access, its resource runs on a known platform, and its scope is not a pattern without a
text. `AccessIntent.Fails` gives them in the order in which they are looked at. What the intent
becomes has a single policy with a single statement, which allows the actions of the levels asked for
and no others, on the pattern or on the resource itself (`access_granted_exactly`).
-/

set_option autoImplicit false

namespace CloudPlan

namespace AccessIntent

variable (i : AccessIntent) (ctx : Context)

/-- The resource of the intent is a node that runs on a platform. -/
def RunsOn (p : Platform) : Prop :=
  ∃ node, ctx.graph.node? i.resource = some node ∧ node.platform? = some p.name

/-- Why an intent cannot be lowered: the first condition that does not hold. -/
inductive Fails : LowerError → Prop where
  | noActions (nothing : i.levels = []) : Fails (.noActions i.edge)
  | notFound (asks : i.levels ≠ []) (missing : ctx.platformOf? i.resource = none) :
      Fails (.resourceNotFound i.resource i.edge)
  | unknown {level : AccessLevel} {more : List AccessLevel} {platform : String}
      (asks : i.levels = level :: more) (runs : ctx.platformOf? i.resource = some platform)
      (foreign : ∀ p : Platform, p.name ≠ platform) : Fails (.undefinedActions level platform)
  | unscoped {p : Platform} (asks : i.levels ≠ []) (runs : i.RunsOn ctx p)
      (nothing : i.Unscoped) : Fails (.emptyPattern i.edge)

variable {i ctx}

/-- The resource of an intent runs on a platform exactly if that is found for its id. -/
theorem runsOn_iff {p : Platform} :
    i.RunsOn ctx p ↔ ctx.knownPlatformOf? i.resource = some p := by
  rw [Context.knownPlatformOf?_eq_some_iff]
  exact Option.bind_eq_some_iff.symm

/-- A scope is well formed, on any platform, unless it is a pattern without a text. -/
theorem exists_scope_iff (p : Platform) :
    (∃ scope, scopeValue i p = .ok scope) ↔ ¬ i.Unscoped := by
  constructor
  · rintro ⟨scope, within⟩ unscoped
    cases within.symm.trans (scopeValue_of_unscoped unscoped)
  · intro stated
    obtain ⟨scope, meant⟩ := (scoped_or_unscoped i p).resolve_right stated
    exact ⟨scope, scopeValue_of_scoped meant⟩

/-- An intent can be lowered if all three conditions hold. -/
theorem exists_lower_iff : (∃ resources, i.lower ctx = .ok resources) ↔
    i.levels ≠ [] ∧ (∃ p, i.RunsOn ctx p) ∧ ¬ i.Unscoped := by
  simp only [lower_eq_ok_iff, runsOn_iff]
  constructor
  · rintro ⟨_, asks, p, scope, known, within, _⟩
    exact ⟨asks, ⟨p, known⟩, (exists_scope_iff p).mp ⟨scope, within⟩⟩
  · rintro ⟨asks, ⟨p, known⟩, stated⟩
    obtain ⟨scope, within⟩ := (exists_scope_iff p).mpr stated
    exact ⟨_, asks, p, scope, known, within, rfl⟩

/-- A failing intent is lowered to its error. -/
theorem lower_of_fails {e : LowerError} (fails : i.Fails ctx e) : i.lower ctx = .error e := by
  unfold lower
  cases fails with
  | noActions nothing => exact if_pos (by simp [nothing])
  | notFound asks missing => rw [if_neg (by simpa using asks), missing]
  | @unknown level more platform asks runs foreign =>
    have none : Platform.ofName? platform = none := by
      rw [Option.eq_none_iff_forall_ne_some]
      intro p known
      exact foreign p (Platform.ofName?_eq_some_iff.mp known).symm
    rw [if_neg (by simp [asks]), runs]
    simp only [none, asks, List.headD_cons]
  | @unscoped p asks runs nothing =>
    rw [runsOn_iff, Context.knownPlatformOf?_eq_some_iff] at runs
    rw [if_neg (by simpa using asks), runs]
    simp only [Platform.ofName?_name, scopeValue_of_unscoped nothing]
    rfl

/-- Either all three conditions hold, or one is the first that does not. -/
theorem sound_or_fails (i : AccessIntent) (ctx : Context) :
    (i.levels ≠ [] ∧ (∃ p, i.RunsOn ctx p) ∧ ¬ i.Unscoped) ∨ ∃ e, i.Fails ctx e := by
  cases asks : i.levels with
  | nil => exact Or.inr ⟨_, .noActions asks⟩
  | cons level more =>
    have some : i.levels ≠ [] := by simp [asks]
    cases runs : ctx.platformOf? i.resource with
    | none => exact Or.inr ⟨_, .notFound some runs⟩
    | some platform =>
      by_cases foreign : ∀ p : Platform, p.name ≠ platform
      · exact Or.inr ⟨_, .unknown asks runs foreign⟩
      · obtain ⟨p, rfl⟩ : ∃ p : Platform, p.name = platform := by simpa using foreign
        have host := runsOn_iff.mpr (Context.knownPlatformOf?_eq_some_iff.mpr runs)
        by_cases nothing : i.Unscoped
        · exact Or.inr ⟨_, .unscoped some host nothing⟩
        · exact Or.inl ⟨asks ▸ some, ⟨p, host⟩, nothing⟩

/-- An intent that cannot be lowered fails for the first condition that does not hold. -/
theorem lower_eq_error_iff {e : LowerError} : i.lower ctx = .error e ↔ i.Fails ctx e := by
  refine ⟨fun failed => ?_, lower_of_fails⟩
  rcases sound_or_fails i ctx with sound | ⟨e', fails⟩
  · obtain ⟨resources, lowered⟩ := exists_lower_iff.mpr sound
    cases failed.symm.trans lowered
  · cases failed.symm.trans (lower_of_fails fails)
    exact fails

/-- There is one policy among the resources of an intent. -/
theorem policies_resources (i : AccessIntent) (p : Platform) (scope : Value) :
    (i.resources p scope).filter (fun r => r.type == ResourceKind.policy.token) =
      [accessPolicy i p (p.actionsFor i.levels) scope] := by
  have role : (ResourceKind.role.token == ResourceKind.policy.token) = false := by decide
  have attachment : (ResourceKind.rolePolicyAttachment.token == ResourceKind.policy.token) = false := by
    decide
  simp [resources, execRole, List.filter, role, attachment]

end AccessIntent

end CloudPlan
