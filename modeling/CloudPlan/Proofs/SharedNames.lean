import CloudPlan.Proofs.GrantedAccess
import CloudPlan.Proofs.KeptParameters

/-!
# What shares a name

Of the resources that a document is lowered to, the first one of each name is kept. Names are made of
texts that the document chooses, but end in a word that lowering chooses, and that word tells the
type; so whatever shares a name shares a type (`Context.Yields.type_eq`), and only resources of one
type are ever merged. Execution roles and their basic attachments, which are made for each principal
and for each function anew, are the same whenever they share a name, but for the source that they are
made for (`eq_withSource`). `shared_names` says so of everything that lowerers yield and edges become,
recorded or not, and of what is kept in the end.
-/

set_option autoImplicit false

namespace CloudPlan

/-- Everything that the lowerers of an adapter yield for a document, and what its edges become, before
any of it is left out. -/
def Adapter.yielded (a : Adapter) (ctx : Context) : List Resource :=
  (ctx.intents.flatMap fun x => made (a.intentOutcome ctx x)) ++
    (ctx.graph.nodes.flatMap fun n => made (a.nodeOutcome ctx n)) ++
      eventMappings ctx ++ httpIntegrations ctx

namespace Resource

/-- The resource as it is made for another source. -/
def withSource (r : Resource) (source : String) : Resource :=
  { r with source := source }

/-- The resource is an execution role, or attaches the basic policy to one. -/
def IsExecution (r : Resource) : Prop :=
  r.type = ResourceKind.role.token ∨
    r.type = ResourceKind.rolePolicyAttachment.token ∧
      Entries.get? r.properties "policyArn" = some (.string basicExecutionPolicy)

end Resource

/-! ## Execution roles -/

section Execution

variable {ctx : Context} {r s : Resource} {id id' : String}

/-- A role is determined by its name, but for its source. -/
theorem executionRole_withSource (same : execRoleName id = execRoleName id') (source source' : String) :
    executionRole id' source' = (executionRole id source).withSource source' := by
  unfold executionRole
  rw [same]
  rfl

/-- The attachments of the basic policy to roles of the same name differ in their source only. -/
theorem basicAttachment_withSource (same : execRoleName id = execRoleName id')
    (source source' : String) :
    basicAttachment id' source' = (basicAttachment id source).withSource source' := by
  unfold basicAttachment
  rw [same]
  rfl

/-- The basic policy is attached by the attachments made for it alone. -/
theorem Context.Yields.of_isExecution (yields : ctx.Yields r) (execution : r.IsExecution) :
    ∃ id source, r = executionRole id source ∨ r = basicAttachment id source := by
  cases yields with
  | @role id source _ => exact ⟨id, source, Or.inl rfl⟩
  | @basic id source _ => exact ⟨id, source, Or.inr rfl⟩
  | @attachment i p intent platform =>
    rcases execution with role | ⟨_, attached⟩
    · simp at role
    · rw [(attaches_accessAttachment i).policy] at attached
      cases attached
  | _ => simp [Resource.IsExecution] at execution

/-- An execution role or its basic attachment is the same as whatever shares its name, but for the
source. -/
theorem Context.Yields.eq_withSource (first : ctx.Yields r) (second : ctx.Yields s)
    (execution : r.IsExecution) (same : r.name = s.name) : s = r.withSource s.source := by
  have type := first.type_eq second same
  obtain ⟨id, source, rfl | rfl⟩ := first.of_isExecution execution
  · cases second with
    | role => exact executionRole_withSource same _ _
    | _ => simp at type
  · cases second with
    | @basic id' source' _ =>
      have roles : execRoleName id ++ "-basic" = execRoleName id' ++ "-basic" := same
      exact basicAttachment_withSource (by simpa using roles) _ _
    | @attachment i p intent platform =>
      have last := congrArg ending same
      rw [ending_basicAttachment, ending_accessAttachment] at last
      exact absurd last (by decide)
    | _ => simp at type

end Execution

/-! ## Before and after the first of each name is kept -/

section Run

variable {mode : LookupMode} {ctx : Context} {r : Resource}

/-- Whatever the lowerers yield comes from an intent, a node or an edge. -/
theorem Context.yields_of_mem_yielded (member : r ∈ (Adapter.standard mode).yielded ctx) :
    ctx.Yields r := by
  simp only [Adapter.yielded, List.mem_append, List.mem_flatMap, or_assoc] at member
  exact yields_of_origin member

/-- Whatever is gathered was yielded. The parameter of a refused config intent is yielded as well, but
not gathered. -/
theorem Adapter.mem_yielded_of_mem_gather
    (gathered : r ∈ ((standard mode).gather ctx).resources) : r ∈ (standard mode).yielded ctx := by
  simp only [yielded, List.mem_append, List.mem_flatMap, or_assoc]
  exact mem_gather _ _ gathered

end Run

/-- **Only resources of one kind share a name.** Any two resources of one name among all that lowerers
yield and edges become are of one type, and if they are execution roles or basic attachments, they are
the same but for their source. So of everything gathered there is one resource of its name in the end,
and that one is of its type. -/
theorem shared_names (mode : LookupMode) (ctx : Context) :
    (∀ r ∈ (Adapter.standard mode).yielded ctx, ∀ s ∈ (Adapter.standard mode).yielded ctx,
      r.name = s.name → r.type = s.type ∧ (r.IsExecution → s = r.withSource s.source)) ∧
      ∀ r ∈ ((Adapter.standard mode).gather ctx).resources,
        r ∈ (Adapter.standard mode).yielded ctx ∧
        ∃ s, ((Adapter.standard mode).lower ctx).resources.filter (fun t => t.name == r.name) = [s] ∧
          s.type = r.type ∧ (r.IsExecution → s = r.withSource s.source) := by
  constructor
  · intro r member s member' same
    have first := Context.yields_of_mem_yielded member
    have second := Context.yields_of_mem_yielded member'
    exact ⟨first.type_eq second same, fun execution => first.eq_withSource second execution same⟩
  · intro r gathered
    obtain ⟨s, kept, same, type⟩ := exists_kept gathered
    have one : ((Adapter.standard mode).lower ctx).resources.filter (fun t => t.name == r.name) =
        [s] := by
      rw [← same]
      exact Pass.filter_name_finish kept
    refine ⟨Adapter.mem_yielded_of_mem_gather gathered, s, one, type, fun execution => ?_⟩
    exact (Context.yields_of_mem_gather gathered).eq_withSource (Context.yields_of_mem_lower kept)
      execution same.symm

/-- A document with a principal that is granted access, and a function of its short name that is not:
both get an execution role. -/
def twoPrincipals : Document :=
  ⟨⟨"us-east-1", "orders", none, none⟩,
    [.access ⟨"e1", "component:api", "platform:jobs", [.read], none⟩],
    ⟨[⟨"platform:api", [("platform", .string "compute-function")]⟩,
      ⟨"platform:jobs", [("platform", .string "queue")]⟩], []⟩⟩

set_option maxRecDepth 10000 in
/-- These two roles share a name, and differ in their source alone. -/
theorem shared_names_twoPrincipals :
    let granted := executionRole "component:api" "e1"
    let own := executionRole "platform:api" "platform:api"
    granted ∈ (Adapter.standard .registry).yielded twoPrincipals ∧
      own ∈ (Adapter.standard .registry).yielded twoPrincipals ∧ granted ≠ own ∧
      granted.name = own.name ∧ granted.type = own.type ∧ own = granted.withSource "platform:api" := by
  intro granted own
  have member : granted ∈ (Adapter.standard .registry).yielded twoPrincipals := by decide
  have member' : own ∈ (Adapter.standard .registry).yielded twoPrincipals := by decide
  have same : granted.name = own.name := by decide
  obtain ⟨type, alike⟩ := (shared_names .registry twoPrincipals).1 _ member _ member' same
  exact ⟨member, member', by decide, same, type, alike (Or.inl rfl)⟩

end CloudPlan
