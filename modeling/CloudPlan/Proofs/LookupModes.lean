import CloudPlan.Proofs.Registry

/-!
# Both lookup modes

An adapter consults its lookup mode only to find the lowerer for a platform. Two adapters with the
same intent lowerers that find the same node lowerers therefore run every phase alike
(`Adapter.runPhase_congr`) and come to the same result. A registry that was filled from a list finds
what a search through the list finds, so that the modes of an adapter with the registry and the list
do not differ (`Adapter.modes_agree`).
-/

set_option autoImplicit false

namespace CloudPlan

namespace Registry

/-- The registry filled from a list in order, where whatever is refused is left out. -/
def ofList (lowerers : List NodeLowerer) : Registry :=
  lowerers.foldl registerIfFree empty

/-- The first of a platform counts, as in a search through the list. -/
theorem get?_ofList (lowerers : List NodeLowerer) (platform : String) :
    (ofList lowerers).get? platform = NodeLowerer.lookup lowerers platform := by
  rw [ofList, get?_foldl_registerIfFree, get?_empty, Option.none_or]

end Registry

namespace Adapter

/-- The adapter that has its node lowerers from one list, whatever the mode. -/
def ofLowerers (mode : LookupMode) (intents : List IntentLowerer) (nodes : List NodeLowerer) :
    Adapter :=
  ⟨mode, intents, .ofList nodes, nodes⟩

/-- The standard adapter has its node lowerers from the list of the built-in ones. -/
theorem standard_eq (mode : LookupMode) :
    standard mode = ofLowerers mode IntentLowerer.builtins NodeLowerer.builtins :=
  rfl

/-- In either mode the first lowerer for a platform is found. -/
theorem nodeLowerer?_ofLowerers (mode : LookupMode) (intents : List IntentLowerer)
    (nodes : List NodeLowerer) (platform : String) :
    (ofLowerers mode intents nodes).nodeLowerer? platform = NodeLowerer.lookup nodes platform := by
  cases mode with
  | registry => exact Registry.get?_ofList nodes platform
  | legacy => rfl

section Congruence

variable {a b : Adapter}

/-- What an intent is lowered to depends on the lowerers for intents only. -/
theorem lowerIntent_congr (same : a.intentLowerers = b.intentLowerers) (ctx : Context) :
    a.lowerIntent ctx = b.lowerIntent ctx := by
  funext pass intent
  unfold lowerIntent intentLowerer?
  rw [same]

/-- What a node is lowered to depends only on which lowerer is found for each platform. -/
theorem lowerNode_congr (same : ∀ platform, a.nodeLowerer? platform = b.nodeLowerer? platform)
    (ctx : Context) (needs : NeedsIndex) : a.lowerNode ctx needs = b.lowerNode ctx needs := by
  funext pass node
  unfold lowerNode
  simp only [same]

/-- A phase depends on the lowerers that an adapter finds, and on nothing else of it. -/
theorem runPhase_congr (intents : a.intentLowerers = b.intentLowerers)
    (nodes : ∀ platform, a.nodeLowerer? platform = b.nodeLowerer? platform) (ctx : Context) :
    a.runPhase ctx = b.runPhase ctx := by
  funext pass phase
  cases phase with
  | intents =>
    show ctx.intents.foldl (a.lowerIntent ctx) pass = ctx.intents.foldl (b.lowerIntent ctx) pass
    rw [lowerIntent_congr intents]
  | nodes =>
    show ctx.graph.nodes.foldl (a.lowerNode ctx _) pass =
      ctx.graph.nodes.foldl (b.lowerNode ctx _) pass
    rw [lowerNode_congr nodes]
  | eventMappings | integrations | complete => rfl

/-- Adapters that find the same lowerers come to the same result and announce the same phases. -/
theorem lowerAnnounced_congr (intents : a.intentLowerers = b.intentLowerers)
    (nodes : ∀ platform, a.nodeLowerer? platform = b.nodeLowerer? platform) (ctx : Context) :
    a.lower ctx = b.lower ctx ∧ a.lowerAnnounced ctx = b.lowerAnnounced ctx := by
  unfold lower gather lowerAnnounced
  rw [runPhase_congr intents nodes ctx]
  exact ⟨rfl, rfl⟩

end Congruence

/-- **The lookup modes agree.** A registry that was filled from a list, in order and without
overwriting, finds for every platform the lowerer that a search through the list finds, or neither
finds one. So adapters that differ in the mode alone, with all their node lowerers from one list,
lower every document to the same result, and so do the standard adapters. -/
theorem modes_agree :
    (∀ (lowerers : List NodeLowerer) (platform : String),
      (lowerers.foldl Registry.registerIfFree .empty).get? platform =
        NodeLowerer.lookup lowerers platform) ∧
    (∀ (intents : List IntentLowerer) (nodes : List NodeLowerer) (ctx : Context),
      (ofLowerers .registry intents nodes).lower ctx =
          (ofLowerers .legacy intents nodes).lower ctx ∧
        (ofLowerers .registry intents nodes).lowerAnnounced ctx =
          (ofLowerers .legacy intents nodes).lowerAnnounced ctx) ∧
    ∀ ctx : Context, (standard .registry).lower ctx = (standard .legacy).lower ctx := by
  have alike (intents : List IntentLowerer) (nodes : List NodeLowerer) (ctx : Context) :=
    lowerAnnounced_congr (a := ofLowerers .registry intents nodes)
      (b := ofLowerers .legacy intents nodes) rfl
      (fun platform => by rw [nodeLowerer?_ofLowerers, nodeLowerer?_ofLowerers]) ctx
  refine ⟨Registry.get?_ofList, alike, fun ctx => ?_⟩
  rw [standard_eq, standard_eq]
  exact (alike _ _ ctx).1

end Adapter

end CloudPlan
