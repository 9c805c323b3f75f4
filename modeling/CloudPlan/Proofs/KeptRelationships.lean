import CloudPlan.Proofs.Kinds

/-!
# Which relationships are kept

The resources of an edge are named after the short names of its two ends, and of two resources of
one name the first is kept. So of the edges that share a name only the first one has its route or its
event source mapping in the result. `relationship_kept_iff` says which edges are there all the same:
those that the first edge of their name agrees with, in both ends and in the route. Therefore nothing
is lost exactly if all edges that share a name agree (`relationships_kept_iff`).
-/

set_option autoImplicit false

namespace CloudPlan

/-- Two edges start at one short name and end at one short name. -/
structure Edge.SameEnds (e f : Edge) : Prop where
  source : shortName e.source = shortName f.source
  target : shortName e.target = shortName f.target

/-- A route of an API leads requests of a key to an integration. -/
structure Resource.Routes (r : Resource) (api key integration : String) : Prop where
  type : r.type = ResourceKind.route.token
  api : Entries.get? r.properties "apiId" = some (.refTo api)
  key : Entries.get? r.properties "routeKey" = some (.string key)
  target : Entries.get? r.properties "target" = some (.refTo integration)

/-- An integration passes requests on to a function. -/
structure Resource.Integrates (r : Resource) (function : String) : Prop where
  type : r.type = ResourceKind.integration.token
  function : Entries.get? r.properties "integrationUri" = some (.refTo function)

/-- An event source mapping passes the messages of a queue on to a function. -/
structure Resource.Maps (r : Resource) (function queue : String) : Prop where
  type : r.type = ResourceKind.eventSourceMapping.token
  function : Entries.get? r.properties "functionName" = some (.refTo function)
  queue : Entries.get? r.properties "eventSourceArn" = some (.refTo queue)

namespace Edge

/-- The name of the queue at the end of an edge. -/
def queueName (e : Edge) : String :=
  Platform.queue.resourceName (shortName e.target)

/-- The name of the function at the start of an edge. -/
def consumerName (e : Edge) : String :=
  Platform.computeFunction.resourceName (shortName e.source)

/-- Some resources route the requests of an edge from its API to its function. -/
def Routed (e : Edge) (resources : List Resource) : Prop :=
  ∃ route ∈ resources, ∃ integration ∈ resources,
    route.Routes e.apiName e.routeKey integration.name ∧ integration.Integrates e.functionName

/-- Some resources pass the messages of the queue of an edge on to its function. -/
def Mapped (e : Edge) (resources : List Resource) : Prop :=
  ∃ mapping ∈ resources, mapping.Maps e.consumerName e.queueName

/-- The first one of some edges whose ends are joined to a name. -/
def first? (edges : List Edge) (pair : String) : Option Edge :=
  edges.find? fun e => e.pairName == pair

variable {e f g : Edge} {edges : List Edge} {pair : String}

/-- The first edge of a pair is one of that pair. -/
theorem pairName_of_first? (first : Edge.first? edges pair = some f) : f.pairName = pair := by
  have found := List.find?_some first
  exact beq_iff_eq.mp found

/-- It is the first one of its own pair. -/
theorem first?_pairName (first : Edge.first? edges pair = some f) :
    Edge.first? edges f.pairName = some f := by
  rw [pairName_of_first? first, first]

/-- Every edge has a first one of its pair. -/
theorem exists_first? (present : e ∈ edges) :
    ∃ f ∈ edges, Edge.first? edges e.pairName = some f ∧ f.pairName = e.pairName := by
  have found : (Edge.first? edges e.pairName).isSome = true := by
    unfold Edge.first?
    rw [List.find?_isSome]
    exact ⟨e, present, by simp⟩
  obtain ⟨f, first⟩ := Option.isSome_iff_exists.mp found
  exact ⟨f, List.mem_of_find?_eq_some first, first, pairName_of_first? first⟩

/-- Edges with the same ends have one pair. -/
theorem SameEnds.pairName (same : e.SameEnds f) : e.pairName = f.pairName := by
  rw [Edge.pairName, Edge.pairName, same.source, same.target]

/-- The names of its gateway and its function tell the ends of a trigger. -/
theorem SameEnds.of_names (api : e.apiName = f.apiName)
    (function : e.functionName = f.functionName) : e.SameEnds f where
  source := Platform.resourceName_inj.mp api
  target := Platform.resourceName_inj.mp function

/-- The names of its function and its queue tell the ends of a binding. -/
theorem SameEnds.of_consumer (function : e.consumerName = f.consumerName)
    (queue : e.queueName = f.queueName) : e.SameEnds f where
  source := Platform.resourceName_inj.mp function
  target := Platform.resourceName_inj.mp queue

/-- Two edges that share both ends with a third one share them. -/
theorem SameEnds.join (first : g.SameEnds e) (second : g.SameEnds f) : e.SameEnds f where
  source := first.source.symm.trans second.source
  target := first.target.symm.trans second.target

end Edge

namespace Context

/-- The edges on which gateways trigger functions. -/
def triggers (ctx : Context) : List Edge :=
  ctx.edgesBetween .triggers .httpGateway .computeFunction

/-- The edges that bind functions to queues. -/
def bindings (ctx : Context) : List Edge :=
  ctx.edgesBetween .bindsTo .computeFunction .queue

end Context

/-! ## What stands first among everything gathered -/

section First

variable {mode : LookupMode} {ctx : Context} {pair : String}

/-- What is put after two texts does not matter when they are compared. -/
theorem beq_append_right {a b x : String} : (a ++ x == b ++ x) = (a == b) := by
  rw [Bool.eq_iff_iff, beq_iff_eq, beq_iff_eq, String.append_left_inj]

/-- A name that tells a kind of edges is looked for among what edges become. -/
theorem find?_gather_of_edges {name : String} {kind : ResourceKind}
    (known : Entries.get? endings (ending name) = some kind)
    (foreign : kind ∉ ResourceKind.ofSources) :
    ((Adapter.standard mode).gather ctx).resources.find? (fun r => r.name == name) =
      ((eventMappings ctx).find? fun r => r.name == name).or
        ((httpIntegrations ctx).find? fun r => r.name == name) := by
  have sources := (ofKinds_gatherSources mode ctx).find?_eq_none known foreign
  rw [(Adapter.gather_eq _ ctx).1, List.find?_append, List.find?_append, sources, Option.none_or]

/-- The first mapping that is gathered for a pair is that of its first binding. -/
theorem find?_gather_mapping :
    ((Adapter.standard mode).gather ctx).resources.find?
        (fun r => r.name == pair ++ "-event-mapping") =
      (Edge.first? ctx.bindings pair).map eventMapping := by
  have known : Entries.get? endings (ending (pair ++ "-event-mapping")) =
      some .eventSourceMapping := by
    rw [ending_append (by decide)]
    decide
  have triggers := (ofKinds_httpIntegrations ctx).find?_eq_none known (by decide)
  have named : ((fun r : Resource => r.name == pair ++ "-event-mapping") ∘ eventMapping) =
      fun e => e.pairName == pair := by
    funext e
    exact beq_append_right
  rw [find?_gather_of_edges known (by decide), triggers, Option.or_none, eventMappings,
    List.find?_map, named]
  rfl

/-- The first resource of a trigger's kind and name is that of the first trigger, if each trigger
has one. -/
theorem find?_gather_trigger {last : String} {build : Edge → Resource} (kind : ResourceKind)
    (dashed : '-' ∈ last.toList) (known : Entries.get? endings (ending last) = some kind)
    (trigger : kind ∈ ResourceKind.ofTriggers)
    (each : ∀ e, (httpIntegration e).find? (fun r => r.name == pair ++ last) =
      if e.pairName == pair then some (build e) else none) :
    ((Adapter.standard mode).gather ctx).resources.find? (fun r => r.name == pair ++ last) =
      (Edge.first? ctx.triggers pair).map build := by
  have known' : Entries.get? endings (ending (pair ++ last)) = some kind := by
    rw [ending_append dashed, known]
  have foreign : kind ∉ ResourceKind.ofSources ∧ kind ∉ [ResourceKind.eventSourceMapping] := by
    cases kind <;> first | decide | exact absurd trigger (by decide)
  have mappings := (ofKinds_eventMappings ctx).find?_eq_none known' foreign.2
  have found : ((httpIntegrations ctx).find? fun r => r.name == pair ++ last).map id =
      (Edge.first? ctx.triggers pair).map build :=
    Pass.map_find?_flatMap fun e _ => Option.map_id_apply.trans (each e)
  rw [find?_gather_of_edges known' foreign.1, mappings, Option.none_or, ← found,
    Option.map_id_apply]

/-- The first integration of a pair is that of its first trigger. -/
theorem find?_gather_integration :
    ((Adapter.standard mode).gather ctx).resources.find?
        (fun r => r.name == pair ++ "-integration") =
      (Edge.first? ctx.triggers pair).map integrationOf := by
  refine find?_gather_trigger .integration (by decide) (by decide) (by decide) ?_
  intro e
  have route : ((routeOf e).name == pair ++ "-integration") = false :=
    beq_false_of_ne (append_ne_of_ending (by decide) (by decide) (by decide))
  have permission : ((permissionOf e).name == pair ++ "-integration") = false :=
    beq_false_of_ne (append_ne_of_ending (by decide) (by decide) (by decide))
  have integration : ((integrationOf e).name == pair ++ "-integration") = (e.pairName == pair) :=
    beq_append_right
  simp only [httpIntegration, List.find?_cons, List.find?_nil, integration, route, permission]
  cases e.pairName == pair <;> rfl

/-- So is the first route of a pair. -/
theorem find?_gather_route :
    ((Adapter.standard mode).gather ctx).resources.find? (fun r => r.name == pair ++ "-route") =
      (Edge.first? ctx.triggers pair).map routeOf := by
  refine find?_gather_trigger .route (by decide) (by decide) (by decide) ?_
  intro e
  have integration : ((integrationOf e).name == pair ++ "-route") = false :=
    beq_false_of_ne (append_ne_of_ending (by decide) (by decide) (by decide))
  have permission : ((permissionOf e).name == pair ++ "-route") = false :=
    beq_false_of_ne (append_ne_of_ending (by decide) (by decide) (by decide))
  have route : ((routeOf e).name == pair ++ "-route") = (e.pairName == pair) :=
    beq_append_right
  simp only [httpIntegration, List.find?_cons, List.find?_nil, integration, route, permission]
  cases e.pairName == pair <;> rfl

end First

/-! ## Routes, integrations and mappings among the resources -/

/-- The route of an edge leads requests of its key from its gateway to its integration. -/
theorem routes_routeOf (e : Edge) : (routeOf e).Routes e.apiName e.routeKey e.integrationName where
  type := rfl
  api := rfl
  key := rfl
  target := rfl

/-- The integration of an edge passes requests on to its function. -/
theorem integrates_integrationOf (e : Edge) : (integrationOf e).Integrates e.functionName where
  type := rfl
  function := rfl

/-- The mapping of an edge passes the messages of its queue on to its function. -/
theorem maps_eventMapping (e : Edge) : (eventMapping e).Maps e.consumerName e.queueName where
  type := rfl
  function := rfl
  queue := rfl

section Kept

variable {mode : LookupMode} {ctx : Context} {edges : List Edge} {build : Edge → Resource}
  {last : String}

/-- If the first resource of a name is that of the first edge, a resource that is kept is that of a
first edge. -/
theorem exists_first_of_kept
    (finds : ∀ pair, ((Adapter.standard mode).gather ctx).resources.find?
      (fun r => r.name == pair ++ last) = (Edge.first? edges pair).map build)
    {r : Resource} (kept : r ∈ ((Adapter.standard mode).lower ctx).resources) {pair : String}
    (name : r.name = pair ++ last) :
    ∃ f, Edge.first? edges f.pairName = some f ∧ build f = r := by
  have found := Pass.mem_finish.mp kept
  rw [name, finds, Option.map_eq_some_iff] at found
  obtain ⟨f, first, same⟩ := found
  exact ⟨f, Edge.first?_pairName first, same⟩

/-- Then the resource of a first edge is kept. -/
theorem kept_of_first
    (finds : ∀ pair, ((Adapter.standard mode).gather ctx).resources.find?
      (fun r => r.name == pair ++ last) = (Edge.first? edges pair).map build)
    {f : Edge} (first : Edge.first? edges f.pairName = some f)
    (name : (build f).name = f.pairName ++ last) :
    build f ∈ ((Adapter.standard mode).lower ctx).resources := by
  apply Pass.mem_finish.mpr
  rw [name, finds, first, Option.map_some]

variable {r : Resource}

/-- A route that is kept is that of the first trigger of its pair. -/
theorem first_of_routes (kept : r ∈ ((Adapter.standard mode).lower ctx).resources)
    {api key integration : String} (routes : r.Routes api key integration) :
    ∃ f, Edge.first? ctx.triggers f.pairName = some f ∧ f.apiName = api ∧ f.routeKey = key ∧
      f.integrationName = integration := by
  have type := routes.type
  cases Context.yields_of_mem_lower kept with
  | route =>
    obtain ⟨f, first, same⟩ := exists_first_of_kept (fun _ => find?_gather_route) kept rfl
    have known := routes_routeOf f
    rw [same] at known
    refine ⟨f, first, ?_, ?_, ?_⟩
    · simpa [Value.refTo] using known.api.symm.trans routes.api
    · simpa using known.key.symm.trans routes.key
    · simpa [Value.refTo] using known.target.symm.trans routes.target
  | _ => simp at type

/-- So is an integration. -/
theorem first_of_integrates (kept : r ∈ ((Adapter.standard mode).lower ctx).resources)
    {function : String} (integrates : r.Integrates function) :
    ∃ f, Edge.first? ctx.triggers f.pairName = some f ∧ f.functionName = function ∧
      f.integrationName = r.name := by
  have type := integrates.type
  cases Context.yields_of_mem_lower kept with
  | integration =>
    obtain ⟨f, first, same⟩ := exists_first_of_kept (fun _ => find?_gather_integration) kept rfl
    have known := integrates_integrationOf f
    rw [same] at known
    refine ⟨f, first, ?_, congrArg Resource.name same⟩
    simpa [Value.refTo] using known.function.symm.trans integrates.function
  | _ => simp at type

/-- A mapping that is kept is that of the first binding of its pair. -/
theorem first_of_maps (kept : r ∈ ((Adapter.standard mode).lower ctx).resources)
    {function queue : String} (maps : r.Maps function queue) :
    ∃ f, Edge.first? ctx.bindings f.pairName = some f ∧ f.consumerName = function ∧
      f.queueName = queue := by
  have type := maps.type
  cases Context.yields_of_mem_lower kept with
  | @mapping e _ =>
    have name : (eventMapping e).name = e.pairName ++ "-event-mapping" := rfl
    obtain ⟨f, first, same⟩ := exists_first_of_kept (fun _ => find?_gather_mapping) kept name
    have known := maps_eventMapping f
    rw [same] at known
    refine ⟨f, first, ?_, ?_⟩
    · simpa [Value.refTo] using known.function.symm.trans maps.function
    · simpa [Value.refTo] using known.queue.symm.trans maps.queue
  | _ => simp at type

end Kept

/-! ## Exactly the edges that agree with the first one are there -/

/-- An edge is routed exactly if the first trigger of its name has its ends and its route. -/
theorem routed_iff {mode : LookupMode} {ctx : Context} {e : Edge} :
    e.Routed ((Adapter.standard mode).lower ctx).resources ↔
      ∃ f, Edge.first? ctx.triggers e.pairName = some f ∧ f.SameEnds e ∧ f.routeKey = e.routeKey := by
  constructor
  · rintro ⟨route, kept, integration, kept', routes, integrates⟩
    obtain ⟨f, first, api, key, target⟩ := first_of_routes kept routes
    obtain ⟨g, first', function, name⟩ := first_of_integrates kept' integrates
    -- the route leads to the integration by its name, which tells the first trigger
    have sameName : f.pairName = g.pairName := by
      have joined : f.pairName ++ "-integration" = g.pairName ++ "-integration" :=
        target.trans name.symm
      simpa using joined
    rw [sameName, first', Option.some.injEq] at first
    subst first
    have same := Edge.SameEnds.of_names api function
    exact ⟨g, by rw [← same.pairName, first'], same, key⟩
  · rintro ⟨f, first, same, key⟩
    rw [← same.pairName] at first
    have route : routeOf f ∈ ((Adapter.standard mode).lower ctx).resources :=
      kept_of_first (fun _ => find?_gather_route) first rfl
    have integration : integrationOf f ∈ ((Adapter.standard mode).lower ctx).resources :=
      kept_of_first (fun _ => find?_gather_integration) first rfl
    have api : f.apiName = e.apiName := Platform.resourceName_inj.mpr same.source
    have function : f.functionName = e.functionName := Platform.resourceName_inj.mpr same.target
    refine ⟨_, route, _, integration, ?_, ?_⟩
    · rw [← api, ← key]
      exact routes_routeOf f
    · rw [← function]
      exact integrates_integrationOf f

/-- An edge is mapped exactly if the first binding of its name has its ends. -/
theorem mapped_iff {mode : LookupMode} {ctx : Context} {e : Edge} :
    e.Mapped ((Adapter.standard mode).lower ctx).resources ↔
      ∃ f, Edge.first? ctx.bindings e.pairName = some f ∧ f.SameEnds e := by
  constructor
  · rintro ⟨mapping, kept, maps⟩
    obtain ⟨f, first, function, queue⟩ := first_of_maps kept maps
    have same := Edge.SameEnds.of_consumer function queue
    exact ⟨f, by rw [← same.pairName, first], same⟩
  · rintro ⟨f, first, same⟩
    rw [← same.pairName] at first
    have function : f.consumerName = e.consumerName := Platform.resourceName_inj.mpr same.source
    have queue : f.queueName = e.queueName := Platform.resourceName_inj.mpr same.target
    have mapping : eventMapping f ∈ ((Adapter.standard mode).lower ctx).resources :=
      kept_of_first (fun _ => find?_gather_mapping) first rfl
    refine ⟨_, mapping, ?_⟩
    rw [← function, ← queue]
    exact maps_eventMapping f

/-- No relationship is lost exactly if all triggers that share a name have the same ends and the
same route, and all bindings that share a name the same ends. -/
theorem relationships_kept_iff {mode : LookupMode} {ctx : Context} :
    (∀ e ∈ ctx.triggers, e.Routed ((Adapter.standard mode).lower ctx).resources) ∧
        (∀ e ∈ ctx.bindings, e.Mapped ((Adapter.standard mode).lower ctx).resources) ↔
      (∀ e ∈ ctx.triggers, ∀ f ∈ ctx.triggers, e.pairName = f.pairName →
          e.SameEnds f ∧ e.routeKey = f.routeKey) ∧
        ∀ e ∈ ctx.bindings, ∀ f ∈ ctx.bindings, e.pairName = f.pairName → e.SameEnds f := by
  constructor
  · -- two edges of one name are both compared with the first one of that name
    rintro ⟨routed, mapped⟩
    refine ⟨?_, ?_⟩
    · intro e trigger f trigger' sameName
      obtain ⟨g, first, same, key⟩ := routed_iff.mp (routed e trigger)
      obtain ⟨g', first', same', key'⟩ := routed_iff.mp (routed f trigger')
      rw [sameName, first', Option.some.injEq] at first
      subst first
      exact ⟨same.join same', key.symm.trans key'⟩
    · intro e binding f binding' sameName
      obtain ⟨g, first, same⟩ := mapped_iff.mp (mapped e binding)
      obtain ⟨g', first', same'⟩ := mapped_iff.mp (mapped f binding')
      rw [sameName, first', Option.some.injEq] at first
      subst first
      exact same.join same'
  · -- the first edge of a name is one of those that are compared
    rintro ⟨triggers, bindings⟩
    refine ⟨?_, ?_⟩
    · intro e trigger
      obtain ⟨f, trigger', first, name⟩ := Edge.exists_first? trigger
      obtain ⟨same, key⟩ := triggers f trigger' e trigger name
      exact routed_iff.mpr ⟨f, first, same, key⟩
    · intro e binding
      obtain ⟨f, binding', first, name⟩ := Edge.exists_first? binding
      exact mapped_iff.mpr ⟨f, first, bindings f binding' e binding name⟩

/-- **Which relationships are kept.** A trigger is routed exactly if the first trigger of its name
has its ends and its route, and a binding is mapped exactly if the first binding of its name has its
ends. Whether lowering reports errors does not matter. -/
theorem relationship_kept_iff (mode : LookupMode) (ctx : Context) (e : Edge) :
    (e.Routed ((Adapter.standard mode).lower ctx).resources ↔
        ∃ f, Edge.first? ctx.triggers e.pairName = some f ∧ f.SameEnds e ∧ f.routeKey = e.routeKey) ∧
      (e.Mapped ((Adapter.standard mode).lower ctx).resources ↔
        ∃ f, Edge.first? ctx.bindings e.pairName = some f ∧ f.SameEnds e) :=
  ⟨routed_iff, mapped_iff⟩

/-- An edge on which a gateway triggers a function by a method on a path. -/
def orderRoute (id method : String) : Edge :=
  ⟨id, .triggers, "platform:gw", "component:api",
    [("method", .string method), ("route", .string "/orders")]⟩

/-- A document in which a gateway triggers one function by two methods on one path. -/
def twoMethods : Document :=
  ⟨⟨"us-east-1", "orders", none, none⟩, [],
    ⟨[⟨"platform:gw", [("platform", .string "http-gateway")]⟩,
      ⟨"component:api", [("platform", .string "compute-function")]⟩],
    [orderRoute "e1" "GET", orderRoute "e2" "POST"]⟩⟩

set_option maxRecDepth 10000 in
/-- The second route of that document is lost, without an error. -/
theorem second_route_lost :
    ((Adapter.standard .registry).lower twoMethods).success = true ∧
      orderRoute "e2" "POST" ∈ Context.triggers twoMethods ∧
      ¬ (orderRoute "e2" "POST").Routed ((Adapter.standard .registry).lower twoMethods).resources := by
  have first : Edge.first? (Context.triggers twoMethods) (orderRoute "e2" "POST").pairName =
      some (orderRoute "e1" "GET") := by decide
  refine ⟨by decide, by decide, ?_⟩
  rw [(relationship_kept_iff .registry twoMethods _).1]
  rintro ⟨f, found, _, key⟩
  rw [first, Option.some.injEq] at found
  subst found
  exact absurd key (by decide)

end CloudPlan
