import CloudPlan.Proofs.FailingIntents
import CloudPlan.Proofs.KeptNodes

/-!
# What hangs on a failing intent

A failing intent is isolated as far as intents go, but intents are read twice: a function is lowered
with what *all* intents say about its node. So a failing intent may take away the role that the function
would get on its own, or change its environment. `Context.Unaffected` says of a function that neither
shows in the result, and `isolated_iff` says that the results with and without a failing intent are the
same exactly if every function is unaffected.
-/

set_option autoImplicit false

namespace CloudPlan

/-- An access intent is lowered to the role of a node and is made for an edge with the node's id, so
that the role is recorded under this id anyway. -/
def Context.RecordsRole (ctx : Context) (n : Node) : Prop :=
  ∃ i resources, .access i ∈ ctx.intents ∧ i.lower ctx = .ok resources ∧ i.edge = n.id ∧
    shortName i.principal = n.shortName

/-- A function is made without the intent at a position as it is made with it: it has no new need of a
role, or the role is recorded anyway; and if it is the function that is kept of its name, its
environment is the same. -/
structure Context.Unaffected (ctx : Context) (k : Nat) (n : Node) : Prop where
  role : ((ctx.without k).needsAt n.id).role = (ctx.needsAt n.id).role ∨ ctx.RecordsRole n
  environment : ctx.firstHost? .computeFunction n.shortName = some n →
    ((ctx.without k).needsAt n.id).environment = (ctx.needsAt n.id).environment

/-! ## Roles that intents record -/

/-- Execution roles have the same name exactly if the nodes have the same short name. -/
theorem execRoleName_inj {a b : String} : execRoleName a = execRoleName b ↔ shortName a = shortName b := by
  simp [execRoleName, resourceName]

section Roles

variable {mode : LookupMode} {ctx : Context} {n : Node}

/-- Of a recorded role and its basic attachment, others of the same source and name are gathered from
intents. -/
theorem Context.RecordsRole.gathered (mode : LookupMode) (records : ctx.RecordsRole n) :
    ∀ s ∈ execRole n.id n.id, ∃ r ∈ ((Adapter.standard mode).lowerIntents ctx .start).resources,
      r.source = s.source ∧ r.name = s.name := by
  obtain ⟨i, resources, intent, lowered, edge, same⟩ := records
  obtain ⟨_, p, scope, _, _, rfl⟩ := AccessIntent.lower_eq_ok_iff.mp lowered
  have role : execRoleName i.principal = execRoleName n.id := execRoleName_inj.mpr same
  intro s member
  simp only [execRole, List.mem_cons, List.not_mem_nil, or_false] at member
  rcases member with rfl | rfl
  · refine ⟨executionRole i.principal i.edge,
      Adapter.mem_lowerIntents_of_access intent lowered List.mem_cons_self, edge, role⟩
  · refine ⟨basicAttachment i.principal i.edge, Adapter.mem_lowerIntents_of_access intent lowered
      (List.mem_cons_of_mem _ List.mem_cons_self), edge, ?_⟩
    show execRoleName i.principal ++ "-basic" = execRoleName n.id ++ "-basic"
    rw [role]

/-- The name of an execution role tells that it is a role. -/
theorem get?_endings_execRoleName (id : String) :
    Entries.get? endings (ending (execRoleName id)) = some .role :=
  congrArg _ (ending_execRoleName id)

/-- If intents leave the role of a node under the node's id, they record it. -/
theorem Context.recordsRole_of_mem {r : Resource}
    (gathered : r ∈ ((Adapter.standard mode).lowerIntents ctx .start).resources)
    (source : r.source = n.id) (name : r.name = execRoleName n.id) : ctx.RecordsRole n := by
  have tells := get?_endings_execRoleName n.id
  rcases Pass.mem_foldl (Adapter.step_lowerIntent _ ctx) ctx.intents .start gathered with
    none | ⟨x, present, member⟩
  · cases none
  · rw [Adapter.intentOutcome_standard] at member
    cases x with
    | access i =>
      cases lowered : i.lower ctx with
      | error e =>
        simp only [lowered] at member
        cases member
      | ok resources =>
        obtain ⟨_, p, scope, _, _, rfl⟩ := AccessIntent.lower_eq_ok_iff.mp lowered
        simp only [lowered] at member
        have edge : i.edge = n.id := (AccessIntent.source_of_mem_resources member).symm.trans source
        simp only [made, AccessIntent.resources, execRole, List.cons_append, List.nil_append,
          List.mem_cons, List.not_mem_nil, or_false] at member
        rcases member with rfl | rfl | rfl | rfl
        · exact ⟨i, _, present, lowered, edge, execRoleName_inj.mp name⟩
        · exact absurd name (wellNamed_basicAttachment.ne_of_tells tells (by decide))
        · exact absurd name (wellNamed_accessPolicy.ne_of_tells tells (by decide))
        · exact absurd name (wellNamed_accessAttachment.ne_of_tells tells (by decide))
    | config i =>
      simp only [ConfigIntent.lower] at member
      split at member
      · cases member
      · obtain rfl := List.mem_singleton.mp member
        exact absurd name (wellNamed_parameter.ne_of_tells tells (by decide))
    | network i => cases member
    | telemetry i => cases member
    | other i => cases member

end Roles

/-! ## Functions and their needs -/

/-- Without an intent a node is given the role that it is given with it, or none. -/
theorem Context.role_without (ctx : Context) (k : Nat) (id : String) :
    ((ctx.without k).needsAt id).role = (ctx.needsAt id).role ∨
      ((ctx.without k).needsAt id).role = none ∧ (ctx.needsAt id).role.isSome = true := by
  cases fewer : ((ctx.without k).needsAt id).role with
  | none =>
    cases more : (ctx.needsAt id).role with
    | none => exact Or.inl rfl
    | some role => exact Or.inr ⟨rfl, rfl⟩
  | some role =>
    obtain ⟨rfl, i, intent, principal⟩ := ((ctx.without k).asked_needsAt id).role role fewer
    have given : (ctx.needsAt id).role.isSome = true :=
      (ctx.role_needsAt_isSome_iff id).mpr ⟨i, List.mem_of_mem_eraseIdx intent, principal⟩
    obtain ⟨role, more⟩ := Option.isSome_iff_exists.mp given
    obtain ⟨rfl, _⟩ := (ctx.asked_needsAt id).role role more
    exact Or.inl more.symm

/-- Setting a property leaves the others as they were. -/
theorem Resource.get?_set_of_ne {r : Resource} {key other : String} {value : Value}
    (different : key ≠ other) :
    Entries.get? (r.set key value).properties other = Entries.get? r.properties other := by
  rw [set, Entries.get?_insert, if_neg different]

/-- The environment of a function is that of its needs, and there is none if that one is empty. -/
theorem environment_functionOf (n : Node) (config : Config) {needs : Needs} (role : String)
    (unprotected : needs.securityGroups = []) :
    Entries.get? (functionOf n config needs role).properties "environment" =
      if needs.environment.isEmpty then none
      else some (.map [("variables", .map needs.environment)]) := by
  have unchanged : ∀ r, setSecurityGroups r [] = r := fun _ => rfl
  have code : ∀ r, Entries.get? (setCode r config).properties "environment" =
      Entries.get? r.properties "environment" := by
    intro r
    unfold setCode
    split
    · exact (Resource.get?_set_of_ne (by decide)).trans (Resource.get?_set_of_ne (by decide))
    · exact Resource.get?_set_of_ne (by decide)
    · rfl
  simp only [functionOf, Resource.foldl_afterOnce, Resource.properties_after, unprotected, unchanged]
  rw [Resource.get?_set_of_ne (by decide), setEnvironment]
  split
  · rw [code]
    rfl
  · rw [Resource.set, Entries.get?_insert, if_pos rfl]

/-- Functions of one node are the same exactly if their environments are, given that intents ask for
no security groups. -/
theorem functionOf_eq_iff {n : Node} {config : Config} {needs needs' : Needs} {role : String}
    (unprotected : needs.securityGroups = []) (unprotected' : needs'.securityGroups = []) :
    functionOf n config needs role = functionOf n config needs' role ↔
      needs.environment = needs'.environment := by
  constructor
  · intro same
    have found := environment_functionOf n config role unprotected
    rw [same, environment_functionOf n config role unprotected'] at found
    split at found
    · rename_i empty
      split at found
      · rename_i empty'
        rw [List.isEmpty_iff.mp empty, List.isEmpty_iff.mp empty']
      · cases found
    · split at found
      · cases found
      · simpa using found.symm
  · intro same
    simp only [functionOf, same, unprotected, unprotected']

section Nodes

variable (mode : LookupMode) {ctx : Context} {k : Nat} {n : Node}

/-- A function comes with its execution role, unless the needs of its node bring a role with them. -/
theorem made_function (host : ctx.Hosts n .computeFunction) :
    made ((Adapter.standard mode).nodeOutcome ctx n) =
      (if (ctx.needsAt n.id).role.isSome then [] else execRole n.id n.id) ++
        [functionOf n ctx.config (ctx.needsAt n.id) (execRoleName n.id)] := by
  rw [Adapter.nodeOutcome_standard mode ctx host.present, host.platform]
  simp only [Platform.lower, lowerFunction_needsAt]
  rfl

/-- Without the intent an unaffected function comes with the same roles, apart from some of which others
of the same source and name are gathered from intents anyway. -/
theorem Context.Unaffected.exists_roles (unaffected : ctx.Unaffected k n)
    (host : ctx.Hosts n .computeFunction) :
    ∃ extra roles,
      made ((Adapter.standard mode).nodeOutcome (ctx.without k) n) = extra ++ (roles ++
        [functionOf n ctx.config ((ctx.without k).needsAt n.id) (execRoleName n.id)]) ∧
      made ((Adapter.standard mode).nodeOutcome ctx n) =
        roles ++ [functionOf n ctx.config (ctx.needsAt n.id) (execRoleName n.id)] ∧
      ∀ s ∈ extra, ∃ r ∈ ((Adapter.standard mode).lowerIntents ctx .start).resources,
        r.source = s.source ∧ r.name = s.name := by
  have host' : (ctx.without k).Hosts n .computeFunction := ⟨host.present, host.platform⟩
  rw [made_function mode host, made_function mode host']
  rcases ctx.role_without k n.id with same | ⟨none, given⟩
  · rw [same]
    exact ⟨[], _, rfl, rfl, by simp⟩
  · -- the function gets a role on its own only without the intent, so this role is recorded
    have records : ctx.RecordsRole n := by
      rcases unaffected.role with same | records
      · rw [← same, none] at given
        cases given
      · exact records
    rw [none, if_pos given]
    exact ⟨execRole n.id n.id, [], rfl, rfl, records.gathered mode⟩

/-- Other nodes become the same without an intent. -/
theorem made_without (present : n ∈ ctx.graph.nodes)
    (other : n.knownPlatform? ≠ some .computeFunction) :
    made ((Adapter.standard mode).nodeOutcome (ctx.without k) n) =
      made ((Adapter.standard mode).nodeOutcome ctx n) := by
  rw [Adapter.nodeOutcome_standard mode ctx present,
    Adapter.nodeOutcome_standard mode (ctx.without k) present]
  cases platform : n.knownPlatform? with
  | none => rfl
  | some p =>
    have different : p ≠ .computeFunction := by
      rintro rfl
      exact other platform
    simp only [Adapter.lower_without_of_ne different n (ctx.needsAt n.id)]

/-- A node of another platform makes no role: its own kind, the versioning of a bucket and the stage
of a gateway are all. -/
theorem ofKinds_lower_of_ne {p : Platform} (other : p ≠ .computeFunction) (needs : Needs) :
    OfKinds (made (p.lower n ctx needs)) [p.kind, .bucketVersioning, .stage] := by
  intro r member
  cases p with
  | computeFunction => exact absurd rfl other
  | queue =>
    obtain rfl := List.mem_singleton.mp member
    exact ⟨_, by decide, .of_platform .queue name_queueOf type_queueOf⟩
  | keyValueTable =>
    simp only [Platform.lower, lowerTable, bind, Except.bind] at member
    split at member
    · cases member
    · split at member
      · cases member
      · obtain rfl := List.mem_singleton.mp member
        exact ⟨_, by decide, .of_platform .keyValueTable name_tableOf type_tableOf⟩
  | objectStore =>
    rcases List.mem_cons.mp member with rfl | second
    · exact ⟨_, by decide, .of_platform .objectStore name_bucketOf type_bucketOf⟩
    · split at second
      · obtain rfl := List.mem_singleton.mp second
        exact ⟨_, by decide, wellNamed_versioningOf⟩
      · cases second
  | httpGateway =>
    rcases List.mem_cons.mp member with rfl | second
    · exact ⟨_, by decide, .of_platform .httpGateway name_apiOf type_apiOf⟩
    · obtain rfl := List.mem_singleton.mp second
      exact ⟨_, by decide, wellNamed_stageOf⟩
  | pubsubTopic =>
    obtain rfl := List.mem_singleton.mp member
    exact ⟨_, by decide, .of_platform .pubsubTopic name_topicOf type_topicOf⟩

/-- No node but a function becomes a resource of the kind of functions or of roles. -/
theorem kind_of_mem_made (present : n ∈ ctx.graph.nodes)
    (other : n.knownPlatform? ≠ some .computeFunction) {r : Resource}
    (member : r ∈ made ((Adapter.standard mode).nodeOutcome ctx n)) :
    ∃ kind, r.WellNamed kind ∧ kind ≠ .function ∧ kind ≠ .role := by
  rw [Adapter.nodeOutcome_standard mode ctx present] at member
  cases platform : n.knownPlatform? with
  | none =>
    rw [platform] at member
    cases member
  | some p =>
    rw [platform] at member
    have different : p ≠ .computeFunction := by
      rintro rfl
      exact other platform
    obtain ⟨kind, listed, named⟩ := ofKinds_lower_of_ne different _ r member
    refine ⟨kind, named, ?_⟩
    simp only [List.mem_cons, List.not_mem_nil, or_false] at listed
    rcases listed with rfl | rfl | rfl
    · cases p with
      | computeFunction => exact absurd rfl different
      | _ => exact ⟨by decide, by decide⟩
    · exact ⟨by decide, by decide⟩
    · exact ⟨by decide, by decide⟩

/-- Of what nodes become, the first resource with the name of a function is the function of the first
node of its short name. -/
theorem find?_nodes_function (ctx : Context) (short : String) :
    (ctx.graph.nodes.flatMap fun n => made ((Adapter.standard mode).nodeOutcome ctx n)).find?
        (fun r => r.name == Platform.computeFunction.resourceName short) =
      (ctx.firstHost? .computeFunction short).map fun n =>
        functionOf n ctx.config (ctx.needsAt n.id) (execRoleName n.id) := by
  have tells : Entries.get? endings (ending (Platform.computeFunction.resourceName short)) =
      some .function := Platform.computeFunction.get?_endings short
  refine (congrFun Option.map_id _).symm.trans (Pass.map_find?_flatMap ?_)
  intro n present
  rw [Option.map_id, id_eq]
  by_cases function : n.knownPlatform? = some .computeFunction
  · rw [made_function mode ⟨present, function⟩, List.find?_append]
    have roles : OfKinds (if (ctx.needsAt n.id).role.isSome then [] else execRole n.id n.id)
        [.role, .rolePolicyAttachment] := by
      intro s member
      split at member
      · cases member
      · simp only [execRole, List.mem_cons, List.not_mem_nil, or_false] at member
        rcases member with rfl | rfl
        · exact ⟨_, by decide, wellNamed_executionRole⟩
        · exact ⟨_, by decide, wellNamed_basicAttachment⟩
    rw [roles.find?_eq_none tells (by decide), Option.none_or]
    by_cases same : n.shortName = short
    · rw [List.find?_cons_of_pos (by simp [same]), if_pos (by simp [function, same])]
    · rw [List.find?_cons_of_neg (by simpa using same), if_neg (by simp [same])]
      rfl
  · rw [if_neg (by simp [function]), List.find?_eq_none]
    intro s member
    obtain ⟨kind, named, notFunction, _⟩ := kind_of_mem_made mode present function member
    rw [beq_iff_eq]
    exact named.ne_of_tells tells notFunction

end Nodes

/-! ## Unaffected functions give the same result -/

section Result

variable {mode : LookupMode} {ctx : Context} {k : Nat} {d : Diagnostic}

/-- A function is the same without an intent exactly if its environment is. -/
theorem functionOf_without_iff (n : Node) {role : String} :
    functionOf n (ctx.without k).config ((ctx.without k).needsAt n.id) role =
      functionOf n ctx.config (ctx.needsAt n.id) role ↔
      ((ctx.without k).needsAt n.id).environment = (ctx.needsAt n.id).environment :=
  functionOf_eq_iff ((ctx.without k).asked_needsAt n.id).securityGroups
    (ctx.asked_needsAt n.id).securityGroups

/-- Two ways to make lists that agree on the first hit in each list agree on the first hit of all. -/
theorem find?_flatMap_congr {α β : Type} {f g : α → List β} {test : β → Bool} {xs : List α}
    (each : ∀ x ∈ xs, (f x).find? test = (g x).find? test) :
    (xs.flatMap f).find? test = (xs.flatMap g).find? test := by
  induction xs with
  | nil => rfl
  | cons x rest ih =>
    rw [List.flatMap_cons, List.flatMap_cons, List.find?_append, List.find?_append,
      each x List.mem_cons_self, ih fun y later => each y (List.mem_cons_of_mem _ later)]

/-- A part in the middle may change as long as its first hit does not, or comes after another. -/
theorem find?_append_congr {β : Type} {first second second' last : List β} {test : β → Bool}
    (same : first.find? test = none → second'.find? test = second.find? test) :
    (first ++ (second' ++ last)).find? test = (first ++ (second ++ last)).find? test := by
  simp only [List.find?_append]
  cases early : first.find? test with
  | some x => rfl
  | none => rw [same early]

/-- If no function is affected, nodes have the same first resource of a name that intents leave
free. -/
theorem find?_nodes_without
    (all : ∀ n, ctx.Hosts n .computeFunction → ctx.Unaffected k n) {name : String}
    (free : ((Adapter.standard mode).lowerIntents ctx .start).resources.find?
      (fun r => r.name == name) = none) :
    (ctx.graph.nodes.flatMap fun n =>
        made ((Adapter.standard mode).nodeOutcome (ctx.without k) n)).find?
          (fun r => r.name == name) =
      (ctx.graph.nodes.flatMap fun n => made ((Adapter.standard mode).nodeOutcome ctx n)).find?
        fun r => r.name == name := by
  by_cases function : ∃ short n, name = Platform.computeFunction.resourceName short ∧
      ctx.firstHost? .computeFunction short = some n
  · obtain ⟨short, n, rfl, first⟩ := function
    obtain ⟨host, same⟩ := Context.host_of_firstHost? first
    have without : (ctx.without k).firstHost? .computeFunction short = some n := first
    have found := find?_nodes_function mode (ctx.without k) short
    rw [without] at found
    rw [find?_nodes_function mode ctx short, first, Option.map_some]
    refine found.trans ?_
    rw [Option.map_some, Option.some.injEq, functionOf_without_iff]
    exact (all n host).environment (by rw [same, first])
  · apply find?_flatMap_congr
    intro n present
    by_cases host : n.knownPlatform? = some .computeFunction
    · have host : ctx.Hosts n .computeFunction := ⟨present, host⟩
      have other : Platform.computeFunction.resourceName n.shortName ≠ name := by
        intro same
        obtain ⟨m, first⟩ := host.exists_firstHost?
        exact function ⟨n.shortName, m, same.symm, first⟩
      obtain ⟨extra, roles, without, whole, taken⟩ := (all n host).exists_roles mode host
      -- what comes in addition has names that intents do not leave free
      have unnamed : extra.find? (fun r => r.name == name) = none := by
        rw [List.find?_eq_none]
        intro s member
        obtain ⟨r, gathered, _, same⟩ := taken s member
        have closed := List.find?_eq_none.mp free r gathered
        rwa [same] at closed
      rw [without, whole, List.find?_append, unnamed, Option.none_or, List.find?_append,
        List.find?_append, List.find?_cons_of_neg (by simpa using other),
        List.find?_cons_of_neg (by simpa using other)]
    · rw [made_without mode present host]

/-- Names of one node are added alike, if its function is not affected and the names that intents
left are there. -/
theorem names_node_without {n : Node} (present : n ∈ ctx.graph.nodes)
    (unaffected : ctx.Hosts n .computeFunction → ctx.Unaffected k n) {source : String}
    {names : List String} (old : ∀ x ∈ Pass.namesFor
      ((Adapter.standard mode).lowerIntents ctx .start).resources source, x ∈ names) :
    (((made ((Adapter.standard mode).nodeOutcome (ctx.without k) n)).filter
        fun r => r.source == source).map Resource.name).foldl Pass.addName names =
      (((made ((Adapter.standard mode).nodeOutcome ctx n)).filter
        fun r => r.source == source).map Resource.name).foldl Pass.addName names := by
  by_cases host : n.knownPlatform? = some .computeFunction
  · have host : ctx.Hosts n .computeFunction := ⟨present, host⟩
    obtain ⟨extra, roles, without, whole, taken⟩ := (unaffected host).exists_roles mode host
    -- the function itself has one name and source, whatever its environment
    have function : (([functionOf n ctx.config ((ctx.without k).needsAt n.id)
          (execRoleName n.id)]).filter fun r => r.source == source).map Resource.name =
        (([functionOf n ctx.config (ctx.needsAt n.id) (execRoleName n.id)]).filter
          fun r => r.source == source).map Resource.name := by
      by_cases own : n.id = source <;> simp [own]
    have known : ∀ x ∈ (extra.filter fun r => r.source == source).map Resource.name, x ∈ names := by
      intro x member
      obtain ⟨s, inside, rfl⟩ := List.mem_map.mp member
      obtain ⟨inside, own⟩ := List.mem_filter.mp inside
      obtain ⟨r, gathered, id, same⟩ := taken s inside
      exact old _ (Pass.mem_namesFor.mpr ⟨r, gathered, id.trans (beq_iff_eq.mp own), same⟩)
    rw [without, whole, List.filter_append, List.map_append, List.foldl_append,
      Pass.foldl_addName_of_subset known]
    simp only [List.filter_append, List.map_append, function]
  · rw [made_without mode present host]

/-- If all functions are unaffected, the nodes add the same names without the intent. -/
theorem names_nodes_without {source : String} {ns : List Node} (present : ∀ n ∈ ns, n ∈ ctx.graph.nodes)
    (all : ∀ n, ctx.Hosts n .computeFunction → ctx.Unaffected k n)
    {names : List String} (old : ∀ x ∈ Pass.namesFor
      ((Adapter.standard mode).lowerIntents ctx .start).resources source, x ∈ names) :
    (((ns.flatMap fun n => made ((Adapter.standard mode).nodeOutcome (ctx.without k) n)).filter
        fun r => r.source == source).map Resource.name).foldl Pass.addName names =
      (((ns.flatMap fun n => made ((Adapter.standard mode).nodeOutcome ctx n)).filter
        fun r => r.source == source).map Resource.name).foldl Pass.addName names := by
  induction ns generalizing names with
  | nil => rfl
  | cons n rest ih =>
    rw [List.flatMap_cons, List.flatMap_cons, List.filter_append, List.filter_append,
      List.map_append, List.map_append, List.foldl_append, List.foldl_append,
      names_node_without (present n List.mem_cons_self) (all n) old]
    apply ih fun m later => present m (List.mem_cons_of_mem _ later)
    intro x member
    exact Pass.mem_foldl_addName.mpr (Or.inl (old x member))

/-- If no function is affected, the result without a failing intent has the same resources and the
same map. -/
theorem isolated_of_unaffected (fails : (Adapter.standard mode).FailsAt ctx k d)
    (all : ∀ n, ctx.Hosts n .computeFunction → ctx.Unaffected k n) :
    ((Adapter.standard mode).lower (ctx.without k)).resources =
        ((Adapter.standard mode).lower ctx).resources ∧
      ((Adapter.standard mode).lower (ctx.without k)).resourceMap =
        ((Adapter.standard mode).lower ctx).resourceMap := by
  have intents := Adapter.resources_lowerIntents_without fails
  constructor
  · apply Pass.finish_resources_eq_iff.mpr
    intro name
    rw [Adapter.resources_gather, Adapter.resources_gather, intents]
    exact find?_append_congr (find?_nodes_without all)
  · apply (Pass.Indexed.resourceMap_eq_iff (Adapter.indexed_gather _ _)
      (Adapter.indexed_gather _ _)).mpr
    intro source
    rw [Adapter.resources_gather, Adapter.resources_gather, intents]
    simp only [Pass.namesFor_append, List.filter_append, List.map_append, List.foldl_append]
    congr 1
    congr 1
    exact names_nodes_without (fun _ present => present) all fun _ member => member

/-! ## The same result leaves functions unaffected -/

/-- Intents make resources of the kinds of intents only. -/
theorem ofKinds_lowerIntents (mode : LookupMode) (ctx : Context) :
    OfKinds ((Adapter.standard mode).lowerIntents ctx .start).resources ResourceKind.ofIntents := by
  intro r gathered
  rcases Pass.mem_foldl (Adapter.step_lowerIntent _ ctx) ctx.intents .start gathered with
    none | ⟨x, _, member⟩
  · cases none
  · exact ofKinds_intent mode ctx x r member

/-- The first resource with the name of a function is the function of the first node of its short
name. -/
theorem find?_gather_function (mode : LookupMode) (ctx : Context) {n : Node} {short : String}
    (first : ctx.firstHost? .computeFunction short = some n) :
    ((Adapter.standard mode).gather ctx).resources.find?
        (fun r => r.name == Platform.computeFunction.resourceName short) =
      some (functionOf n ctx.config (ctx.needsAt n.id) (execRoleName n.id)) := by
  have known := Platform.computeFunction.get?_endings short
  have none := (ofKinds_lowerIntents mode ctx).find?_eq_none known (by decide)
  rw [Adapter.resources_gather, List.find?_append, none, Option.none_or, List.find?_append,
    find?_nodes_function, first]
  rfl

/-- If a node is given a role, no node becomes anything of the role's name under its id. -/
theorem name_ne_execRoleName_of_made {n m : Node} (given : (ctx.needsAt n.id).role.isSome = true)
    (present : m ∈ ctx.graph.nodes) {r : Resource}
    (member : r ∈ made ((Adapter.standard mode).nodeOutcome ctx m)) (source : r.source = n.id) :
    r.name ≠ execRoleName n.id := by
  have tells := get?_endings_execRoleName n.id
  by_cases host : m.knownPlatform? = some .computeFunction
  · rw [made_function mode ⟨present, host⟩, List.mem_append] at member
    rcases member with role | function
    · split at role
      · cases role
      · rename_i without
        have own : r.source = m.id := by
          simp only [execRole, List.mem_cons, List.not_mem_nil, or_false] at role
          rcases role with rfl | rfl <;> rfl
        rw [own.symm.trans source] at without
        exact absurd given without
    · obtain rfl := List.mem_singleton.mp function
      have named : (functionOf m ctx.config (ctx.needsAt m.id) (execRoleName m.id)).WellNamed
          .function := .of_platform .computeFunction name_functionOf type_functionOf
      exact named.ne_of_tells tells (by decide)
  · obtain ⟨kind, named, _, notRole⟩ := kind_of_mem_made mode present host member
    exact named.ne_of_tells tells notRole

/-- If a node is given a role, nothing of the role's name is gathered under its id, unless it is
recorded for an intent. -/
theorem recordsRole_of_gathered {n : Node} (given : (ctx.needsAt n.id).role.isSome = true)
    {r : Resource} (gathered : r ∈ ((Adapter.standard mode).gather ctx).resources)
    (source : r.source = n.id) (name : r.name = execRoleName n.id) : ctx.RecordsRole n := by
  have tells := get?_endings_execRoleName n.id
  rw [Adapter.resources_gather, List.mem_append, List.mem_append, List.mem_append] at gathered
  rcases gathered with intent | node | mapping | trigger
  · exact Context.recordsRole_of_mem intent source name
  · obtain ⟨m, present, member⟩ := List.mem_flatMap.mp node
    exact absurd name (name_ne_execRoleName_of_made given present member source)
  · obtain ⟨kind, listed, named⟩ := ofKinds_eventMappings ctx r mapping
    obtain rfl := List.mem_singleton.mp listed
    exact absurd name (named.ne_of_tells tells (by decide))
  · obtain ⟨kind, listed, named⟩ := ofKinds_httpIntegrations ctx r trigger
    have notRole : kind ≠ .role := by
      rintro rfl
      revert listed
      decide
    exact absurd name (named.ne_of_tells tells notRole)

/-- If resources and map are the same without an intent, every function is unaffected by it. -/
theorem unaffected_of_isolated
    (resources : ((Adapter.standard mode).lower (ctx.without k)).resources =
      ((Adapter.standard mode).lower ctx).resources)
    (resourceMap : ((Adapter.standard mode).lower (ctx.without k)).resourceMap =
      ((Adapter.standard mode).lower ctx).resourceMap)
    {n : Node} (host : ctx.Hosts n .computeFunction) : ctx.Unaffected k n where
  role := by
    rcases ctx.role_without k n.id with same | ⟨none, given⟩
    · exact Or.inl same
    · right
      have host' : (ctx.without k).Hosts n .computeFunction := ⟨host.present, host.platform⟩
      have gathered : executionRole n.id n.id ∈
          ((Adapter.standard mode).gather (ctx.without k)).resources := by
        rw [Adapter.resources_gather]
        apply List.mem_append_right
        apply List.mem_append_left
        refine List.mem_flatMap.mpr ⟨n, host.present, ?_⟩
        rw [made_function mode host', none]
        exact List.mem_cons_self
      have listed : execRoleName n.id ∈
          Pass.namesFor ((Adapter.standard mode).gather (ctx.without k)).resources n.id :=
        Pass.mem_namesFor.mpr ⟨_, gathered, rfl, rfl⟩
      rw [(Pass.Indexed.resourceMap_eq_iff (Adapter.indexed_gather _ _)
        (Adapter.indexed_gather _ _)).mp resourceMap n.id] at listed
      obtain ⟨r, there, source, name⟩ := Pass.mem_namesFor.mp listed
      exact recordsRole_of_gathered given there source name
  environment := by
    intro first
    have same := Pass.finish_resources_eq_iff.mp resources
      (Platform.computeFunction.resourceName n.shortName)
    have without : (ctx.without k).firstHost? .computeFunction n.shortName = some n := first
    rw [find?_gather_function mode ctx first, find?_gather_function mode _ without,
      Option.some.injEq] at same
    exact (functionOf_without_iff n).mp same

/-- **What a failing intent changes.** An intent that fails adds its error to the diagnostics and
changes no other one; and the resources and the map are those of the document without the intent
exactly if every function is made without it as it is made with it. -/
theorem isolated_iff (fails : (Adapter.standard mode).FailsAt ctx k d) :
    (∃ later,
      ((Adapter.standard mode).lower ctx).diagnostics =
        ((Adapter.standard mode).upTo ctx k).diagnostics ++ d :: later ∧
      ((Adapter.standard mode).lower (ctx.without k)).diagnostics =
        ((Adapter.standard mode).upTo ctx k).diagnostics ++ later) ∧
    ((((Adapter.standard mode).lower (ctx.without k)).resources =
          ((Adapter.standard mode).lower ctx).resources ∧
        ((Adapter.standard mode).lower (ctx.without k)).resourceMap =
          ((Adapter.standard mode).lower ctx).resourceMap) ↔
      ∀ n, ctx.Hosts n .computeFunction → ctx.Unaffected k n) := by
  refine ⟨Adapter.diagnostics_without fails, ?_⟩
  constructor
  · rintro ⟨resources, resourceMap⟩ n host
    exact unaffected_of_isolated resources resourceMap host
  · exact isolated_of_unaffected fails

/-- A document with a function whose only access intent has a pattern as its scope, but no pattern. -/
def patternless : Document :=
  ⟨⟨"us-east-1", "orders", none, none⟩,
    [.access ⟨"e1", "component:api", "platform:jobs", [.read], some (.pattern none)⟩],
    ⟨[⟨"component:api", [("platform", .string "compute-function")]⟩,
      ⟨"platform:jobs", [("platform", .string "queue")]⟩], []⟩⟩

set_option maxRecDepth 10000 in
/-- That intent fails, and still the function has no execution role because of it, while it gets one
without the intent. -/
theorem failing_access_takes_role :
    ∃ d, (Adapter.standard .registry).FailsAt patternless 0 d ∧
      (∀ r ∈ ((Adapter.standard .registry).lower patternless).resources,
        r.name ≠ "api-exec-role") ∧
      ¬ (((Adapter.standard .registry).lower (Context.without patternless 0)).resources =
          ((Adapter.standard .registry).lower patternless).resources ∧
        ((Adapter.standard .registry).lower (Context.without patternless 0)).resourceMap =
          ((Adapter.standard .registry).lower patternless).resourceMap) := by
  have fails : (Adapter.standard .registry).FailsAt patternless 0
      (.failed "e1" "identity-access" (LowerError.emptyPattern "e1").message) :=
    ⟨⟨_, rfl, by decide⟩, rfl⟩
  have gathered : ∀ r ∈ ((Adapter.standard .registry).gather patternless).resources,
      r.name ≠ "api-exec-role" := by decide
  refine ⟨_, fails, fun r kept => gathered r (Pass.mem_of_mem_finish kept), ?_⟩
  rw [(isolated_iff fails).2]
  intro all
  have host : Context.Hosts patternless ⟨"component:api", [("platform", .string "compute-function")]⟩
      .computeFunction := ⟨by decide, by decide⟩
  rcases (all _ host).role with same | ⟨i, resources, intent, lowered, _⟩
  · revert same
    decide
  · obtain rfl := Intent.access.inj (List.mem_singleton.mp intent)
    cases lowered

end Result

end CloudPlan
