import CloudPlan.Proofs.ResourceMap

/-!
# What a result is put together from

Whatever lowerers an adapter has, a run of it records contributions: what it accepts of intents,
what nodes become, and what edges become. `Adapter.contributions` lists them without running the
pass, and `Pass.Recorded` says what a pass knows once it has recorded a list of them. Every step of
lowering appends its contribution or changes nothing that counts, so a whole run has recorded
exactly the list (`Adapter.recorded_gather`), and the result can be read off it
(`LoweringResult.MadeFrom`).
-/

set_option autoImplicit false

namespace CloudPlan

/-! ## Lists without repeats -/

/-- Adding names to distinct ones leaves no name twice. -/
theorem nodup_foldl_addName {names : List String} (distinct : names.Nodup) (more : List String) :
    (more.foldl Pass.addName names).Nodup := by
  induction more generalizing names with
  | nil => exact distinct
  | cons x rest ih =>
    apply ih
    unfold Pass.addName
    split
    · exact distinct
    · rename_i fresh
      have unseen : x ∉ names := by simpa using fresh
      exact List.nodup_append.mpr
        ⟨distinct, by simp, by simpa using fun y there => ne_of_mem_of_not_mem there unseen⟩

/-- Adding names one by one keeps the first mention of each. -/
theorem foldl_addName_eraseDups (names more : List String) :
    more.foldl Pass.addName names.eraseDups = (names ++ more).eraseDups := by
  induction more generalizing names with
  | nil => simp
  | cons x rest ih =>
    have added : Pass.addName names.eraseDups x = (names ++ [x]).eraseDups := by
      rw [Pass.addName, List.eraseDups_append]
      by_cases present : x ∈ names
      · simp [present, List.removeAll]
      · have alone : [x].eraseDups = [x] := by simp [List.eraseDups_cons]
        simp [present, List.removeAll, alone]
    rw [List.foldl_cons, added, ih, List.append_assoc, List.singleton_append]

/-- Without its repeats a list has each name once. -/
theorem nodup_eraseDups (names : List String) : names.eraseDups.Nodup := by
  have added := foldl_addName_eraseDups [] names
  rw [List.nil_append] at added
  rw [← added]
  exact nodup_foldl_addName List.nodup_nil names

/-! ## Contributions -/

/-- Resources that are recorded together for one source. -/
structure Contribution where
  source : String
  resources : List Resource
deriving DecidableEq, Repr

namespace Contribution

/-- The names recorded for a source, in order. -/
def namesOf (parts : List Contribution) (source : String) : List String :=
  ((parts.filter fun part => part.source == source).flatMap resources).map Resource.name

/-- The names of more contributions come after those of the first ones. -/
theorem namesOf_append (parts more : List Contribution) (source : String) :
    namesOf (parts ++ more) source = namesOf parts source ++ namesOf more source := by
  simp [namesOf]

/-- A source without contributions has no names. -/
theorem namesOf_of_not_mem {parts : List Contribution} {source : String}
    (fresh : source ∉ parts.map Contribution.source) : namesOf parts source = [] := by
  have none : parts.filter (fun part => part.source == source) = [] := by
    rw [List.filter_eq_nil_iff]
    intro part member same
    exact fresh (List.mem_map.mpr ⟨part, member, by simpa using same⟩)
  rw [namesOf, none]
  rfl

/-- The names of a source are those of the resources that contributions from it hold. -/
theorem mem_namesOf {parts : List Contribution} {source name : String} :
    name ∈ namesOf parts source ↔
      ∃ part ∈ parts, part.source = source ∧ ∃ r ∈ part.resources, r.name = name := by
  simp only [namesOf, List.mem_map, List.mem_flatMap, List.mem_filter, beq_iff_eq]
  constructor
  · rintro ⟨r, ⟨part, ⟨there, own⟩, member⟩, same⟩
    exact ⟨part, there, own, r, member, same⟩
  · rintro ⟨part, there, own, r, member, same⟩
    exact ⟨r, ⟨part, ⟨there, own⟩, member⟩, same⟩

end Contribution

/-- The parameters that an intent claims with its resources. -/
def Intent.claims (x : Intent) (resources : List Resource) : List String :=
  if x.kind = .config then resources.map Resource.name else []

namespace Adapter

/-- What the lowerer for an intent makes of it, if there is one and it does not fail. Network
intents are skipped. -/
def intentYield? (a : Adapter) (ctx : Context) (x : Intent) : Option (List Resource) :=
  if x.kind = .network then none
  else (a.intentLowerer? x.kind).bind fun l => (l.lower x ctx).toOption

/-- What the accepted ones among some intents contribute. An intent is rejected for a parameter that
has been claimed before it. -/
def accepted (a : Adapter) (ctx : Context) (claimed : List String) :
    List Intent → List Contribution
  | [] => []
  | x :: rest =>
    match a.intentYield? ctx x with
    | none => a.accepted ctx claimed rest
    | some resources =>
      if ∃ name ∈ x.claims resources, name ∈ claimed then a.accepted ctx claimed rest
      else ⟨x.edge, resources⟩ :: a.accepted ctx (claimed ++ x.claims resources) rest

/-- What the lowerer for a node makes of it, if there is one and it does not fail. -/
def nodeYield? (a : Adapter) (ctx : Context) (n : Node) : Option (List Resource) :=
  (n.platform?.bind a.nodeLowerer?).bind fun l =>
    (l.lower n ctx ((Entries.get? (needsOf ctx) n.id).getD .none)).toOption

/-- What a node contributes. -/
def nodePart? (a : Adapter) (ctx : Context) (n : Node) : Option Contribution :=
  (a.nodeYield? ctx n).map fun resources => ⟨n.id, resources⟩

/-- Everything that a run records: accepted intents, nodes, event mappings and integrations. -/
def contributions (a : Adapter) (ctx : Context) : List Contribution :=
  a.accepted ctx [] ctx.intents ++ ctx.graph.nodes.filterMap (a.nodePart? ctx) ++
    (eventMappings ctx ++ httpIntegrations ctx).map fun r => ⟨r.source, [r]⟩

end Adapter

/-- A result is made from contributions. Of every name the first resource is kept, in order of
names; the map lists the names of each source once each, in order of first mention, and no name
besides those of kept resources; and success is the absence of errors. -/
structure LoweringResult.MadeFrom (result : LoweringResult) (parts : List Contribution) : Prop where
  ascending : result.resources.Pairwise fun r s => r.name < s.name
  first : ∀ r, r ∈ result.resources ↔
    (parts.flatMap Contribution.resources).find? (fun s => s.name == r.name) = some r
  sources : (Entries.keys result.resourceMap).Pairwise (· < ·)
  listed : ∀ source, Entries.get? result.resourceMap source =
    if source ∈ parts.map Contribution.source
    then some (Contribution.namesOf parts source).eraseDups else none
  distinct : ∀ names ∈ Entries.values result.resourceMap, names.Nodup
  covered : ∀ name, (∃ names ∈ Entries.values result.resourceMap, name ∈ names) ↔
    name ∈ result.resources.map Resource.name
  success : result.success = true ↔ ∀ d ∈ result.diagnostics, d.severity ≠ .error

namespace Pass

/-- A pass has recorded a list of contributions, one after the other. -/
structure Recorded (pass : Pass) (parts : List Contribution) : Prop where
  resources : pass.resources = parts.flatMap Contribution.resources
  sources : (Entries.keys pass.resourceMap).Pairwise (· < ·)
  listed : ∀ source, Entries.get? pass.resourceMap source =
    if source ∈ parts.map Contribution.source
    then some (Contribution.namesOf parts source).eraseDups else none

namespace Recorded

variable {pass : Pass} {parts : List Contribution}

/-- Nothing has been contributed at the start. -/
theorem start : Pass.start.Recorded [] where
  resources := rfl
  sources := List.Pairwise.nil
  listed _ := rfl

/-- For every source the map has the names of its contributions, each once. -/
theorem getD_listed (recorded : pass.Recorded parts) (source : String) :
    (Entries.get? pass.resourceMap source).getD [] =
      (Contribution.namesOf parts source).eraseDups := by
  rw [recorded.listed]
  by_cases known : source ∈ parts.map Contribution.source
  · rw [if_pos known, Option.getD_some]
  · rw [if_neg known, Contribution.namesOf_of_not_mem known]
    simp

/-- Recording appends a contribution. -/
theorem record (recorded : pass.Recorded parts) (source : String) (resources : List Resource) :
    (pass.record source resources).Recorded (parts ++ [⟨source, resources⟩]) where
  resources := by
    have joined : (pass.record source resources).resources = pass.resources ++ resources := rfl
    rw [joined, recorded.resources, List.flatMap_append]
    simp
  sources := Entries.ascending_insertSorted _ _ recorded.sources
  listed other := by
    show Entries.get? (Entries.insertSorted _ _ _) other = _
    rw [Entries.get?_insertSorted, recorded.getD_listed, foldl_addName_eraseDups,
      recorded.listed other, Contribution.namesOf_append]
    by_cases same : source = other
    · subst same
      have own :
          Contribution.namesOf [⟨source, resources⟩] source = resources.map Resource.name := by
        simp [Contribution.namesOf]
      simp [own]
    · have none : Contribution.namesOf [⟨source, resources⟩] other = [] := by
        simp [Contribution.namesOf, same]
      simp [none, same, Ne.symm same]

/-- Neither diagnostics nor claims change what has been recorded. -/
theorem congr (recorded : pass.Recorded parts) {next : Pass}
    (resources : next.resources = pass.resources)
    (resourceMap : next.resourceMap = pass.resourceMap) : next.Recorded parts where
  resources := by rw [resources, recorded.resources]
  sources := by
    rw [resourceMap]
    exact recorded.sources
  listed := by
    rw [resourceMap]
    exact recorded.listed

/-- Resources that are recorded one by one are as many contributions, each from its own source. -/
theorem recordEach (recorded : pass.Recorded parts) (rs : List Resource) :
    (Adapter.recordEach pass rs).Recorded (parts ++ rs.map fun r => ⟨r.source, [r]⟩) := by
  induction rs generalizing pass parts with
  | nil => simpa [Adapter.recordEach] using recorded
  | cons r rest ih =>
    have later := ih (recorded.record r.source [r])
    rw [List.append_assoc, List.singleton_append] at later
    exact later

/-- The lists in the map are those of the sources of contributions. -/
theorem mem_values_iff (recorded : pass.Recorded parts) {names : List String} :
    names ∈ Entries.values pass.resourceMap ↔
      ∃ part ∈ parts, names = (Contribution.namesOf parts part.source).eraseDups := by
  constructor
  · intro value
    obtain ⟨⟨source, _⟩, entry, rfl⟩ := List.mem_map.mp value
    have found := (Entries.mem_iff_get? recorded.sources).mp entry
    rw [recorded.listed] at found
    split at found
    · rename_i known
      cases found
      obtain ⟨part, there, rfl⟩ := List.mem_map.mp known
      exact ⟨part, there, rfl⟩
    · cases found
  · rintro ⟨part, there, rfl⟩
    have found := recorded.listed part.source
    rw [if_pos (List.mem_map_of_mem there)] at found
    exact List.mem_map.mpr ⟨_, (Entries.mem_iff_get? recorded.sources).mpr found, rfl⟩

/-- The names in the map are those of recorded resources. -/
theorem exists_listed_iff (recorded : pass.Recorded parts) {name : String} :
    (∃ names ∈ Entries.values pass.resourceMap, name ∈ names) ↔
      ∃ r ∈ pass.resources, r.name = name := by
  rw [recorded.resources]
  constructor
  · rintro ⟨names, value, member⟩
    obtain ⟨_, _, rfl⟩ := recorded.mem_values_iff.mp value
    obtain ⟨part, there, _, r, own, same⟩ :=
      Contribution.mem_namesOf.mp (List.mem_eraseDups.mp member)
    exact ⟨r, List.mem_flatMap.mpr ⟨part, there, own⟩, same⟩
  · rintro ⟨r, member, same⟩
    obtain ⟨part, there, own⟩ := List.mem_flatMap.mp member
    refine ⟨_, recorded.mem_values_iff.mpr ⟨part, there, rfl⟩, ?_⟩
    rw [List.mem_eraseDups, Contribution.mem_namesOf]
    exact ⟨part, there, rfl, r, own, same⟩

/-- In the end the result is made from what has been recorded. -/
theorem madeFrom_finish (recorded : pass.Recorded parts) : pass.finish.MadeFrom parts where
  ascending := ascending_finish pass
  first r := by rw [mem_finish, recorded.resources]
  sources := recorded.sources
  listed := recorded.listed
  distinct := by
    intro names value
    obtain ⟨part, _, rfl⟩ := recorded.mem_values_iff.mp value
    exact nodup_eraseDups _
  covered name := by
    refine recorded.exists_listed_iff.trans ⟨?_, ?_⟩
    · rintro ⟨r, gathered, rfl⟩
      obtain ⟨s, kept, same⟩ := exists_mem_finish gathered
      exact List.mem_map.mpr ⟨s, kept, same⟩
    · intro named
      obtain ⟨r, kept, same⟩ := List.mem_map.mp named
      exact ⟨r, mem_of_mem_finish kept, same⟩
  success := success_finish_iff

end Recorded

/-! ## Claims -/

/-- No parameter is taken exactly if none of the names has been claimed. -/
theorem takenParameter?_eq_none_iff {pass : Pass} {resources : List Resource} :
    pass.takenParameter? resources = none ↔
      ∀ name ∈ resources.map Resource.name, name ∉ Entries.keys pass.parameters := by
  simp only [takenParameter?, List.findSome?_eq_none_iff, Option.map_eq_none_iff,
    Entries.get?_eq_none_iff, List.forall_mem_map]

/-- Claiming the names of resources adds exactly those names. -/
theorem mem_keys_foldl_insert {source name : String} (resources : List Resource)
    (ps : Entries String) :
    name ∈ Entries.keys (resources.foldl (fun ps r => Entries.insert ps r.name source) ps) ↔
      name ∈ Entries.keys ps ∨ name ∈ resources.map Resource.name := by
  induction resources generalizing ps with
  | nil => simp
  | cons r rest ih =>
    rw [List.foldl_cons, ih, Entries.mem_keys_insert, List.map_cons, List.mem_cons, or_assoc]

end Pass

namespace Adapter

variable {a : Adapter} {ctx : Context}

/-- What an adapter does with one intent: it passes it by, rejects it for a claimed parameter, or
records what its lowerer yields. -/
inductive Reception (a : Adapter) (ctx : Context) (pass : Pass) (x : Intent) : Pass → Prop where
  | passed (none : a.intentYield? ctx x = none) (ds : List Diagnostic) :
      Reception a ctx pass x { pass with diagnostics := ds }
  | rejected {resources : List Resource} (yields : a.intentYield? ctx x = some resources)
      (taken : ∃ name ∈ x.claims resources, name ∈ Entries.keys pass.parameters) (d : Diagnostic) :
      Reception a ctx pass x (pass.report d)
  | recorded {resources : List Resource} {parameters : Entries String}
      (yields : a.intentYield? ctx x = some resources)
      (free : ¬ ∃ name ∈ x.claims resources, name ∈ Entries.keys pass.parameters)
      (claimed : ∀ name, name ∈ Entries.keys parameters ↔
        name ∈ Entries.keys pass.parameters ∨ name ∈ x.claims resources) :
      Reception a ctx pass x (Pass.record { pass with parameters := parameters } x.edge resources)

/-- One of these is what an adapter does with an intent. -/
theorem reception_lowerIntent (pass : Pass) (x : Intent) :
    Reception a ctx pass x (a.lowerIntent ctx pass x) := by
  unfold lowerIntent
  by_cases network : x.kind = .network
  · rw [if_pos network]
    exact .passed (by rw [intentYield?, if_pos network]) _
  rw [if_neg network]
  cases found : a.intentLowerer? x.kind with
  | none =>
    have none : a.intentYield? ctx x = none := by rw [intentYield?, if_neg network, found]; rfl
    by_cases silent : x.kind = .telemetry
    · simp only [if_pos silent]
      exact .passed none _
    · simp only [if_neg silent]
      exact .passed none _
  | some l =>
    have yield : a.intentYield? ctx x = (l.lower x ctx).toOption := by
      rw [intentYield?, if_neg network, found]
      rfl
    cases outcome : l.lower x ctx with
    | error e =>
      rw [outcome] at yield
      simp only [runIntent, outcome]
      exact .passed yield _
    | ok resources =>
      rw [outcome] at yield
      -- config intents alone claim names, and the first taken one rejects them
      by_cases config : x.kind = .config
      · have claims : x.claims resources = resources.map Resource.name := if_pos config
        simp only [runIntent, outcome, if_pos config, bind, Except.bind, Pass.claim]
        cases taken : pass.takenParameter? resources with
        | some owner =>
          refine .rejected yield ?_ _
          by_contra free
          rw [claims] at free
          rw [Pass.takenParameter?_eq_none_iff.mpr fun name claim known =>
            free ⟨name, claim, known⟩] at taken
          cases taken
        | none =>
          refine .recorded yield ?_ fun name => ?_
          · rintro ⟨name, claim, known⟩
            rw [claims] at claim
            exact Pass.takenParameter?_eq_none_iff.mp taken name claim known
          · rw [claims]
            exact Pass.mem_keys_foldl_insert _ _
      · have claims : x.claims resources = [] := if_neg config
        simp only [runIntent, outcome, if_neg config, bind, Except.bind]
        exact .recorded yield (by simp [claims]) (by simp [claims])

/-- A run over intents records what is accepted of them, given which parameters are claimed. -/
theorem recorded_intents (xs : List Intent) {pass : Pass} {parts : List Contribution}
    {claimed : List String} (recorded : pass.Recorded parts)
    (known : ∀ name, name ∈ Entries.keys pass.parameters ↔ name ∈ claimed) :
    (xs.foldl (a.lowerIntent ctx) pass).Recorded (parts ++ a.accepted ctx claimed xs) := by
  -- on the intents: the claimed names and the contributions grow together
  induction xs generalizing pass parts claimed with
  | nil => simpa [accepted] using recorded
  | cons x rest ih =>
    rw [List.foldl_cons, accepted]
    generalize result : a.lowerIntent ctx pass x = next
    have reception : Reception a ctx pass x next := result ▸ reception_lowerIntent pass x
    cases reception with
    | passed none ds =>
      rw [none]
      exact ih (recorded.congr rfl rfl) known
    | rejected yields taken d =>
      simp only [known] at taken
      rw [yields]
      simp only [if_pos taken]
      exact ih (recorded.congr rfl rfl) known
    | @recorded resources parameters yields free now =>
      simp only [known] at free now
      rw [yields]
      simp only [if_neg free]
      have claims : Pass.Recorded { pass with parameters := parameters } parts :=
        recorded.congr rfl rfl
      have grown : ∀ name,
          name ∈ Entries.keys parameters ↔ name ∈ claimed ++ x.claims resources := by
        simpa using now
      have later := ih (claims.record x.edge resources) grown
      rw [List.append_assoc, List.singleton_append] at later
      exact later

/-- A node that becomes something adds its contribution, and another one changes nothing. -/
theorem recorded_lowerNode (a : Adapter) (ctx : Context) (n : Node) {pass : Pass}
    {parts : List Contribution} (recorded : pass.Recorded parts) :
    (a.lowerNode ctx (needsOf ctx) pass n).Recorded (parts ++ (a.nodePart? ctx n).toList) := by
  unfold lowerNode nodePart? nodeYield?
  cases n.platform? with
  | none => simpa using recorded
  | some platform =>
    simp only [Option.bind_some]
    cases a.nodeLowerer? platform with
    | none =>
      rw [Option.bind_none, Option.map_none, Option.toList_none, List.append_nil]
      exact recorded.congr rfl rfl
    | some l =>
      simp only [Option.bind_some]
      cases l.lower n ctx ((Entries.get? (needsOf ctx) n.id).getD .none) with
      | error e =>
        show Pass.Recorded (pass.report _) (parts ++ [])
        rw [List.append_nil]
        exact recorded.congr rfl rfl
      | ok resources => exact recorded.record n.id resources

/-- Lowering nodes records what each of them yields, in order. -/
theorem recorded_nodes (a : Adapter) (ctx : Context) (ns : List Node) {pass : Pass}
    {parts : List Contribution} (recorded : pass.Recorded parts) :
    (ns.foldl (a.lowerNode ctx (needsOf ctx)) pass).Recorded
      (parts ++ ns.filterMap (a.nodePart? ctx)) := by
  induction ns generalizing pass parts with
  | nil => simpa using recorded
  | cons n rest ih =>
    have later := ih (recorded_lowerNode a ctx n recorded)
    rw [List.append_assoc] at later
    rw [List.foldl_cons, List.filterMap_cons]
    cases part : a.nodePart? ctx n with
    | none => simpa [part] using later
    | some c => simpa [part] using later

/-- A whole run has recorded exactly the contributions. -/
theorem recorded_gather (a : Adapter) (ctx : Context) :
    (a.gather ctx).Recorded (a.contributions ctx) := by
  have intents : (a.lowerIntents ctx .start).Recorded ([] ++ a.accepted ctx [] ctx.intents) :=
    recorded_intents ctx.intents .start (by simp [Pass.start, Entries.keys])
  have nodes := recorded_nodes a ctx ctx.graph.nodes intents
  have edges := (nodes.recordEach (eventMappings ctx)).recordEach (httpIntegrations ctx)
  rw [List.nil_append, List.append_assoc, ← List.map_append] at edges
  exact edges

/-- **The shape of every result.** Whatever the lowerers are, a result is made from the
contributions of accepted intents, of nodes and of edges. With the standard lowerers a kept resource
is listed for its own source. -/
theorem lower_madeFrom_contributions (a : Adapter) (ctx : Context) :
    (a.lower ctx).MadeFrom (a.contributions ctx) ∧
      ∀ mode, ∀ r ∈ ((standard mode).lower ctx).resources,
        ∃ names, Entries.get? ((standard mode).lower ctx).resourceMap r.source = some names ∧
          r.name ∈ names := by
  refine ⟨(recorded_gather a ctx).madeFrom_finish, ?_⟩
  intro mode r kept
  have member : r.name ∈ Pass.namesFor ((standard mode).gather ctx).resources r.source :=
    Pass.mem_namesFor.mpr ⟨r, Pass.mem_of_mem_finish kept, rfl, rfl⟩
  refine ⟨_, ?_, member⟩
  have listed := (indexed_gather mode ctx).names r.source
  rw [if_neg (List.ne_nil_of_mem member)] at listed
  exact listed

/-- An adapter whose config intents make a parameter named after the key alone, and whose disks all
make a resource of one name. -/
def crowded : Adapter where
  mode := .legacy
  intentLowerers := [⟨.config, fun x _ =>
    match x with
    | .config i => .ok [⟨i.key, "parameter", [], i.edge, []⟩]
    | other => .error (.wrongIntent "config" other.kind)⟩]
  registry := .empty
  legacy := [⟨"disk", fun n _ _ =>
    if n.shortName = "full" then .error (.rejected "no space left")
    else .ok [⟨"size", "disk", [], n.id, []⟩, ⟨n.id, "disk", [], n.id, []⟩]⟩]

/-- A document with a repeated key, three disks, one of them full, and a queue. -/
def disks : Document where
  config := ⟨"eu-west-1", "shop", none, none⟩
  intents := [.config ⟨"e1", "disk:a", "size", .literal "8"⟩,
    .config ⟨"e2", "disk:b", "size", .literal "9"⟩, .other ⟨"backup", "e3", []⟩]
  graph :=
    { nodes := [⟨"disk:a", [("platform", .string "disk")]⟩,
        ⟨"disk:full", [("platform", .string "disk")]⟩,
        ⟨"queue:jobs", [("platform", .string "queue")]⟩,
        ⟨"disk:b", [("platform", .string "disk")]⟩]
      edges := [] }

/-- The second parameter is rejected and the full disk left out; the queue is listed for its node by
the standard adapter. -/
theorem madeFrom_disks :
    (crowded.lower disks).MadeFrom
      [⟨"e1", [⟨"size", "parameter", [], "e1", []⟩]⟩,
       ⟨"disk:a", [⟨"size", "disk", [], "disk:a", []⟩, ⟨"disk:a", "disk", [], "disk:a", []⟩]⟩,
       ⟨"disk:b", [⟨"size", "disk", [], "disk:b", []⟩, ⟨"disk:b", "disk", [], "disk:b", []⟩]⟩] ∧
      ∃ names, Entries.get? ((standard .registry).lower disks).resourceMap "queue:jobs" =
        some names ∧ "jobs-queue" ∈ names := by
  obtain ⟨shape, listed⟩ := lower_madeFrom_contributions crowded disks
  constructor
  · exact shape
  · exact listed .registry (queueOf ⟨"queue:jobs", [("platform", .string "queue")]⟩)
      (Pass.mem_finish.mpr (by decide))

end Adapter

end CloudPlan
