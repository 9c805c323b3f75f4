import CloudPlan.Proofs.KeptParameters

/-!
# Where config values are stored

The parameter of a config intent is claimed by its name, in which the key is a slug, but it is stored
under a path, `/service/target/key`, in which target and key stand as they are. Intents of one target
and one key meet in their name, so the later one is reported. But a path can be read in several ways if
a target holds a slash: `a` and `b/c` make the same path as `a/b` and `c` (`append_sep_eq_iff`), and
there the names differ (`ConfigIntent.Shifts.parameterName_ne`). `parameters_share_path_iff` says that
this is the only way in which two parameters come to one path, and that in every other case the later
intent is reported.
-/

set_option autoImplicit false

namespace CloudPlan

/-! ## Joining with a separator -/

/-- Two pairs are joined to the same text if they are the same, or if one of them has some of the
second part of the other one in its first part. -/
theorem append_sep_eq_iff {α : Type} {sep : α} {a b x y : List α} :
    a ++ sep :: x = b ++ sep :: y ↔
      (a = b ∧ x = y) ∨ (∃ m, b = a ++ sep :: m ∧ x = m ++ sep :: y) ∨
        ∃ m, a = b ++ sep :: m ∧ y = m ++ sep :: x := by
  constructor
  · intro same
    rcases List.append_eq_append_iff.mp same with ⟨m, first, second⟩ | ⟨m, first, second⟩
    · cases m with
      | nil =>
        obtain ⟨_, rest⟩ := List.cons.inj second
        exact Or.inl ⟨by simp [first], rest⟩
      | cons c m =>
        obtain ⟨rfl, rest⟩ := List.cons.inj second
        exact Or.inr (Or.inl ⟨m, first, rest⟩)
    · cases m with
      | nil =>
        obtain ⟨_, rest⟩ := List.cons.inj second
        exact Or.inl ⟨by simp [first], rest.symm⟩
      | cons c m =>
        obtain ⟨rfl, rest⟩ := List.cons.inj second
        exact Or.inr (Or.inr ⟨m, first, rest⟩)
  · rintro (⟨rfl, rfl⟩ | ⟨m, rfl, rfl⟩ | ⟨m, rfl, rfl⟩)
    · rfl
    · simp
    · simp

namespace ConfigIntent

/-- The path under which a config intent stores its value. -/
def path (i : ConfigIntent) (service : String) : String :=
  "/" ++ service ++ "/" ++ shortName i.target ++ "/" ++ i.key

/-- The second intent has in its target what stands before some slash in the key of the first one. -/
def Shifts (i j : ConfigIntent) : Prop :=
  ∃ front, shortName j.target = shortName i.target ++ "/" ++ front ∧ i.key = front ++ "/" ++ j.key

/-- The parameter of a config intent says the path under which the value is stored. -/
theorem get?_name_parameter (i : ConfigIntent) (ctx : Context) :
    Entries.get? (i.parameter ctx).properties "name" =
      some (.string (i.path ctx.config.serviceName)) :=
  rfl

/-- The same on lists of characters. -/
theorem shifts_iff_toList {i j : ConfigIntent} :
    i.Shifts j ↔ ∃ front, (shortName j.target).toList = (shortName i.target).toList ++ '/' :: front ∧
      i.key.toList = front ++ '/' :: j.key.toList := by
  constructor
  · rintro ⟨front, target, key⟩
    exact ⟨front.toList, by simp [target], by simp [key]⟩
  · rintro ⟨front, target, key⟩
    refine ⟨String.ofList front, ?_, ?_⟩
    · apply String.toList_injective
      simp [target]
    · apply String.toList_injective
      simp [key]

/-- The paths of two intents are the same if their targets and keys are, or if they differ by a
shift. -/
theorem path_eq_iff {i j : ConfigIntent} {service : String} :
    i.path service = j.path service ↔
      (shortName i.target = shortName j.target ∧ i.key = j.key) ∨ i.Shifts j ∨ j.Shifts i := by
  have chars : i.path service = j.path service ↔
      (shortName i.target).toList ++ '/' :: i.key.toList =
        (shortName j.target).toList ++ '/' :: j.key.toList := by
    rw [← String.toList_inj]
    simp [path]
  rw [chars, append_sep_eq_iff, String.toList_inj, String.toList_inj, shifts_iff_toList,
    shifts_iff_toList]

/-- Where the name of one intent goes on with a dash, that of the other one has a slash. -/
theorem Shifts.parameterName_ne {i j : ConfigIntent} (shifts : i.Shifts j) :
    i.parameterName ≠ j.parameterName := by
  obtain ⟨front, target, _⟩ := shifts
  intro same
  have chars := congrArg String.toList same
  simp [parameterName, resourceName, target] at chars

/-- Two intents that store under the same path have the same key and parameter, or one has in its
target what stands before a slash in the key of the other. -/
theorem parameterName_of_path_eq {i j : ConfigIntent} {service : String}
    (same : i.path service = j.path service) :
    (i.key = j.key ∧ i.parameterName = j.parameterName) ∨ i.Shifts j ∨ j.Shifts i := by
  refine (path_eq_iff.mp same).imp_left ?_
  rintro ⟨target, key⟩
  refine ⟨key, ?_⟩
  unfold parameterName
  rw [target, key]

end ConfigIntent

/-! ## The later intent is reported -/

/-- A config intent would be refused: its key is blank, or its parameter's name is claimed. -/
def Pass.Refuses (pass : Pass) (i : ConfigIntent) : Prop :=
  Text.isBlankText i.key = true ∨ i.parameterName ∈ Entries.keys pass.parameters

namespace Adapter

variable {ctx : Context} {pass next : Pass} {i : ConfigIntent} {x : Intent}

/-- A config intent is refused with an error, or it claims its name and is recorded. -/
theorem IntentStep.config_cases (step : IntentStep ctx pass (.config i) next) :
    (¬ pass.Refuses i ∧ next = Pass.record
      { pass with parameters := Entries.insert pass.parameters i.parameterName i.edge }
      i.edge [i.parameter ctx]) ∨
    (pass.Refuses i ∧ ∃ e : LowerError,
      next = pass.report (.failed i.edge "config" e.message)) := by
  cases step with
  | stored keyed free =>
    refine Or.inl ⟨?_, rfl⟩
    rintro (blank | claimed)
    · rw [keyed] at blank
      contradiction
    · exact free claimed
  | @rejected _ e reason => exact Or.inr ⟨reason, e, rfl⟩
  | skipped foreign => rcases foreign with network | other <;> contradiction

/-- No name is ever given up. -/
theorem IntentStep.refuses (step : IntentStep ctx pass x next) (refused : pass.Refuses i) :
    next.Refuses i := by
  refine refused.imp_right ?_
  intro known
  cases step.parameterStep with
  | stored _ claimed =>
    rw [claimed, Entries.keys, List.map_append]
    exact List.mem_append_left _ known
  | refused _ claimed =>
    rw [claimed]
    exact known
  | passed _ claimed =>
    rw [claimed]
    exact known

/-- Once it has been lowered, a config intent would be refused a second time. -/
theorem IntentStep.refuses_again (step : IntentStep ctx pass (.config i) next) :
    next.Refuses i := by
  rcases step.config_cases with ⟨_, rfl⟩ | ⟨refused, _, rfl⟩
  · exact Or.inr (Entries.mem_keys_insert.mpr (Or.inr rfl))
  · exact refused

variable {mode : LookupMode}

/-- A config intent that would be refused would be so after any further intents. -/
theorem refuses_foldl (xs : List Intent) (refused : pass.Refuses i) :
    (xs.foldl ((standard mode).lowerIntent ctx) pass).Refuses i := by
  induction xs generalizing pass with
  | nil => exact refused
  | cons x rest ih => exact ih ((intentStep_lowerIntent mode ctx pass x).refuses refused)

/-- Behind a config intent, another one of its key and name is refused. -/
theorem refuses_upTo {p q : Nat} (earlier : p < q) (here : ctx.intents[p]? = some (.config i)) :
    ((standard mode).upTo ctx q).Refuses i := by
  have among : .config i ∈ ctx.intents.take q := by
    rw [List.mem_iff_getElem?]
    exact ⟨p, by rw [List.getElem?_take_of_lt earlier, here]⟩
  obtain ⟨before, after, split⟩ := List.append_of_mem among
  rw [upTo, split, List.foldl_append, List.foldl_cons]
  exact refuses_foldl after (intentStep_lowerIntent mode ctx _ _).refuses_again

/-- A config intent that is refused fails with an error of the config lowerer for its edge. -/
theorem failsAt_of_refuses {q : Nat} (here : ctx.intents[q]? = some (.config i))
    (refused : ((standard mode).upTo ctx q).Refuses i) :
    ∃ d, (standard mode).FailsAt ctx q d ∧ d.isConfigError = true ∧ d.source = i.edge := by
  rcases (intentStep_lowerIntent mode ctx ((standard mode).upTo ctx q) (.config i)).config_cases
    with ⟨free, _⟩ | ⟨_, e, told⟩
  · exact absurd refused free
  · refine ⟨.failed i.edge "config" e.message, ⟨⟨_, here, ?_⟩, rfl⟩, rfl, rfl⟩
    rw [told]
    rfl

end Adapter

/-! ## The parameters of a result -/

section Run

variable {mode : LookupMode} {ctx : Context} {i j : ConfigIntent} {r : Resource}

/-- Every parameter is that of a config intent. -/
theorem exists_intent_of_mem_parameters
    (member : r ∈ ((Adapter.standard mode).lower ctx).parameters) :
    ∃ i, .config i ∈ ctx.intents ∧ r = i.parameter ctx := by
  obtain ⟨kept, parameter⟩ := List.mem_filter.mp member
  cases Context.yields_of_mem_lower kept with
  | @parameter i intent => exact ⟨i, intent, rfl⟩
  | _ => simp [Resource.isParameter] at parameter

/-- Two parameters of one path are different exactly if their intents differ by a shift. -/
theorem parameter_ne_and_path_eq_iff (service : String)
    (first : i.parameter ctx ∈ ((Adapter.standard mode).lower ctx).parameters)
    (second : j.parameter ctx ∈ ((Adapter.standard mode).lower ctx).parameters) :
    i.parameter ctx ≠ j.parameter ctx ∧ i.path service = j.path service ↔
      i.Shifts j ∨ j.Shifts i := by
  constructor
  · rintro ⟨different, same⟩
    refine (ConfigIntent.parameterName_of_path_eq same).resolve_left ?_
    rintro ⟨_, name⟩
    exact different (Pass.eq_of_name_eq (List.mem_filter.mp first).1 (List.mem_filter.mp second).1 name)
  · intro shifts
    refine ⟨?_, ConfigIntent.path_eq_iff.mpr (Or.inr shifts)⟩
    intro same
    have name : i.parameterName = j.parameterName := congrArg Resource.name same
    rcases shifts with forth | back
    · exact forth.parameterName_ne name
    · exact back.parameterName_ne name.symm

end Run

/-- **When two parameters share a path.** Every parameter of a result belongs to a config intent and
carries the path of that intent; two parameters of one path are different exactly if one of their
intents has in its target what the other one has in its key; and apart from this, a config intent of
an earlier one's path fails with an error for its edge. -/
theorem parameters_share_path_iff (mode : LookupMode) (ctx : Context) :
    (∀ r ∈ ((Adapter.standard mode).lower ctx).parameters, ∃ i, .config i ∈ ctx.intents ∧
      r = i.parameter ctx ∧ Entries.get? r.properties "name" =
        some (.string (i.path ctx.config.serviceName))) ∧
      (∀ i j : ConfigIntent, i.parameter ctx ∈ ((Adapter.standard mode).lower ctx).parameters →
        j.parameter ctx ∈ ((Adapter.standard mode).lower ctx).parameters →
        (i.parameter ctx ≠ j.parameter ctx ∧
            i.path ctx.config.serviceName = j.path ctx.config.serviceName ↔
          i.Shifts j ∨ j.Shifts i)) ∧
      ∀ i j p q, p < q → ctx.intents[p]? = some (.config i) → ctx.intents[q]? = some (.config j) →
        i.path ctx.config.serviceName = j.path ctx.config.serviceName →
        i.Shifts j ∨ j.Shifts i ∨
          ∃ d, (Adapter.standard mode).FailsAt ctx q d ∧ d.isConfigError = true ∧
            d.source = j.edge ∧ d ∈ ((Adapter.standard mode).lower ctx).diagnostics := by
  refine ⟨?_, fun i j first second => parameter_ne_and_path_eq_iff _ first second, ?_⟩
  · intro r member
    obtain ⟨i, intent, rfl⟩ := exists_intent_of_mem_parameters member
    exact ⟨i, intent, rfl, i.get?_name_parameter ctx⟩
  · intro i j p q earlier first second same
    -- one path means the same key and the same name, which the earlier intent has claimed, or a
    -- shift
    rcases ConfigIntent.parameterName_of_path_eq same with ⟨key, name⟩ | forth | back
    · have refused : ((Adapter.standard mode).upTo ctx q).Refuses j := by
        unfold Pass.Refuses
        rw [← key, ← name]
        exact Adapter.refuses_upTo earlier first
      obtain ⟨d, fails, config, edge⟩ := Adapter.failsAt_of_refuses second refused
      exact Or.inr (Or.inr ⟨d, fails, config, edge, fails.mem_diagnostics⟩)
    · exact Or.inl forth
    · exact Or.inr (Or.inl back)

/-- A document with two components, one of them below the other, whose keys make one path. -/
def nestedComponents : Document :=
  ⟨⟨"us-east-1", "orders", none, none⟩,
    [.config ⟨"e1", "component:a", "b/c", .literal "1"⟩,
      .config ⟨"e2", "component:a/b", "c", .literal "2"⟩],
    ⟨[⟨"component:a", [("platform", .string "compute-function")]⟩,
      ⟨"component:a/b", [("platform", .string "compute-function")]⟩], []⟩⟩

set_option maxRecDepth 10000 in
/-- Both parameters are kept and nothing is reported, and they are stored under one path. -/
theorem parameters_share_path_nested :
    let outer : ConfigIntent := ⟨"e1", "component:a", "b/c", .literal "1"⟩
    let inner : ConfigIntent := ⟨"e2", "component:a/b", "c", .literal "2"⟩
    let result := (Adapter.standard .registry).lower nestedComponents
    outer.parameter nestedComponents ∈ result.parameters ∧
      inner.parameter nestedComponents ∈ result.parameters ∧ result.diagnostics = [] ∧
      outer.parameter nestedComponents ≠ inner.parameter nestedComponents ∧
      outer.path "orders" = inner.path "orders" := by
  intro outer inner result
  have kept := parameters_perm .registry nestedComponents
  have first : outer.parameter nestedComponents ∈ result.parameters := kept.mem_iff.mpr (by decide)
  have second : inner.parameter nestedComponents ∈ result.parameters := kept.mem_iff.mpr (by decide)
  have shifts : outer.Shifts inner := ⟨"b", by decide, by decide⟩
  have shared := ((parameters_share_path_iff .registry nestedComponents).2.1 outer inner first
    second).mpr (Or.inl shifts)
  exact ⟨first, second, by decide, shared.1, shared.2⟩

end CloudPlan
