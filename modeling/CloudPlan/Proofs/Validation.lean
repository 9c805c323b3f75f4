import CloudPlan.Document
import Mathlib.Data.List.DropRight
import Mathlib.Data.List.Nodup

/-!
# What is checked of a document

Each blank setting, each node id without a kind, each node with the id of an earlier node and each
end of an edge that is no node is one problem, and there are no others (`problems_exact`). So a
document without problems is well-formed, and the other way round.
-/

set_option autoImplicit false

namespace CloudPlan

/-! ## Blank texts -/

/-- Trimming leaves nothing of blanks, and of nothing else. -/
theorem Text.trimChars_eq_nil_iff {cs : List Char} :
    trimChars cs = [] ↔ ∀ c ∈ cs, isBlank c = true := by
  show (cs.dropWhile isBlank).rdropWhile isBlank = [] ↔ _
  rw [List.rdropWhile_eq_nil_iff]
  constructor
  · intro tail
    by_contra other
    -- what is left after the leading blanks starts with none, so nothing is left
    rw [← List.dropWhile_eq_nil_iff] at other
    have visible := List.head_dropWhile_not isBlank other
    rw [tail _ (List.head_mem other)] at visible
    cases visible
  · intro blank c left
    exact blank c ((List.dropWhile_sublist isBlank).mem left)

/-- A text is blank if nothing is left of it without the blanks at either end. -/
theorem Text.isBlankText_iff {s : String} : isBlankText s = true ↔ trim s = "" := by
  rw [isBlankText, List.all_eq_true, ← trimChars_eq_nil_iff, trim, String.ofList_eq_empty_iff]

namespace Document

/-! ## Faults -/

/-- What is asked of a document. -/
structure WellFormed (doc : Document) : Prop where
  region : Text.trim doc.config.region ≠ ""
  serviceName : Text.trim doc.config.serviceName ≠ ""
  kinds : ∀ n ∈ doc.graph.nodes, ':' ∈ n.id.toList
  distinct : doc.graph.nodes.Pairwise fun n m => n.id ≠ m.id
  ends : ∀ e ∈ doc.graph.edges, (∃ n ∈ doc.graph.nodes, n.id = e.source) ∧
    ∃ n ∈ doc.graph.nodes, n.id = e.target

/-- The text at a place also stands at an earlier place. -/
def Repeats (ids : List String) (place : Nat) : Prop :=
  ∃ earlier < place, ids[earlier]? = ids[place]?

instance (ids : List String) : DecidablePred (Repeats ids) :=
  fun _ => inferInstanceAs (Decidable (∃ _ < _, _))

/-- The number of settings that are blank. -/
def blankCount (config : Config) : Nat :=
  [config.region, config.serviceName].countP fun setting => Text.trim setting = ""

/-- The number of nodes whose id has no kind. -/
def unkindedCount (nodes : List Node) : Nat :=
  nodes.countP fun n => ':' ∉ n.id.toList

/-- The number of texts that also stand at an earlier place. -/
def repeatCount (ids : List String) : Nat :=
  (List.range ids.length).countP fun place => Repeats ids place

/-- The number of ends of edges at which there is no node. -/
def looseCount (graph : Graph) : Nat :=
  (graph.edges.flatMap fun e => [e.source, e.target]).countP fun id => id ∉ graph.nodes.map Node.id

/-! ## One problem for each fault -/

/-- There is a problem for each blank setting. -/
theorem length_configProblems (config : Config) :
    (configProblems config).length = blankCount config := by
  simp only [configProblems, blankCount, Text.isBlankText_iff, List.length_append,
    List.countP_cons, List.countP_nil, decide_eq_true_eq]
  split <;> split <;> rfl

/-- The text at a place is a repetition if it is among those before it. -/
theorem repeats_length_iff {before after : List String} {id : String} :
    Repeats (before ++ id :: after) before.length ↔ id ∈ before := by
  rw [List.mem_iff_getElem?]
  constructor
  · rintro ⟨earlier, lt, same⟩
    refine ⟨earlier, ?_⟩
    rwa [List.getElem?_append_left lt, List.getElem?_append_right (Nat.le_refl _), Nat.sub_self,
      List.getElem?_cons_zero] at same
  · rintro ⟨earlier, found⟩
    have lt : earlier < before.length := (List.getElem?_eq_some_iff.mp found).1
    refine ⟨earlier, lt, ?_⟩
    rw [List.getElem?_append_left lt, List.getElem?_append_right (Nat.le_refl _), Nat.sub_self,
      List.getElem?_cons_zero, found]

/-- The problems of the nodes behind some others: one for each id without a kind and one for each
place behind them at which an id is repeated. -/
theorem length_nodeProblems (before : List String) (nodes : List Node) :
    (nodeProblems before.reverse nodes).length = unkindedCount nodes +
      (List.range' before.length nodes.length).countP fun place =>
        Repeats (before ++ nodes.map Node.id) place := by
  -- on the nodes, with the ids before them carried along in reverse, as the check does
  induction nodes generalizing before with
  | nil => rfl
  | cons n rest ih =>
    have later : (nodeProblems (n.id :: before.reverse) rest).length = unkindedCount rest +
        (List.range' (before.length + 1) rest.length).countP fun place =>
          Repeats (before ++ (n :: rest).map Node.id) place := by
      have shifted := ih (before ++ [n.id])
      rwa [List.reverse_concat, List.length_append, List.append_assoc] at shifted
    have places : List.range' before.length (n :: rest).length =
        before.length :: List.range' (before.length + 1) rest.length := List.range'_succ
    have kind : (if n.id.toList.contains ':' then [] else [Problem.idWithoutKind n.id]).length =
        if ':' ∉ n.id.toList then 1 else 0 := by
      simp only [List.contains_iff_mem, apply_ite List.length, ite_not]
      rfl
    have repeated : (if before.reverse.contains n.id then [Problem.repeatedId n.id] else []).length =
        if Repeats (before ++ (n :: rest).map Node.id) before.length then 1 else 0 := by
      simp only [List.map_cons, repeats_length_iff, List.contains_iff_mem, List.mem_reverse,
        apply_ite List.length]
      rfl
    have unkinded : unkindedCount (n :: rest) =
        unkindedCount rest + if ':' ∉ n.id.toList then 1 else 0 := by
      simp only [unkindedCount, List.countP_cons, decide_eq_true_eq]
    rw [nodeProblems, List.length_append, List.length_append, kind, repeated, later, unkinded,
      places, List.countP_cons]
    simp only [decide_eq_true_eq]
    omega

/-- The problems of the edges: one for each end at which there is no node. -/
theorem length_edgeProblems (ids : List String) (edges : List Edge) :
    (edges.flatMap fun e => endProblems ids e .source ++ endProblems ids e .target).length =
      (edges.flatMap fun e => [e.source, e.target]).countP fun id => id ∉ ids := by
  have single (e : Edge) (which : EdgeEnd) :
      (endProblems ids e which).length = [which.of e].countP fun id => id ∉ ids := by
    unfold endProblems
    by_cases known : which.of e ∈ ids <;> simp [known]
  induction edges with
  | nil => rfl
  | cons e rest ih =>
    rw [List.flatMap_cons, List.flatMap_cons, List.length_append, List.countP_append, ih,
      List.length_append, single, single, ← List.countP_append]
    rfl

/-! ## Documents without faults -/

/-- No setting is blank exactly if each has something that is left after trimming. -/
theorem blankCount_eq_zero_iff {config : Config} : blankCount config = 0 ↔
    Text.trim config.region ≠ "" ∧ Text.trim config.serviceName ≠ "" := by
  simp [blankCount, List.countP_eq_zero]

/-- No node is without a kind exactly if every id has a colon. -/
theorem unkindedCount_eq_zero_iff {nodes : List Node} : unkindedCount nodes = 0 ↔
    ∀ n ∈ nodes, ':' ∈ n.id.toList := by
  simp [unkindedCount, List.countP_eq_zero]

/-- No id is repeated exactly if any two nodes have different ones. -/
theorem repeatCount_eq_zero_iff {nodes : List Node} :
    repeatCount (nodes.map Node.id) = 0 ↔ nodes.Pairwise fun n m => n.id ≠ m.id := by
  rw [repeatCount, List.countP_eq_zero, ← List.pairwise_map (f := Node.id) (R := (· ≠ ·)),
    ← List.Nodup, List.nodup_iff_getElem?_ne_getElem?]
  simp only [List.mem_range, decide_eq_true_eq]
  constructor
  · intro none earlier place lt inside same
    exact none place inside ⟨earlier, lt, same⟩
  · rintro distinct place inside ⟨earlier, lt, same⟩
    exact distinct earlier place lt inside same

/-- No end is loose exactly if both ends of every edge are nodes of the graph. -/
theorem looseCount_eq_zero_iff {graph : Graph} : looseCount graph = 0 ↔
    ∀ e ∈ graph.edges, (∃ n ∈ graph.nodes, n.id = e.source) ∧
      ∃ n ∈ graph.nodes, n.id = e.target := by
  simp only [looseCount, List.countP_eq_zero, decide_eq_true_eq, not_not, List.forall_mem_flatMap,
    List.forall_mem_cons, List.mem_map]
  simp

/-- **Validation is exact.** A document has no problems exactly if its region and its service name
are more than blanks, every node id has a kind, no two nodes have one id, and every edge connects
nodes; and it has one problem for each setting that is blank, each node id without a kind, each node
with the id of an earlier one, and each end of an edge that is the id of no node. -/
theorem problems_exact (doc : Document) :
    (doc.problems = [] ↔ doc.WellFormed) ∧
    doc.problems.length = blankCount doc.config + unkindedCount doc.graph.nodes +
      repeatCount (doc.graph.nodes.map Node.id) + looseCount doc.graph := by
  have nodes := length_nodeProblems [] doc.graph.nodes
  rw [List.reverse_nil, List.length_nil, List.nil_append, ← List.range_eq_range'] at nodes
  have count : doc.problems.length = blankCount doc.config + unkindedCount doc.graph.nodes +
      repeatCount (doc.graph.nodes.map Node.id) + looseCount doc.graph := by
    rw [problems, List.length_append, List.length_append, length_configProblems, nodes,
      length_edgeProblems, looseCount, repeatCount, List.length_map, ← Nat.add_assoc]
  refine ⟨?_, count⟩
  rw [← List.length_eq_zero_iff, count, Nat.add_eq_zero_iff, Nat.add_eq_zero_iff,
    Nat.add_eq_zero_iff, blankCount_eq_zero_iff, unkindedCount_eq_zero_iff,
    repeatCount_eq_zero_iff, looseCount_eq_zero_iff]
  constructor
  · rintro ⟨⟨⟨⟨region, serviceName⟩, kinds⟩, distinct⟩, ends⟩
    exact ⟨region, serviceName, kinds, distinct, ends⟩
  · intro well
    exact ⟨⟨⟨⟨well.region, well.serviceName⟩, well.kinds⟩, well.distinct⟩, well.ends⟩

end Document

end CloudPlan
