import CloudPlan.Document
import CloudPlan.Proofs.Entries
import CloudPlan.Proofs.Records

/-!
# Documents are read back as they were

A document that was read and is written as JSON is read back as it was. Not every document is: a port
has to fit 16 bits, and an intent of another type must neither have the type of a known one nor hold
its type or its edge among its remaining fields. `Intent.readable_of_decode` says that reading yields
nothing else, and `Document.decode_json_iff` that this is all that it takes. An intent of another type
is written with everything that it was read from (`OtherIntent.keeps_of_decode`). All this is about
JSON values, whatever text they are printed as.
-/

set_option autoImplicit false

namespace CloudPlan

open Fields (map_read seq_read map_eq_read_iff seq_eq_read_iff)
open Record (required_given withDefault_given optional_given settle_keyed exists_of_settle
  given_of_readField given_of_optional)

/-! ## Settings and graphs -/

/-- Stored code is read back as it was written. -/
theorem StoredCode.decode_json (code : StoredCode) : decode code.json = .ok code :=
  settle_keyed rfl

/-- Written settings are read back. -/
theorem Config.decode_json (config : Config) : decode config.json = .ok config := by
  apply settle_keyed
  refine seq_read (seq_read (seq_read (map_read ?_) ?_) ?_) ?_
  · exact required_given rfl rfl
  · exact required_given rfl rfl
  · exact optional_given rfl (Json.nullable_ofString? config.codePath)
  · exact optional_given rfl
      (Json.nullable_written (fun code _ => code.decode_json) fun _ => nofun)

/-- A written node is read back. -/
theorem Node.decode_json (node : Node) : decode node.json = .ok node := by
  apply settle_keyed
  refine seq_read (map_read ?_) ?_
  · exact required_given rfl rfl
  · exact withDefault_given rfl (Json.keyed_anything node.properties)

/-- The name of an edge type is read as that type. -/
theorem EdgeType.choice_name (type : EdgeType) :
    Json.choice all false (.string type.name) = .ok type := by
  cases type <;> rfl

/-- A written edge is read back. -/
theorem Edge.decode_json (edge : Edge) : decode edge.json = .ok edge := by
  apply settle_keyed
  refine seq_read (seq_read (seq_read (seq_read (map_read ?_) ?_) ?_) ?_) ?_
  · exact required_given rfl rfl
  · exact required_given rfl edge.type.choice_name
  · exact required_given rfl rfl
  · exact required_given rfl rfl
  · exact withDefault_given rfl (Json.keyed_anything edge.binding)

/-- A written graph is read back. -/
theorem Graph.decode_json (graph : Graph) : decode graph.json = .ok graph := by
  apply settle_keyed
  refine seq_read (map_read ?_) ?_
  · exact withDefault_given rfl (Json.sequence_written fun node _ => node.decode_json)
  · exact withDefault_given rfl (Json.sequence_written fun edge _ => edge.decode_json)

/-! ## Intents that can be read back -/

/-- The types of intents that have a model and can be asked for. -/
def Intent.knownTypes : List String :=
  [IntentKind.access, .network, .config, .telemetry].map IntentKind.name

/-- What reading guarantees of an intent: its port fits 16 bits, and if it is of another type it has
none of the known types and holds neither its type nor its edge among its fields. -/
def Intent.Readable : Intent → Prop
  | .network i => ∀ port, i.port = some port → port < 0x10000
  | .other i => i.typeName ∉ knownTypes ∧ Entries.get? i.fields "type" = none ∧
      Entries.get? i.fields "source_edge_id" = none
  | .access _ | .config _ | .telemetry _ => True

/-- An access scope is read back as it was written. -/
theorem AccessScope.decode_json (scope : AccessScope) : type.decode scope.json = .ok scope := by
  cases scope with
  | specific => rfl
  | pattern p => cases p <;> rfl

/-- So is the source of a value. -/
theorem ValueSource.decode_json (source : ValueSource) :
    type.decode source.json = .ok source := by
  cases source with
  | literal value => rfl
  | reference node field => cases field <;> rfl
  | secret name => rfl

/-- Written access levels are read back. -/
theorem AccessLevel.sequence_names (levels : List AccessLevel) :
    Json.sequence (Json.choice all true) (Json.ofStrings (levels.map name)) = .ok levels := by
  rw [Json.ofStrings, List.map_map]
  refine Json.sequence_written fun level _ => ?_
  cases level <;> rfl

section Known

variable (tag : Json)

/-- The written entries of a known intent are read back, whatever tag stands before them. -/
theorem AccessIntent.decode_entries (i : AccessIntent) :
    decode (.object (("type", tag) :: i.entries)) = .ok i := by
  apply settle_keyed
  refine seq_read (seq_read (seq_read (seq_read (map_read ?_) ?_) ?_) ?_) ?_
  · exact required_given rfl rfl
  · exact required_given rfl rfl
  · exact required_given rfl rfl
  · exact required_given rfl (AccessLevel.sequence_names i.levels)
  · refine optional_given rfl (Json.nullable_written (fun scope _ => scope.decode_json) ?_)
    intro scope
    cases scope <;> nofun

/-- The fields of a network intent are read back as they were written, whatever the type before
them, if its port fits 16 bits. -/
theorem NetworkIntent.decode_entries (i : NetworkIntent)
    (small : ∀ port, i.port = some port → port < 0x10000) :
    decode (.object (("type", tag) :: i.entries)) = .ok i := by
  apply settle_keyed
  refine seq_read (seq_read (seq_read (seq_read (map_read ?_) ?_) ?_) ?_) ?_
  · exact required_given rfl rfl
  · exact required_given rfl rfl
  · exact required_given rfl rfl
  · exact optional_given rfl
      (Json.nullable_written (fun port given => Json.natBelow_ofNat (small port given))
        fun _ => nofun)
  · exact optional_given rfl (Json.nullable_ofString? i.protocol)

/-- So are those of a config intent. -/
theorem ConfigIntent.decode_entries (i : ConfigIntent) :
    decode (.object (("type", tag) :: i.entries)) = .ok i := by
  apply settle_keyed
  refine seq_read (seq_read (seq_read (map_read ?_) ?_) ?_) ?_
  · exact required_given rfl rfl
  · exact required_given rfl rfl
  · exact required_given rfl rfl
  · exact required_given rfl i.source.decode_json

/-- So are those of a telemetry intent. -/
theorem TelemetryIntent.decode_entries (i : TelemetryIntent) :
    decode (.object (("type", tag) :: i.entries)) = .ok i := by
  apply settle_keyed
  refine seq_read (map_read ?_) ?_
  · exact required_given rfl rfl
  · exact optional_given rfl (Json.nullable_ofString? i.target)

end Known

section Other

variable {entries : Entries Json} {name : String}

/-- An object whose type is none of the known ones is read as an intent of another type. -/
theorem Intent.decode_of_unknown (tag : Entries.get? entries "type" = some (.string name))
    (unknown : name ∉ knownTypes) :
    decode (.object entries) = other <$> OtherIntent.decode name entries := by
  simp only [knownTypes, List.map_cons, List.map_nil, IntentKind.name, List.mem_cons,
    List.not_mem_nil, or_false, not_or] at unknown
  obtain ⟨access, network, config, telemetry⟩ := unknown
  simp only [decode, tag]

/-- The entries of an intent of another type are read back if it can be read at all. -/
theorem OtherIntent.decode_entries (i : OtherIntent) (readable : (Intent.other i).Readable) :
    decode i.typeName i.entries = .ok i := by
  obtain ⟨_, typeless, edgeless⟩ := readable
  have fields : Entries.erase (Entries.erase i.entries "type") "source_edge_id" = i.fields := by
    show Entries.erase (("source_edge_id", .string i.edge) :: Entries.erase i.fields "type")
      "source_edge_id" = _
    rw [Entries.erase_of_missing typeless]
    exact Entries.erase_of_missing edgeless
  unfold decode
  rw [fields]
  rfl

end Other

/-- A written intent is read back if it can be read at all. -/
theorem Intent.decode_json (i : Intent) (readable : i.Readable) : decode i.json = .ok i := by
  cases i with
  | access i =>
    show access <$> AccessIntent.decode (.object (("type", _) :: i.entries)) = _
    rw [i.decode_entries]
    rfl
  | network i =>
    show network <$> NetworkIntent.decode (.object (("type", _) :: i.entries)) = _
    rw [i.decode_entries _ readable]
    rfl
  | config i =>
    show config <$> ConfigIntent.decode (.object (("type", _) :: i.entries)) = _
    rw [i.decode_entries]
    rfl
  | telemetry i =>
    show telemetry <$> TelemetryIntent.decode (.object (("type", _) :: i.entries)) = _
    rw [i.decode_entries]
    rfl
  | other i =>
    show decode (.object i.entries) = _
    rw [decode_of_unknown rfl readable.1, i.decode_entries readable]
    rfl

/-! ## What was read can be read back -/

/-- The port of a network intent that was read fits 16 bits. -/
theorem NetworkIntent.port_lt_of_decode {j : Json} {i : NetworkIntent} (ok : decode j = .ok i) :
    ∀ port, i.port = some port → port < 0x10000 := by
  obtain ⟨r, _, read⟩ := exists_of_settle ok
  obtain ⟨_, protocol, upToPort, _, rfl⟩ := seq_eq_read_iff.mp read
  obtain ⟨_, port, upToTarget, given, rfl⟩ := seq_eq_read_iff.mp upToPort
  obtain ⟨_, target, upToSource, _, rfl⟩ := seq_eq_read_iff.mp upToTarget
  obtain ⟨_, source, upToEdge, _, rfl⟩ := seq_eq_read_iff.mp upToSource
  obtain ⟨edge, _, rfl⟩ := map_eq_read_iff.mp upToEdge
  rintro n rfl
  obtain ⟨value, _, number⟩ := given_of_optional given
  exact Json.lt_of_natBelow (Json.decode_of_nullable number)

/-- What an intent of another type keeps of the value that it was read from: written again, it has
the same type and the same edge, or the empty one for none, and every other entry is as it was. -/
structure OtherIntent.Keeps (i : OtherIntent) (x : Json) : Prop where
  type : x.get? "type" = some (.string i.typeName)
  edge : (x.get? "source_edge_id").getD (.string "") = .string i.edge
  written_type : (Intent.other i).json.get? "type" = some (.string i.typeName)
  written_edge : (Intent.other i).json.get? "source_edge_id" = some (.string i.edge)
  written_others : ∀ key, key ≠ "source_edge_id" → (Intent.other i).json.get? key = x.get? key

section Unmodelled

variable {entries : Entries Json} {name : String} {i : OtherIntent}

/-- What an intent of another type was read from. -/
theorem OtherIntent.eq_of_decode (ok : decode name entries = .ok i) :
    i.typeName = name ∧
      i.fields = Entries.erase (Entries.erase entries "type") "source_edge_id" ∧
      ((Entries.get? entries "source_edge_id").getD (.string "")) = .string i.edge := by
  unfold decode at ok
  split at ok <;> rename_i given
  · cases ok
    rw [given]
    exact ⟨rfl, rfl, rfl⟩
  · rename_i j
    cases j <;> cases ok
    rw [given]
    exact ⟨rfl, rfl, rfl⟩

/-- An intent of another type keeps all that it was read from. -/
theorem OtherIntent.keeps_of_decode (tag : Entries.get? entries "type" = some (.string name))
    (ok : decode name entries = .ok i) : i.Keeps (.object entries) := by
  obtain ⟨typed, rest, edge⟩ := eq_of_decode ok
  refine ⟨?_, edge, rfl, rfl, ?_⟩
  · rw [typed]
    exact tag
  · intro key other
    show (if "type" = key then some (.string i.typeName) else
      if "source_edge_id" = key then some (.string i.edge) else Entries.get? i.fields key) =
        Entries.get? entries key
    rw [if_neg (Ne.symm other)]
    by_cases same : "type" = key
    · rw [if_pos same, ← same, tag, typed]
    · rw [if_neg same, rest, Entries.get?_erase, if_neg other, Entries.get?_erase,
        if_neg (Ne.symm same)]

/-- It can be read again once it is written. -/
theorem OtherIntent.readable_of_decode (unknown : name ∉ Intent.knownTypes)
    (ok : decode name entries = .ok i) : (Intent.other i).Readable := by
  obtain ⟨typed, rest, _⟩ := eq_of_decode ok
  refine ⟨typed ▸ unknown, ?_, ?_⟩
  · rw [rest, Entries.get?_erase, if_neg (by decide), Entries.get?_erase, if_pos rfl]
  · rw [rest, Entries.get?_erase, if_pos rfl]

end Unmodelled

/-- What an intent was read from: the values of the known types are records, and those of another
type are objects with that type. -/
inductive Intent.ReadFrom : Json → Intent → Prop where
  | access {x : Json} {i : AccessIntent} (ok : AccessIntent.decode x = .ok i) :
      ReadFrom x (.access i)
  | network {x : Json} {i : NetworkIntent} (ok : NetworkIntent.decode x = .ok i) :
      ReadFrom x (.network i)
  | config {x : Json} {i : ConfigIntent} (ok : ConfigIntent.decode x = .ok i) :
      ReadFrom x (.config i)
  | telemetry {x : Json} {i : TelemetryIntent} (ok : TelemetryIntent.decode x = .ok i) :
      ReadFrom x (.telemetry i)
  | other {entries : Entries Json} {name : String} {i : OtherIntent}
      (tag : Entries.get? entries "type" = some (.string name)) (unknown : name ∉ knownTypes)
      (ok : OtherIntent.decode name entries = .ok i) : ReadFrom (.object entries) (.other i)

/-- Whatever is read as an intent is a record of its type, or an object of another type. -/
theorem Intent.readFrom_of_decode {x : Json} {i : Intent} (ok : decode x = .ok i) :
    ReadFrom x i := by
  unfold decode at ok
  split at ok
  · split at ok
    · cases ok
    · obtain ⟨a, read, rfl⟩ := map_eq_ok_iff.mp ok
      exact .access read
    · obtain ⟨n, read, rfl⟩ := map_eq_ok_iff.mp ok
      exact .network read
    · obtain ⟨c, read, rfl⟩ := map_eq_ok_iff.mp ok
      exact .config read
    · obtain ⟨t, read, rfl⟩ := map_eq_ok_iff.mp ok
      exact .telemetry read
    · rename_i access network config telemetry tag
      obtain ⟨o, read, rfl⟩ := map_eq_ok_iff.mp ok
      refine .other tag ?_ read
      simp only [knownTypes, List.map_cons, List.map_nil, IntentKind.name, List.mem_cons,
        List.not_mem_nil, or_false, not_or]
      exact ⟨access, network, config, telemetry⟩
    · cases ok
  · cases ok

/-- Whatever was read as an intent can be read back. -/
theorem Intent.readable_of_decode {x : Json} {i : Intent} (ok : decode x = .ok i) :
    i.Readable := by
  cases readFrom_of_decode ok with
  | access _ | config _ | telemetry _ => trivial
  | network read => exact NetworkIntent.port_lt_of_decode read
  | other _ unknown read => exact OtherIntent.readable_of_decode unknown read

/-- So an intent that was read as one of another type keeps all that it was read from. -/
theorem Intent.keeps_of_decode {x : Json} {i : OtherIntent} (ok : decode x = .ok (.other i)) :
    i.Keeps x := by
  cases readFrom_of_decode ok with
  | other tag _ read => exact OtherIntent.keeps_of_decode tag read

/-! ## Documents -/

namespace Document

/-- The values of the intents in the JSON of a document; there are none where the field is left
out. -/
def intentValues (j : Json) : List Json :=
  match (Record.ofJson type false j).toOption.bind fun r => r.value? "intents" with
  | some (.array items) => items
  | _ => []

/-- The intents of a document were read from their values one by one. -/
theorem intents_of_decode {j : Json} {doc : Document} (ok : decode j = .ok doc) :
    List.Forall₂ (fun x i => Intent.decode x = .ok i) (intentValues j) doc.intents := by
  obtain ⟨r, seen, read⟩ := exists_of_settle ok
  -- the fields were read in turn, and the intents are the second one
  obtain ⟨_, graph, upToIntents, _, rfl⟩ := seq_eq_read_iff.mp read
  obtain ⟨_, intents, upToConfig, given, rfl⟩ := seq_eq_read_iff.mp upToIntents
  obtain ⟨config, _, rfl⟩ := map_eq_read_iff.mp upToConfig
  unfold intentValues
  rw [seen]
  show List.Forall₂ _ (match r.value? "intents" with | some (.array items) => items | _ => [])
    intents
  obtain ⟨absent, none⟩ | ⟨value, present, sequence⟩ := given_of_readField given
  · cases none
    rw [absent]
    exact .nil
  · obtain ⟨items, rfl, each⟩ := Json.exists_items_of_sequence sequence
    rw [present]
    exact each

/-- A written document is read back if its intents can be read at all. -/
theorem decode_json (doc : Document) (readable : ∀ i ∈ doc.intents, i.Readable) :
    decode doc.json = .ok doc := by
  apply settle_keyed
  refine seq_read (seq_read (map_read ?_) ?_) ?_
  · exact required_given rfl doc.config.decode_json
  · exact withDefault_given rfl
      (Json.sequence_written fun i member => i.decode_json (readable i member))
  · exact withDefault_given rfl doc.graph.decode_json

/-- Whatever was read as an intent of a document can be read back. -/
theorem readable_of_decode {j : Json} {doc : Document} (ok : decode j = .ok doc) :
    ∀ i ∈ doc.intents, i.Readable := by
  have both : List.Forall₂ (fun i x => i.Readable ∧ Intent.decode x = .ok i) doc.intents
      (intentValues j) :=
    (intents_of_decode ok).flip.imp fun i x read => ⟨Intent.readable_of_decode read, read⟩
  exact ((List.forall₂_and_left _ _).mp both).1

/-- A written document is read back as it was exactly if its intents can be read at all. -/
theorem decode_json_iff {doc : Document} :
    decode doc.json = .ok doc ↔ ∀ i ∈ doc.intents, i.Readable :=
  ⟨readable_of_decode, doc.decode_json⟩

/-- **Documents are read back as they were.** Whatever JSON value a document was read from, the
document is written as a value that is read as the same document; and its intents of other types keep
their type, their edge and every other entry of the values that they were read from. -/
theorem decode_json_of_decode {j : Json} {doc : Document} (ok : decode j = .ok doc) :
    decode doc.json = .ok doc ∧
      List.Forall₂ (fun x i => Intent.decode x = .ok i ∧ ∀ o, i = .other o → o.Keeps x)
        (intentValues j) doc.intents := by
  refine ⟨decode_json_iff.mpr (readable_of_decode ok), ?_⟩
  refine (intents_of_decode ok).imp fun x i read => ⟨read, ?_⟩
  rintro o rfl
  exact Intent.keeps_of_decode read

/-- The JSON of a document whose values are given in uncommon ways: a level as an object, a scope and
a value source as arrays, a port beside an unknown key, an intent of another type without an edge, and
a node as an array. -/
def uncommonJson : Json :=
  .object
    [("config", .array [.string "eu-west-1", .string "shop"]),
      ("intents", .array
        [.object [("type", .string "identity-access"), ("source_edge_id", .string "e1"),
            ("principal", .string "component:api"), ("resource", .string "platform:jobs"),
            ("actions", .array [.object [("write", .null)], .string "read"]),
            ("scope", .array [.string "pattern"])],
          .object [("type", .string "network"), ("source_edge_id", .string "e2"),
            ("source", .string "component:api"), ("target", .string "platform:db"),
            ("port", .ofNat 65535), ("note", .bool true)],
          .object [("type", .string "config"), ("source_edge_id", .string "e3"),
            ("target", .string "component:api"), ("key", .string "JOBS"),
            ("value_source", .array [.string "reference", .string "platform:jobs"])],
          .object [("weekly", .bool true), ("type", .string "backup"),
            ("retention", .object [("days", .ofNat 30)])]]),
      ("graph", .object [("nodes", .array [.array [.string "platform:jobs"]])])]

/-- The document that is read from it. -/
def uncommon : Document where
  config := ⟨"eu-west-1", "shop", none, none⟩
  intents :=
    [.access ⟨"e1", "component:api", "platform:jobs", [.write, .read], some (.pattern none)⟩,
      .network ⟨"e2", "component:api", "platform:db", some 65535, none⟩,
      .config ⟨"e3", "component:api", "JOBS", .reference "platform:jobs" none⟩,
      .other ⟨"backup", "", [("weekly", .bool true),
        ("retention", .object [("days", .ofNat 30)])]⟩]
  graph := ⟨[⟨"platform:jobs", []⟩], []⟩

/-- It is read back from its own JSON, and the intent of another type keeps its fields. -/
theorem decode_json_uncommon :
    decode uncommonJson = .ok uncommon ∧ decode uncommon.json = .ok uncommon ∧
      uncommon.json ≠ uncommonJson ∧
      List.Forall₂ (fun x i => Intent.decode x = .ok i ∧ ∀ o, i = .other o → o.Keeps x)
        (intentValues uncommonJson) uncommon.intents := by
  have ok : decode uncommonJson = .ok uncommon := by rfl
  obtain ⟨reread, kept⟩ := decode_json_of_decode ok
  exact ⟨ok, reread, by decide, kept⟩

end Document

end CloudPlan
