import CloudPlan.Intent.Basic
import CloudPlan.Json.Record

/-!
# Intents in JSON

The entry `type` of an object tells the kind of intent. Scopes and value sources carry their kind in
the entry `kind`, or as the first item of an array. An intent of another type keeps all its entries.
-/

set_option autoImplicit false

namespace CloudPlan

/-- A kind of a tagged value: its name, how messages name it, and its fields. -/
structure TaggedKind (α : Type) where
  name : String
  type : RecordType
  read : Record → Fields α

/-- A type of tagged values. -/
structure TaggedType (α : Type) where
  title : String
  kinds : List (TaggedKind α)

namespace TaggedType

variable {α : Type}

/-- The kind that a tag stands for: its name, or its position. -/
def kindOf (type : TaggedType α) : Decoder (TaggedKind α)
  | .string name => Json.named (type.kinds.map fun kind => (kind.name, kind)) name
  | .number (.int i) =>
    if i < 0 then .error (.wrongType (.int i) "variant identifier")
    else
      match type.kinds[i.toNat]? with
      | some kind => .ok kind
      | none =>
        .error (.wrongValue (.int i)
          ("variant index 0 <= i < " ++ toString type.kinds.length))
  | j => Json.notA "variant identifier" j

/-- A tagged value: an object with its tag under `kind`, or an array that starts with the tag. -/
def decode (type : TaggedType α) : Decoder α
  | .object entries =>
    match Entries.get? entries "kind" with
    | none => .error (.missingField "kind")
    | some tag => do
      let kind ← type.kindOf tag
      Json.nestedRecord kind.type kind.read (.object (Entries.erase entries "kind"))
  | .array [] => .error (.missingField "kind")
  | .array (tag :: items) => do
    let kind ← type.kindOf tag
    Json.nestedRecord kind.type kind.read (.array items)
  | j => Json.notA ("internally tagged enum " ++ type.title) j

end TaggedType

namespace AccessScope

/-- The kinds of scopes. -/
def type : TaggedType AccessScope where
  title := "AccessScope"
  kinds :=
    [⟨"specific", ⟨"unit variant AccessScope::Specific", []⟩, fun _ => .read .specific⟩,
     ⟨"pattern", ⟨"struct variant AccessScope::Pattern", ["pattern"]⟩,
       fun r => pattern <$> r.optional "pattern" Json.text⟩]

/-- A scope as JSON. -/
def json : AccessScope → Json
  | .specific => .object [("kind", .string "specific")]
  | .pattern p => .object [("kind", .string "pattern"), ("pattern", Json.ofString? p)]

end AccessScope

namespace ValueSource

/-- The kinds of value sources. -/
def type : TaggedType ValueSource where
  title := "ValueSource"
  kinds :=
    [⟨"literal", ⟨"struct variant ValueSource::Literal", ["value"]⟩,
       fun r => literal <$> r.required "value" Json.text⟩,
     ⟨"reference", ⟨"struct variant ValueSource::Reference", ["node", "field"]⟩,
       fun r => reference <$> r.required "node" Json.text <*> r.optional "field" Json.text⟩,
     ⟨"secret", ⟨"struct variant ValueSource::Secret", ["name"]⟩,
       fun r => secret <$> r.required "name" Json.text⟩]

/-- A value source as JSON. -/
def json : ValueSource → Json
  | .literal v => .object [("kind", .string "literal"), ("value", .string v)]
  | .reference node field =>
    .object [("kind", .string "reference"), ("node", .string node),
      ("field", Json.ofString? field)]
  | .secret name => .object [("kind", .string "secret"), ("name", .string name)]

end ValueSource

namespace AccessIntent

/-- The record type of access intents. -/
def type : RecordType :=
  ⟨"struct IdentityAccessIntent",
    ["source_edge_id", "principal", "resource", "actions", "scope"]⟩

/-- An access intent from JSON. -/
def decode : Decoder AccessIntent :=
  Json.nestedRecord type fun r =>
    mk <$> r.required "source_edge_id" Json.text <*> r.required "principal" Json.text
      <*> r.required "resource" Json.text
      <*> r.required "actions" (Json.sequence (Json.choice AccessLevel.all true))
      <*> r.optional "scope" AccessScope.type.decode

/-- The entries of an access intent. -/
def entries (i : AccessIntent) : Entries Json :=
  [("source_edge_id", .string i.edge), ("principal", .string i.principal),
    ("resource", .string i.resource), ("actions", Json.ofStrings (i.levels.map AccessLevel.name)),
    ("scope", (i.scope.map AccessScope.json).getD .null)]

end AccessIntent

namespace NetworkIntent

/-- The record type of network intents. -/
def type : RecordType :=
  ⟨"struct NetworkIntent", ["source_edge_id", "source", "target", "port", "protocol"]⟩

/-- A network intent from JSON. -/
def decode : Decoder NetworkIntent :=
  Json.nestedRecord type fun r =>
    mk <$> r.required "source_edge_id" Json.text <*> r.required "source" Json.text
      <*> r.required "target" Json.text <*> r.optional "port" Json.nat16
      <*> r.optional "protocol" Json.text

/-- The entries of a network intent. -/
def entries (i : NetworkIntent) : Entries Json :=
  [("source_edge_id", .string i.edge), ("source", .string i.source), ("target", .string i.target),
    ("port", (i.port.map Json.ofNat).getD .null), ("protocol", Json.ofString? i.protocol)]

end NetworkIntent

namespace ConfigIntent

/-- The record type of config intents. -/
def type : RecordType :=
  ⟨"struct ConfigIntent", ["source_edge_id", "target", "key", "value_source"]⟩

/-- A config intent from JSON. -/
def decode : Decoder ConfigIntent :=
  Json.nestedRecord type fun r =>
    mk <$> r.required "source_edge_id" Json.text <*> r.required "target" Json.text
      <*> r.required "key" Json.text <*> r.required "value_source" ValueSource.type.decode

/-- The entries of a config intent. -/
def entries (i : ConfigIntent) : Entries Json :=
  [("source_edge_id", .string i.edge), ("target", .string i.target), ("key", .string i.key),
    ("value_source", i.source.json)]

end ConfigIntent

namespace TelemetryIntent

/-- The record type of telemetry intents. -/
def type : RecordType :=
  ⟨"struct TelemetryIntent", ["source_edge_id", "target"]⟩

/-- A telemetry intent from JSON. -/
def decode : Decoder TelemetryIntent :=
  Json.nestedRecord type fun r =>
    mk <$> r.required "source_edge_id" Json.text <*> r.optional "target" Json.text

/-- The entries of a telemetry intent. -/
def entries (i : TelemetryIntent) : Entries Json :=
  [("source_edge_id", .string i.edge), ("target", Json.ofString? i.target)]

end TelemetryIntent

namespace OtherIntent

/-- An intent of a type without a model, from the entries of its object. -/
def decode (typeName : String) (entries : Entries Json) : Except DecodeError OtherIntent :=
  let fields := Entries.erase (Entries.erase entries "type") "source_edge_id"
  match Entries.get? entries "source_edge_id" with
  | none => .ok ⟨typeName, "", fields⟩
  | some j => (Json.text j).map fun edge => ⟨typeName, edge, fields⟩

/-- The entries of such an intent. -/
def entries (i : OtherIntent) : Entries Json :=
  ("type", .string i.typeName) :: ("source_edge_id", .string i.edge) :: i.fields

end OtherIntent

namespace Intent

/-- An intent from JSON. -/
def decode (j : Json) : Except DecodeError Intent :=
  match j with
  | .object entries =>
    match Entries.get? entries "type" with
    | none => .error (.missingField "type")
    | some (.string "identity-access") => access <$> AccessIntent.decode j
    | some (.string "network") => network <$> NetworkIntent.decode j
    | some (.string "config") => config <$> ConfigIntent.decode j
    | some (.string "telemetry") => telemetry <$> TelemetryIntent.decode j
    | some (.string name) => other <$> OtherIntent.decode name entries
    | some tag => .error (.tagNotText tag)
  | _ => .error (.missingField "type")

/-- An intent as JSON. -/
def json (intent : Intent) : Json :=
  let tagged (entries : Entries Json) : Json :=
    .object (("type", .string intent.kind.name) :: entries)
  match intent with
  | .access i => tagged i.entries
  | .network i => tagged i.entries
  | .config i => tagged i.entries
  | .telemetry i => tagged i.entries
  | .other i => .object i.entries

end Intent

end CloudPlan
