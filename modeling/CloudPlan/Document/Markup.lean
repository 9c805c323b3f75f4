import CloudPlan.Document
import CloudPlan.Yaml.Decode
import CloudPlan.Yaml.Lexer

/-!
# Documents in YAML

`Document.ofYaml?` reads a document from YAML text. Texts of records may look like any scalar. An
intent is first read as a JSON value, whose scalars have types, and decoded from that.
-/

set_option autoImplicit false

namespace CloudPlan

open Yaml (Tree Decoding)

/-- How deep sequences and mappings may nest in a document. -/
def Document.nestingLimit : Nat := 128

namespace Config

/-- Stored code from YAML. -/
def storedCodeOfTree (tree : Tree) : Decoding StoredCode := do
  let es ← Decoding.fields StoredCode.type.fields tree
  return ⟨← Decoding.required es "bucket" Decoding.text, ← Decoding.required es "key" Decoding.text⟩

/-- Settings from YAML. -/
def ofTree (tree : Tree) : Decoding Config := do
  let es ← Decoding.fields type.fields tree
  return {
    region := ← Decoding.required es "region" Decoding.text
    serviceName := ← Decoding.required es "service_name" Decoding.text
    codePath := ← Decoding.optional es "code_path" Decoding.text
    codeStore := ← Decoding.optional es "code_s3" storedCodeOfTree }

end Config

namespace Graph

/-- Free-form properties from YAML, a mapping inside four other levels of a document. -/
def propertiesOfTree : Tree → Decoding (Entries Json) :=
  Decoding.keyed (Decoding.json (Document.nestingLimit - 5))

/-- A node from YAML. -/
def nodeOfTree (tree : Tree) : Decoding Node := do
  let es ← Decoding.fields Node.type.fields tree
  return {
    id := ← Decoding.required es "id" Decoding.text
    properties := ← Decoding.withDefault es "properties" propertiesOfTree [] }

/-- An edge from YAML. -/
def edgeOfTree (tree : Tree) : Decoding Edge := do
  let es ← Decoding.fields Edge.recordType.fields tree
  return {
    id := ← Decoding.required es "id" Decoding.text
    type := ← Decoding.required es "type" (Decoding.choice EdgeType.all)
    source := ← Decoding.required es "source" Decoding.text
    target := ← Decoding.required es "target" Decoding.text
    binding := ← Decoding.withDefault es "binding_config" propertiesOfTree [] }

/-- A graph from YAML. -/
def ofTree (tree : Tree) : Decoding Graph := do
  let es ← Decoding.fields type.fields tree
  return {
    nodes := ← Decoding.withDefault es "nodes" (Decoding.sequence nodeOfTree) []
    edges := ← Decoding.withDefault es "edges" (Decoding.sequence edgeOfTree) [] }

end Graph

/-- An intent from YAML, inside two other levels of a document. -/
def Intent.ofTree (tree : Tree) : Decoding Intent := do
  let value ← Decoding.json (Document.nestingLimit - 2) tree
  Decoding.ofOption (Intent.decode value).toOption

namespace Document

/-- A document from YAML. -/
def ofTree (tree : Tree) : Decoding Document := do
  let es ← Decoding.fields type.fields tree
  return {
    config := ← Decoding.required es "config" Config.ofTree
    intents := ← Decoding.withDefault es "intents" (Decoding.sequence Intent.ofTree) []
    graph := ← Decoding.withDefault es "graph" Graph.ofTree Graph.empty }

/-- The document in a YAML text, unless it is not well-formed or does not fit. -/
def ofYaml? (text : String) : Option Document := do
  let tokens ← Yaml.Token.scan text.toList
  let tree ← Tree.ofTokens? tokens
  tree.decode? ofTree

end Document

end CloudPlan
