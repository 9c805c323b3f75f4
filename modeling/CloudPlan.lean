import CloudPlan.Calendar
import CloudPlan.CommandLine.Command
import CloudPlan.CommandLine.Session
import CloudPlan.Config
import CloudPlan.Decimal.Binary64
import CloudPlan.Decimal.Shortest
import CloudPlan.Deploy.Classification
import CloudPlan.Deploy.Event
import CloudPlan.Deploy.EventLog
import CloudPlan.Deploy.Failure
import CloudPlan.Deploy.Run
import CloudPlan.Deploy.Script
import CloudPlan.Deploy.Stack
import CloudPlan.Deploy.Workspace
import CloudPlan.Diagnostic
import CloudPlan.Digest.Blake3
import CloudPlan.Document
import CloudPlan.Document.Markup
import CloudPlan.Entries
import CloudPlan.Files.Path
import CloudPlan.Files.Store
import CloudPlan.Graph
import CloudPlan.Intent.Basic
import CloudPlan.Intent.Wire
import CloudPlan.Json.Basic
import CloudPlan.Json.Decode
import CloudPlan.Json.Printer
import CloudPlan.Json.Reader
import CloudPlan.Json.Record
import CloudPlan.Link.LocalProvider
import CloudPlan.Link.Object
import CloudPlan.Link.Program
import CloudPlan.Link.Reference
import CloudPlan.Lowering.Access
import CloudPlan.Lowering.Adapter
import CloudPlan.Lowering.Compute
import CloudPlan.Lowering.Context
import CloudPlan.Lowering.Data
import CloudPlan.Lowering.Http
import CloudPlan.Lowering.Messaging
import CloudPlan.Lowering.Needs
import CloudPlan.Lowering.Parameters
import CloudPlan.Lowering.Registry
import CloudPlan.Main
import CloudPlan.Plan.Basic
import CloudPlan.Plan.Order
import CloudPlan.Platform
import CloudPlan.Resource.Basic
import CloudPlan.Resource.Kind
import CloudPlan.Text.Blank
import CloudPlan.Text.Cut
import CloudPlan.Text.Hex
import CloudPlan.Text.HiddenRanges
import CloudPlan.Text.Pattern
import CloudPlan.Text.Quoted
import CloudPlan.Text.Ranges
import CloudPlan.Text.Upper
import CloudPlan.Text.UpperRuns
import CloudPlan.Text.Word
import CloudPlan.Text.WordRanges
import CloudPlan.Value
import CloudPlan.Yaml.Cursor
import CloudPlan.Yaml.Decode
import CloudPlan.Yaml.Lexer
import CloudPlan.Yaml.Resolve
import CloudPlan.Yaml.Scalar
import CloudPlan.Yaml.Token
import CloudPlan.Yaml.Tree
import CloudPlan.Proofs.Entries
import CloudPlan.Proofs.Exploration
import CloudPlan.Proofs.RecursiveWalk
import CloudPlan.Proofs.ConstructionOrder
import CloudPlan.Proofs.Names
import CloudPlan.Proofs.Needs
import CloudPlan.Proofs.Pass
import CloudPlan.Proofs.Provenance
import CloudPlan.Proofs.Kinds
import CloudPlan.Proofs.Backing
import CloudPlan.Proofs.GrantedAccess
import CloudPlan.Proofs.LeastPrivilege
import CloudPlan.Proofs.Substitution
import CloudPlan.Proofs.Linking
import CloudPlan.Proofs.Targets
import CloudPlan.Proofs.Execution
import CloudPlan.Proofs.OrderedLinking
import CloudPlan.Proofs.KeptRelationships
import CloudPlan.Proofs.KeptNodes
import CloudPlan.Proofs.Rereading
import CloudPlan.Proofs.PlanRoundTrip
import CloudPlan.Proofs.TwoReadings
import CloudPlan.Proofs.CompactJson
import CloudPlan.Proofs.Fingerprint
import CloudPlan.Proofs.Occurrences
import CloudPlan.Proofs.LinkFaults
import CloudPlan.Proofs.PlanLayout
import CloudPlan.Proofs.FailStop
import CloudPlan.Proofs.ResourceMap
import CloudPlan.Proofs.FailingIntents
import CloudPlan.Proofs.IntentIsolation
import CloudPlan.Proofs.DottedNames
import CloudPlan.Proofs.PlanInput
import CloudPlan.Proofs.KeptParameters
import CloudPlan.Proofs.Environment
import CloudPlan.Proofs.Regions
import CloudPlan.Proofs.Preview
import CloudPlan.Proofs.Occupancy
import CloudPlan.Proofs.Contributions
import CloudPlan.Proofs.OtherNodes
import CloudPlan.Proofs.NodeOrder
import CloudPlan.Proofs.AddedNode
import CloudPlan.Proofs.Texts
import CloudPlan.Proofs.ArnMarks
import CloudPlan.Proofs.InventedArns
import CloudPlan.Proofs.LookupModes
import CloudPlan.Proofs.Records
import CloudPlan.Proofs.DocumentRoundTrip
import CloudPlan.Proofs.LogAppends
import CloudPlan.Proofs.RunProtocol
import CloudPlan.Proofs.CommandRuns
import CloudPlan.Proofs.PlanOutputs
import CloudPlan.Proofs.WrappedFailures
import CloudPlan.Proofs.SharedNames
import CloudPlan.Proofs.ParameterPaths
import CloudPlan.Proofs.RegistryRuns
import CloudPlan.Proofs.Validation
import CloudPlan.Proofs.GregorianCalendar
import CloudPlan.Proofs.Timestamps
import CloudPlan.Proofs.JsonReading
import CloudPlan.Proofs.LogReading
import CloudPlan.Proofs.Slugs
import CloudPlan.Proofs.NeedsIndex
import CloudPlan.Proofs.SuccessiveDays
