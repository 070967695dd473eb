import PluginFlow.Admission
import PluginFlow.Asset
import PluginFlow.Audit.Event
import PluginFlow.Audit.Journal
import PluginFlow.Audit.Store
import PluginFlow.Capability
import PluginFlow.Catalog.Builtin
import PluginFlow.Catalog.Form
import PluginFlow.Catalog.Spec
import PluginFlow.CommandLine.Arguments
import PluginFlow.CommandLine.Filter
import PluginFlow.CommandLine.LogLine
import PluginFlow.CommandLine.Program
import PluginFlow.CommandLine.Report
import PluginFlow.CommandLine.Timestamp
import PluginFlow.Condition
import PluginFlow.Config.Form
import PluginFlow.Config.Settings
import PluginFlow.Digest.Blake3
import PluginFlow.Discovery
import PluginFlow.Dispatch
import PluginFlow.Effect
import PluginFlow.Engine
import PluginFlow.Files.Basic
import PluginFlow.Files.Tree
import PluginFlow.Flow.Definition
import PluginFlow.Flow.Form
import PluginFlow.Json.Document
import PluginFlow.Json.Draft
import PluginFlow.Json.Fault
import PluginFlow.Json.Numeral
import PluginFlow.Json.Reader
import PluginFlow.KeyMap
import PluginFlow.Loader
import PluginFlow.Log
import PluginFlow.Net.Address
import PluginFlow.Net.Host
import PluginFlow.Net.Idna
import PluginFlow.Net.Idna.Label
import PluginFlow.Net.Idna.Mapping
import PluginFlow.Net.Policy
import PluginFlow.Net.Punycode
import PluginFlow.Net.Sandbox
import PluginFlow.Net.Url
import PluginFlow.Node.Display
import PluginFlow.Node.Kind
import PluginFlow.Node.Remote
import PluginFlow.Node.Rows
import PluginFlow.Node.Script
import PluginFlow.Node.Turn
import PluginFlow.Number.Basic
import PluginFlow.Number.Layout
import PluginFlow.Number.Numeral
import PluginFlow.Number.Shortest
import PluginFlow.Redaction
import PluginFlow.Reference
import PluginFlow.Run.Context
import PluginFlow.Run.Fault
import PluginFlow.Run.Form
import PluginFlow.Run.History
import PluginFlow.Template
import PluginFlow.Text.Ascii
import PluginFlow.Text.Base64
import PluginFlow.Text.Blank
import PluginFlow.Text.Composition
import PluginFlow.Text.Hidden
import PluginFlow.Text.Packed
import PluginFlow.Text.Quoted
import PluginFlow.Text.Utf8
import PluginFlow.Validation
import PluginFlow.Value
import PluginFlow.Value.Form
import PluginFlow.Main
import PluginFlow.Proofs.Accepted
import PluginFlow.Proofs.Completion
import PluginFlow.Proofs.Confinement
import PluginFlow.Proofs.Mediation
import PluginFlow.Proofs.NodePlans
import PluginFlow.Proofs.Plan
import PluginFlow.Proofs.Refinement
import PluginFlow.Proofs.Run
import PluginFlow.Proofs.Scripts
import PluginFlow.Proofs.Session
import PluginFlow.Proofs.Url
import PluginFlow.Proofs.Walk
import PluginFlow.Proofs.Admission
import PluginFlow.Proofs.Trail
import PluginFlow.Proofs.Redaction
import PluginFlow.Proofs.Template
import PluginFlow.Proofs.References
import PluginFlow.Proofs.AddressText
import PluginFlow.Proofs.HostText
import PluginFlow.Proofs.Blocks
import PluginFlow.Proofs.Policy
import PluginFlow.Proofs.Atomicity
import PluginFlow.Proofs.Findings
import PluginFlow.Proofs.Subjects
import PluginFlow.Proofs.PlainTexts
import PluginFlow.Proofs.StepBudget
import PluginFlow.Proofs.Changes
import PluginFlow.Proofs.TrailGrammar
import PluginFlow.Proofs.Rounding
import PluginFlow.Proofs.ShortestDecimal
import PluginFlow.Proofs.NumeralText
import PluginFlow.Proofs.NumeralValue
import PluginFlow.Proofs.QuoteText
import PluginFlow.Proofs.JsonText
import PluginFlow.Proofs.Readers
import PluginFlow.Proofs.Reload
import PluginFlow.Proofs.Forms
import PluginFlow.Proofs.Passive
import PluginFlow.Proofs.Reachable
import PluginFlow.Proofs.ShownTexts
import PluginFlow.Proofs.Bookkeeping
import PluginFlow.Proofs.Records
import PluginFlow.Proofs.SoundSettings
import PluginFlow.Proofs.Markers
import PluginFlow.Proofs.TemplateCut
import PluginFlow.Proofs.Base64Reading
import PluginFlow.Proofs.Frame
import PluginFlow.Proofs.Sentinels
import PluginFlow.Proofs.CatalogForm
import PluginFlow.Proofs.RowByRow
import PluginFlow.Proofs.RedactedDiff
import PluginFlow.Proofs.NumericParams
import PluginFlow.Proofs.Rerendering
import PluginFlow.Proofs.Cutoff
import PluginFlow.Proofs.RepairedText
import PluginFlow.Proofs.Beginnings
import PluginFlow.Proofs.PingedHosts
import PluginFlow.Proofs.AssetPaths
import PluginFlow.Proofs.DecimalReading
import PluginFlow.Proofs.ConditionEquality
import PluginFlow.Proofs.Scanning
import PluginFlow.Proofs.DocumentReading
import PluginFlow.Proofs.FileTrees
import PluginFlow.Proofs.LogLines
