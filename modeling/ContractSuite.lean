import ContractSuite.Arguments
import ContractSuite.CommandLine
import ContractSuite.Config.Discovery
import ContractSuite.Config.Error
import ContractSuite.Config.File
import ContractSuite.Config.Literal
import ContractSuite.Config.Toml.Document
import ContractSuite.Config.Toml.Lexis
import ContractSuite.Config.Toml.Scalar
import ContractSuite.Config.Toml.Tree
import ContractSuite.Config.Value
import ContractSuite.Config.Variables
import ContractSuite.ContractClient
import ContractSuite.Decimal.Double
import ContractSuite.Decimal.Shortest
import ContractSuite.Digest.Hex
import ContractSuite.Digest.Sha256
import ContractSuite.Directive
import ContractSuite.Domain.Ascii
import ContractSuite.Domain.Composition
import ContractSuite.Domain.Direction
import ContractSuite.Domain.Joining
import ContractSuite.Domain.Mapping
import ContractSuite.Domain.Mark
import ContractSuite.Domain.Punycode
import ContractSuite.Domain.Table
import ContractSuite.Duration
import ContractSuite.Environment
import ContractSuite.EnvironmentScope
import ContractSuite.Error
import ContractSuite.Executor
import ContractSuite.FileTree.Basic
import ContractSuite.FileTree.Directory
import ContractSuite.FileTree.Reading
import ContractSuite.FileTree.Walk
import ContractSuite.Json.Number
import ContractSuite.Json.Quotation
import ContractSuite.Json.Reading
import ContractSuite.Json.Value
import ContractSuite.Log
import ContractSuite.Main
import ContractSuite.Network.Endpoint
import ContractSuite.Network.Ip
import ContractSuite.OsError
import ContractSuite.Path
import ContractSuite.Proofs.Act
import ContractSuite.Proofs.Plan
import ContractSuite.Rehearsal
import ContractSuite.Report
import ContractSuite.ReportLocation
import ContractSuite.Scan
import ContractSuite.Settings.Basic
import ContractSuite.Settings.Collaborators
import ContractSuite.Settings.Layers
import ContractSuite.Settings.Record
import ContractSuite.StandIn
import ContractSuite.Suite
import ContractSuite.Supervision.Readiness
import ContractSuite.Supervision.Wait
import ContractSuite.Text.Blank
import ContractSuite.Text.Digits
import ContractSuite.Text.Find
import ContractSuite.Text.FormEncoded
import ContractSuite.Text.Line
import ContractSuite.Text.Parts
import ContractSuite.Text.Percent
import ContractSuite.Text.Quoted
import ContractSuite.Text.Unprintable
import ContractSuite.Text.Utf8
import ContractSuite.Url.Basic
import ContractSuite.Url.Host
import ContractSuite.Url.Parser
import ContractSuite.World.Basic
import ContractSuite.World.Programs
import ContractSuite.World.ServerScript
import ContractSuite.Proofs.Exchange
import ContractSuite.Proofs.ScanTrace
import ContractSuite.Proofs.Expectations
import ContractSuite.Proofs.ServerRequests
import ContractSuite.Proofs.SuiteEvents
import ContractSuite.Proofs.ExitCode
import ContractSuite.Proofs.Names
import ContractSuite.Proofs.Counters
import ContractSuite.Proofs.Rendering
import ContractSuite.Proofs.Markers
import ContractSuite.Proofs.Statuses
import ContractSuite.Proofs.Composition
import ContractSuite.Proofs.Layout
import ContractSuite.Proofs.SettingKeys
import ContractSuite.Proofs.Layers
import ContractSuite.Proofs.FileChain
import ContractSuite.Proofs.Discovery
import ContractSuite.Proofs.VariableTexts
import ContractSuite.Proofs.ReachedStates
import ContractSuite.Proofs.Restoration
import ContractSuite.Proofs.Agreement
import ContractSuite.Proofs.StepProgram
import ContractSuite.Proofs.StepStarts
import ContractSuite.Proofs.AcceptedReports
import ContractSuite.Proofs.Recognition
import ContractSuite.Proofs.Padding
import ContractSuite.Proofs.ServerAddresses
import ContractSuite.Proofs.AcceptedAnswers
import ContractSuite.Proofs.ScenarioRuns
import ContractSuite.Proofs.BoundedWait
import ContractSuite.Proofs.ReadinessBudget
import ContractSuite.Proofs.ReportPlaces
import ContractSuite.Proofs.FileTree.Growth
import ContractSuite.Proofs.WrittenSettings
import ContractSuite.Proofs.Text.QuotedReading
import ContractSuite.Proofs.MalformedMessages
import ContractSuite.Sharing
import ContractSuite.Proofs.Sharing.Steps
import ContractSuite.Proofs.Sharing.Progress
import ContractSuite.Proofs.Sharing.Unwinding
import ContractSuite.Proofs.Sharing.Separation
import ContractSuite.Proofs.StandInRecord
import ContractSuite.Proofs.Path.LastName
import ContractSuite.Proofs.FileTree.FeatureFile
