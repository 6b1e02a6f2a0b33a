import ErrorBudget.Files.Tree
import ErrorBudget.Json.Reader
import ErrorBudget.Main
import ErrorBudget.Metrics
import ErrorBudget.Proofs.Alerting
import ErrorBudget.Proofs.Burn.Condition
import ErrorBudget.Proofs.Burn.Expression
import ErrorBudget.Proofs.Decimal.Literal
import ErrorBudget.Proofs.Decimal.Order
import ErrorBudget.Proofs.Generation.Acceptance
import ErrorBudget.Proofs.Generation.Faults
import ErrorBudget.Proofs.KeyMap
import ErrorBudget.Proofs.Query.Reader
import ErrorBudget.Proofs.Query.RoundTrip
import ErrorBudget.Proofs.Query.Scan
import ErrorBudget.Proofs.Recording
import ErrorBudget.Proofs.Tickets.Projection
import ErrorBudget.Proofs.Tickets.Stranding
import ErrorBudget.Proofs.ClassTable
import ErrorBudget.Proofs.Generation.Isolation
import ErrorBudget.Proofs.Recording.Complete
import ErrorBudget.Proofs.Recording.Coverage
import ErrorBudget.Proofs.Duration.Spelling
import ErrorBudget.Proofs.Duration.RoundTrip
import ErrorBudget.Proofs.Recording.CustomWindows
import ErrorBudget.Proofs.Metrics.Recorder
import ErrorBudget.Proofs.Metrics.AlertRules
import ErrorBudget.Proofs.Duration.Canonical
import ErrorBudget.Proofs.Duration.Grammar
import ErrorBudget.Proofs.Recording.Distinct
import ErrorBudget.Proofs.Alerting.Shape
import ErrorBudget.Proofs.Labels
import ErrorBudget.Proofs.Generation.Metadata
import ErrorBudget.Proofs.Document
import ErrorBudget.Proofs.RuleFile
import ErrorBudget.Proofs.RuleFile.Names
import ErrorBudget.Proofs.Report
import ErrorBudget.Proofs.Json
import ErrorBudget.Proofs.Report.Failures
import ErrorBudget.Proofs.Command.Texts
import ErrorBudget.Proofs.Command.Verdict
import ErrorBudget.Proofs.Settings.Load
import ErrorBudget.Proofs.Generation.Influence
import ErrorBudget.Proofs.Document.Load
import ErrorBudget.Proofs.Labels.Listing
import ErrorBudget.Proofs.Toml.Record
import ErrorBudget.Proofs.Settings.Precedence
import ErrorBudget.Proofs.Command.Options
import ErrorBudget.Proofs.Files.Tree
import ErrorBudget.Proofs.Command.Atomic
import ErrorBudget.Proofs.Burn.Partition
import ErrorBudget.Proofs.Decimal.Exact
import ErrorBudget.Proofs.Decimal.Significant
import ErrorBudget.Proofs.Decimal.Rounding
import ErrorBudget.Proofs.Decimal.Arithmetic
import ErrorBudget.Proofs.Query.Evaluation
import ErrorBudget.Proofs.Burn.LatencyThreshold
import ErrorBudget.Proofs.Burn.LatencyAlert
import ErrorBudget.Proofs.Burn.Registry
import ErrorBudget.Proofs.Generation.Methods
import ErrorBudget.Proofs.Metrics.Outcomes
import ErrorBudget.Proofs.Tree
import ErrorBudget.Proofs.Slo.Layout
import ErrorBudget.Proofs.RuleFile.Layout
import ErrorBudget.Proofs.RuleFile.Stream
import ErrorBudget.Proofs.Yaml.Lines
import ErrorBudget.Proofs.Template
import ErrorBudget.Proofs.Labels.Agreement
import ErrorBudget.Proofs.Labels.RoundTrip
import ErrorBudget.Proofs.Labels.Selector
import ErrorBudget.Proofs.Decimal.Precision
import ErrorBudget.Proofs.Decimal.Lossless
