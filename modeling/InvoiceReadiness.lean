import InvoiceReadiness.Text.Template
import InvoiceReadiness.Expression.Evaluation
import InvoiceReadiness.Text.Case
import InvoiceReadiness.Json.Reader
import InvoiceReadiness.Json.Writer
import InvoiceReadiness.Numeric.Tolerance
import InvoiceReadiness.Dataset.Finding
import InvoiceReadiness.Custom.Run
import InvoiceReadiness.Matching.Rank
import InvoiceReadiness.Matching.Investigation
import InvoiceReadiness.Baseline.Run
import InvoiceReadiness.Calendar.Iso
import InvoiceReadiness.Pint.Pack
import InvoiceReadiness.Severity
import InvoiceReadiness.Pint.Run
import InvoiceReadiness.Direction
import InvoiceReadiness.Scoring
import InvoiceReadiness.Registry.Coverage
import InvoiceReadiness.Traceability.Catalog
import InvoiceReadiness.Traceability.Readiness
import InvoiceReadiness.Traceability.Report
import InvoiceReadiness.Traceability.Consistency
import InvoiceReadiness.Service.Validation
import InvoiceReadiness.Service.Traceability
import InvoiceReadiness.Main
import InvoiceReadiness.Proofs.Expression.Inlining
import InvoiceReadiness.Proofs.Expression.Faults
import InvoiceReadiness.Proofs.Dataset.Joins
import InvoiceReadiness.Proofs.Numeric.Rounding
import InvoiceReadiness.Proofs.Expression.Amounts
import InvoiceReadiness.Proofs.Checks.HeaderTotals
import InvoiceReadiness.Proofs.Pint.Stamping
import InvoiceReadiness.Proofs.Traceability.Citations
import InvoiceReadiness.Proofs.Traceability.Failures
import InvoiceReadiness.Proofs.Traceability.Lookups
import InvoiceReadiness.Proofs.Traceability.Gaps
import InvoiceReadiness.Proofs.Traceability.Issues
import InvoiceReadiness.Proofs.Service.ExportGate
import InvoiceReadiness.Proofs.Text.Tables
import InvoiceReadiness.Proofs.Traceability.ReportText
import InvoiceReadiness.Proofs.Checks.Duplicates
import InvoiceReadiness.Proofs.Matching.EditDistance
import InvoiceReadiness.Proofs.Matching.Symmetry
import InvoiceReadiness.Proofs.Matching.Leads
import InvoiceReadiness.Proofs.Checks.Isolation
import InvoiceReadiness.Proofs.Json.Reading
import InvoiceReadiness.Proofs.Registry.Loading
import InvoiceReadiness.Proofs.Custom.Loading
import InvoiceReadiness.Proofs.Checks.Places
import InvoiceReadiness.Proofs.Pint.Places
import InvoiceReadiness.Proofs.Service.PassRate
import InvoiceReadiness.Proofs.Custom.Running
import InvoiceReadiness.Proofs.Checks.HeaderLines
import InvoiceReadiness.Proofs.Custom.Places
import InvoiceReadiness.Proofs.Custom.Ordering
import InvoiceReadiness.Proofs.Registry.Uses
import InvoiceReadiness.Proofs.Checks.Presence
import InvoiceReadiness.Proofs.Checks.Skipped
import InvoiceReadiness.Proofs.Checks.CreditNotes
import InvoiceReadiness.Proofs.Service.Summing
import InvoiceReadiness.Proofs.Matching.EditScripts
import InvoiceReadiness.Proofs.Registry.Repeats
import InvoiceReadiness.Proofs.Traceability.Passing
import InvoiceReadiness.Proofs.Traceability.Populations
import InvoiceReadiness.Proofs.Traceability.Templates
import InvoiceReadiness.Proofs.Custom.Groups
import InvoiceReadiness.Proofs.Matching.Ranking
import InvoiceReadiness.Proofs.Numeric.Ordering
import InvoiceReadiness.Proofs.Numeric.Padding
import InvoiceReadiness.Proofs.Checks.Tolerances
import InvoiceReadiness.Proofs.Expression.Comparisons
import InvoiceReadiness.Proofs.Custom.Operators
import InvoiceReadiness.Proofs.Matching.Scores
import InvoiceReadiness.Proofs.Matching.Placeholders
import InvoiceReadiness.Proofs.Matching.Confidence
import InvoiceReadiness.Proofs.Matching.Positions
import InvoiceReadiness.Proofs.Matching.Redating
import InvoiceReadiness.Proofs.Custom.Locality
import InvoiceReadiness.Proofs.Checks.VatRates
import InvoiceReadiness.Proofs.Pint.Currencies
import InvoiceReadiness.Proofs.Pattern.Shapes
import InvoiceReadiness.Proofs.Text.IsoDates
import InvoiceReadiness.Proofs.Pint.IssueDates
import InvoiceReadiness.Proofs.Numeric.Nearness
import InvoiceReadiness.Proofs.Numeric.Shortest
import InvoiceReadiness.Proofs.Numeric.DecimalReading
import InvoiceReadiness.Proofs.Pint.ShownPlaces
import InvoiceReadiness.Proofs.Pint.DecimalPlaces
import InvoiceReadiness.Proofs.Checks.TrnFormats
import InvoiceReadiness.Proofs.Numeric.Shares
import InvoiceReadiness.Proofs.Registry.Partition
import InvoiceReadiness.Proofs.Scoring.Severities
import InvoiceReadiness.Proofs.Scoring.Health
import InvoiceReadiness.Proofs.Scoring.Laws
import InvoiceReadiness.Proofs.Scoring.Sellers
import InvoiceReadiness.Proofs.Expression.Quoting
import InvoiceReadiness.Proofs.Text.Filling
import InvoiceReadiness.Proofs.Traceability.Readiness
import InvoiceReadiness.Proofs.Value.Joining
import InvoiceReadiness.Proofs.Traceability.MandatoryColumns
