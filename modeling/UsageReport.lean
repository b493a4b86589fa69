import UsageReport.Main
import UsageReport.Proofs.Capture.Agree
import UsageReport.Proofs.Capture.Cut
import UsageReport.Proofs.Capture.Flat
import UsageReport.Proofs.Capture.Loaded
import UsageReport.Proofs.Capture.Recovered
import UsageReport.Proofs.Capture.Truncated
import UsageReport.Proofs.Capture.Window
import UsageReport.Proofs.Chart.Granted
import UsageReport.Proofs.Chart.Margin
import UsageReport.Proofs.Chart.Request
import UsageReport.Proofs.Chart.Routing
import UsageReport.Proofs.Codec.Base64
import UsageReport.Proofs.Codec.Container
import UsageReport.Proofs.Codec.Separation
import UsageReport.Proofs.Codec.Wire
import UsageReport.Proofs.CommandLine.Path
import UsageReport.Proofs.CommandLine.Report
import UsageReport.Proofs.Decimal.Natural
import UsageReport.Proofs.Json.Comma
import UsageReport.Proofs.Json.Fields
import UsageReport.Proofs.Json.Flattened
import UsageReport.Proofs.Json.Place
import UsageReport.Proofs.Json.Plain
import UsageReport.Proofs.Json.Reader
import UsageReport.Proofs.Metric.Addressed
import UsageReport.Proofs.Metric.Busy
import UsageReport.Proofs.Metric.Curve
import UsageReport.Proofs.Metric.Devices
import UsageReport.Proofs.Metric.Discovery
import UsageReport.Proofs.Metric.Enumeration
import UsageReport.Proofs.Metric.Flow
import UsageReport.Proofs.Metric.Free
import UsageReport.Proofs.Metric.Headroom
import UsageReport.Proofs.Metric.Independence
import UsageReport.Proofs.Metric.Layout
import UsageReport.Proofs.Metric.Moments
import UsageReport.Proofs.Metric.Processes
import UsageReport.Proofs.Metric.Ranking
import UsageReport.Proofs.Metric.Runs
import UsageReport.Proofs.Metric.TaskCharts
import UsageReport.Proofs.Metric.Total
import UsageReport.Proofs.Metric.Truncation
import UsageReport.Proofs.Metric.Window
import UsageReport.Proofs.Number.Exact
import UsageReport.Proofs.Number.Level
import UsageReport.Proofs.Number.Nearest
import UsageReport.Proofs.Number.Order
import UsageReport.Proofs.Number.Packing
import UsageReport.Proofs.Number.Rounding
import UsageReport.Proofs.Number.TotalOrder
import UsageReport.Proofs.Report.Entered
import UsageReport.Proofs.Statistics.Layout
import UsageReport.Proofs.Statistics.Median
import UsageReport.Proofs.Statistics.Mode
import UsageReport.Proofs.Statistics.Summary
import UsageReport.Proofs.Statistics.Tally
import UsageReport.Proofs.Table.Blob
import UsageReport.Proofs.Table.Build
import UsageReport.Proofs.Table.Compact
import UsageReport.Proofs.Table.Shape
import UsageReport.Proofs.Table.Vectors
