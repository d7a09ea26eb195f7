import BenchReport.Main
import BenchReport.Results.Synthetic
import BenchReport.Proofs.Markdown.Account
import BenchReport.Proofs.Report.Accounting
import BenchReport.Proofs.Report.BaseSource
import BenchReport.Proofs.Report.MissingBase
import BenchReport.Proofs.Settings.Overrides
import BenchReport.Proofs.Source.CurrentRun
import BenchReport.Proofs.Source.RunLog
import BenchReport.Proofs.Feed.Numbers
import BenchReport.Proofs.Source.Timing
import BenchReport.Proofs.Chart.DrawingOrder
import BenchReport.Proofs.Delta.Threshold
import BenchReport.Proofs.Panel.Regrouping
import BenchReport.Proofs.Results.Reunion
import BenchReport.Proofs.Delta.Locality
import BenchReport.Proofs.Feed.Agreement
import BenchReport.Proofs.Chart.Listing
import BenchReport.Proofs.Chart.Image
import BenchReport.Proofs.Markdown.Reordering
import BenchReport.Proofs.Source.Separation
import BenchReport.Proofs.CommandLine.Precedence
import BenchReport.Proofs.Chart.Categories
import BenchReport.Proofs.Chart.Scale
