import ApkReport.Journal.Registry
import ApkReport.Json.Reader
import ApkReport.Main
import ApkReport.Proofs.Dex.Match
import ApkReport.Proofs.Archive.Opening
import ApkReport.Proofs.Dex.Scan
import ApkReport.Proofs.Archive.Own
import ApkReport.Proofs.FileSystem.Path
import ApkReport.Proofs.FileSystem.Place
import ApkReport.Proofs.FileSystem.Fresh
import ApkReport.Proofs.Inspection.TempDirectory
import ApkReport.Proofs.Bundle.Extraction
import ApkReport.Proofs.Bundle.Selection
import ApkReport.Proofs.Inspection.Cleanup
import ApkReport.Proofs.Inspection.Package
import ApkReport.Proofs.Inspection.Transparency
import ApkReport.Proofs.Inspection.Renumbering
import ApkReport.Proofs.CommandLine.Isolation
import ApkReport.Proofs.Manifest.FirstQueries
import ApkReport.Proofs.Manifest.Views
import ApkReport.Proofs.Archive.Refusal
import ApkReport.Proofs.Archive.MemberFailure
import ApkReport.Proofs.Archive.ReadBack
import ApkReport.Proofs.FileSystem.Writing
import ApkReport.Proofs.CommandLine.Configuration
import ApkReport.Proofs.Report.Saving
import ApkReport.Proofs.Json.ReadBack
import ApkReport.Proofs.Report.Items
import ApkReport.Proofs.CommandLine.Reports
import ApkReport.Proofs.CommandLine.Indifference
import ApkReport.Proofs.Manifest.Reading
import ApkReport.Proofs.Report.Cells
import ApkReport.Proofs.Report.CsvReading
import ApkReport.Proofs.Report.Lossless
import ApkReport.Proofs.Report.TextReading
import ApkReport.Proofs.Report.SummaryReading
import ApkReport.Proofs.Inspection.Normalisation
import ApkReport.Proofs.Manifest.Skeleton
import ApkReport.Proofs.Config.Loading
import ApkReport.Proofs.Archive.Decoding
import ApkReport.Proofs.Archive.Portions
import ApkReport.Proofs.Bundle.ReadPaths
import ApkReport.Proofs.Deflate.Copies
import ApkReport.Proofs.Archive.Shortage
import ApkReport.Proofs.Journal.History
import ApkReport.Proofs.Yaml.Keys
import ApkReport.Proofs.Config.Overrides
import ApkReport.Proofs.Config.FlatDocument
import ApkReport.Proofs.CommandLine.Options
import ApkReport.Proofs.CommandLine.Layers
import ApkReport.Proofs.CommandLine.Reading
import ApkReport.Proofs.CommandLine.Exit
import ApkReport.Proofs.Bundle.EntryName
import ApkReport.Proofs.FileKind
import ApkReport.Proofs.Manifest.Summary
import ApkReport.Proofs.Journal.Lines
import ApkReport.Proofs.Journal.FailedSetup
