import SnortOptimizer.Machine.Basic
import SnortOptimizer.Machine.Exclusive
import SnortOptimizer.Machine.ReadModifyWrite
import SnortOptimizer.Machine.Flags
import SnortOptimizer.Counting.Basic
import SnortOptimizer.Table.Basic
import SnortOptimizer.Path.Basic
import SnortOptimizer.Path.Names
import SnortOptimizer.Number.Binary64
import SnortOptimizer.Number.ParseFloat
import SnortOptimizer.Text.Basic
import SnortOptimizer.Text.Lines
import SnortOptimizer.Text.Columns
import SnortOptimizer.Text.Search
import SnortOptimizer.Time.Layout
import SnortOptimizer.Time.Calendar
import SnortOptimizer.Time.Stamp
import SnortOptimizer.Time.Windows
import SnortOptimizer.Time.InvertedWindows
import SnortOptimizer.Sql.Lexer
import SnortOptimizer.Sql.Script
import SnortOptimizer.Sql.Like
import SnortOptimizer.Alerts.Import
import SnortOptimizer.Alerts.Tailer
import SnortOptimizer.Alerts.Incremental
import SnortOptimizer.Rules.Parser
import SnortOptimizer.Rules.Options
import SnortOptimizer.Rules.Identity
import SnortOptimizer.Rules.Store
import SnortOptimizer.Rules.Import
import SnortOptimizer.Analyser.WorkDir
import SnortOptimizer.Analyser.Flow
import SnortOptimizer.Analyser.FlowLoad
import SnortOptimizer.Analyser.FlowMatch
import SnortOptimizer.Analyser.Packet
import SnortOptimizer.Analyser.AlertMatching
import SnortOptimizer.Analyser.Evaluation
import SnortOptimizer.Analyser.Rules
import SnortOptimizer.Analyser.Trim
import SnortOptimizer.Analyser.Merging
import SnortOptimizer.Analyser.Scheduler
import SnortOptimizer.Analyser.Search
import SnortOptimizer.Analyser.Statistics
import SnortOptimizer.Analyser.RunIDs
import SnortOptimizer.Analyser.Adversary
import SnortOptimizer.Analyser.Accounting
import SnortOptimizer.Analyser.RunCount
import SnortOptimizer.Analyser.Drift
import SnortOptimizer.Analyser.StoreWrites
import SnortOptimizer.Analyser.Leftovers
import SnortOptimizer.Analyser.SafeStrategies
import SnortOptimizer.Analyser.InactiveServices
import SnortOptimizer.Analyser.FlowbitsText
import SnortOptimizer.Analyser.OrphanFlowbits
import SnortOptimizer.Analyser.SafeFlowbits
import SnortOptimizer.Sorting.Ties
import SnortOptimizer.Analyser.IterStrategies
import SnortOptimizer.Analyser.ProtocolOverlap
import SnortOptimizer.Extractor.Index
import SnortOptimizer.Extractor.Agreement
import SnortOptimizer.Extractor.Lookup
import SnortOptimizer.Profiler.RuleProfile
import SnortOptimizer.Profiler.MetricLine
import SnortOptimizer.Profiler.Report
import SnortOptimizer.Profiler.Blocks
import SnortOptimizer.Profiler.Headings
import SnortOptimizer.Runner.Basic
import SnortOptimizer.Runner.Tracking
import SnortOptimizer.Runner.SystemProfile
import SnortOptimizer.Runner.InstanceRun
import SnortOptimizer.Analyser.CompleteRuns
import SnortOptimizer.Server.SnortControl
import SnortOptimizer.Server.AnalysisJobs
import SnortOptimizer.Server.FinishedJobs
import SnortOptimizer.Time.TextOrder
import SnortOptimizer.Server.JobStore
import SnortOptimizer.Server.AnalysisResult
import SnortOptimizer.Server.Progress
import SnortOptimizer.Server.Recommendations
import SnortOptimizer.Server.CaptureName
import SnortOptimizer.Server.CapturePerf
import SnortOptimizer.Server.CopyRules
import SnortOptimizer.Server.ProductionRules
import SnortOptimizer.Sql.Listing
import SnortOptimizer.Sql.StoredIntegers
import SnortOptimizer.Server.TextFilters
import SnortOptimizer.Machine.Effects
import SnortOptimizer.Sql.Database
import SnortOptimizer.Sql.Schema
import SnortOptimizer.Sql.Stores
import SnortOptimizer.Sql.SchemaRuns
import SnortOptimizer.Sql.SchemaColumns
import SnortOptimizer.Server.Settings
import SnortOptimizer.Server.ApplyAnalysis
import SnortOptimizer.Sql.Outcomes
import SnortOptimizer.Server.RuleStatements
import SnortOptimizer.Server.SavedSettings
import SnortOptimizer.Server.NeedsRestart
import SnortOptimizer.Server.LuaPresets
import SnortOptimizer.Series.Gaps
import SnortOptimizer.FlowMeter.Packet
import SnortOptimizer.FlowMeter.Flow
import SnortOptimizer.FlowMeter.Generator
import SnortOptimizer.FlowMeter.Runs
import SnortOptimizer.FlowMeter.Conservation
import SnortOptimizer.FlowMeter.Conversations
import SnortOptimizer.FlowMeter.Closing
import SnortOptimizer.FlowMeter.Timeline
import SnortOptimizer.FlowMeter.Features
import SnortOptimizer.FlowMeter.Activity
import SnortOptimizer.FlowMeter.Bulk
import SnortOptimizer.Extractor.Extraction
import SnortOptimizer.FlowMeter.Export
import SnortOptimizer.Convert.Columns
import SnortOptimizer.Convert.FlowTable
import SnortOptimizer.Text.Json
import SnortOptimizer.Alerts.JsonLine
import SnortOptimizer.Alerts.Loaded
import SnortOptimizer.Profiler.ModuleTree
import SnortOptimizer.Profiler.ModuleProfile
