import SpringAtlas.Log.Message
import SpringAtlas.Main
import SpringAtlas.Proofs.Analysis.Integrity
import SpringAtlas.Proofs.Fact.Extract
import SpringAtlas.Proofs.Finding.Scan
import SpringAtlas.Proofs.Flow.Graph
import SpringAtlas.Proofs.Module.Map
import SpringAtlas.Proofs.Relation.Fallback
import SpringAtlas.Proofs.Relation.Soundness
import SpringAtlas.Proofs.Source.LineBreaks
import SpringAtlas.Proofs.Source.Mask
import SpringAtlas.Proofs.Metrics.Packages
import SpringAtlas.Proofs.Decimal.Size
import SpringAtlas.Proofs.Metrics.Completion
import SpringAtlas.Proofs.Pattern.Run
import SpringAtlas.Proofs.Pattern.Search
import SpringAtlas.Proofs.Fact.Layout
import SpringAtlas.Proofs.Fact.Mapping
import SpringAtlas.Proofs.Fact.Controller
import SpringAtlas.Proofs.Settings.Entries
import SpringAtlas.Proofs.Settings.Gateway
import SpringAtlas.Proofs.Flow.Layering
import SpringAtlas.Proofs.Corpus.Distinct
import SpringAtlas.Proofs.Module.Discovery
import SpringAtlas.Proofs.Module.Completion
import SpringAtlas.Proofs.Module.Counts
import SpringAtlas.Proofs.Settings.Precedence
import SpringAtlas.Proofs.Pattern.Capture
import SpringAtlas.Proofs.Relation.Modular
import SpringAtlas.Proofs.Fact.Completion
import SpringAtlas.Proofs.Relation.Masked
import SpringAtlas.Proofs.Link.Comments
import SpringAtlas.Proofs.Source.Quoted
import SpringAtlas.Proofs.Fact.Comments
import SpringAtlas.Proofs.Corpus.Rebuild
import SpringAtlas.Proofs.Module.Messages
import SpringAtlas.Proofs.Pattern.Occurrence
import SpringAtlas.Proofs.Module.Capabilities
import SpringAtlas.Proofs.Report.Table
import SpringAtlas.Proofs.Report.Blocks
import SpringAtlas.Proofs.Report.Values
import SpringAtlas.Proofs.Report.Columns
import SpringAtlas.Proofs.Flow.Paths
import SpringAtlas.Proofs.Finding.Schedule
import SpringAtlas.Proofs.Fact.Paths
import SpringAtlas.Proofs.Fact.PathExtent
import SpringAtlas.Proofs.Source.Pieces
import SpringAtlas.Proofs.Source.Escapes
import SpringAtlas.Proofs.Source.Expression
import SpringAtlas.Proofs.Source.ArgumentList
import SpringAtlas.Proofs.Settings.Properties
import SpringAtlas.Proofs.Source.Declaration
import SpringAtlas.Proofs.Source.Clause
import SpringAtlas.Proofs.Source.Header
import SpringAtlas.Proofs.Source.Generics
import SpringAtlas.Proofs.Text.Words
import SpringAtlas.Proofs.Settings.Continuation
import SpringAtlas.Proofs.Settings.LogicalLines
import SpringAtlas.Proofs.Finding.Authorization
import SpringAtlas.Proofs.Settings.Leaves
import SpringAtlas.Proofs.Text.Breaks
import SpringAtlas.Proofs.Metrics.Lines
import SpringAtlas.Proofs.Metrics.Prefixes
import SpringAtlas.Proofs.Config.Environment
import SpringAtlas.Proofs.Config.Validation
import SpringAtlas.Proofs.Sorting
import SpringAtlas.Proofs.Analysis.Summary
import SpringAtlas.Proofs.Metrics.Declarations
import SpringAtlas.Proofs.Build.Artifacts
import SpringAtlas.Proofs.Pattern.Replace
import SpringAtlas.Proofs.Source.Splitting
import SpringAtlas.Proofs.Source.Nesting
import SpringAtlas.Proofs.Source.Parameters
import SpringAtlas.Proofs.Source.Brackets
import SpringAtlas.Proofs.Source.Stripping
