import BenchCharts.Text.Blank
import BenchCharts.Text.Identifier
import BenchCharts.Text.Lines
import BenchCharts.Text.Quoted
import BenchCharts.Decimal.Fixed
import BenchCharts.Decimal.NumberForm
import BenchCharts.Decimal.Numeral
import BenchCharts.Series.Stats
import BenchCharts.SortedMap
import BenchCharts.Style.Entry
import BenchCharts.Csv
import BenchCharts.Files.Tree
import BenchCharts.Results.Layout
import BenchCharts.Series.Point
import BenchCharts.Series.Recovery
import BenchCharts.Series.SizeBuckets
import BenchCharts.Series.ThreadRange
import BenchCharts.Canvas.TickLabel
import BenchCharts.Geometry.Extent
import BenchCharts.Geometry.Hatching
import BenchCharts.Geometry.Outline
import BenchCharts.Yaml.BlockScalar
import BenchCharts.Yaml.Scalar
import BenchCharts.Yaml.Token
import BenchCharts.Yaml.Node
import BenchCharts.Format.Value
import BenchCharts.Yaml.Reading
import BenchCharts.Series.Sweep
import BenchCharts.Json.Reading
import BenchCharts.Json.Writing
import BenchCharts.Yaml.Writing
import BenchCharts.Chart.Document
import BenchCharts.CommandLine.BenchFigures
import BenchCharts.CommandLine.LogSizeMonitor
import BenchCharts.Config.File
import BenchCharts.Figure.Rendering
import BenchCharts.Figure.Summary
import BenchCharts.Proofs.Format.Records
import BenchCharts.Proofs.Results.Loading
import BenchCharts.Proofs.Series.Accounting
import BenchCharts.Proofs.Series.Exclusion
import BenchCharts.Proofs.Series.SizeRuns
import BenchCharts.Proofs.Series.Timeline
import BenchCharts.Proofs.Traversal
import BenchCharts.Proofs.Figure.Drawing
import BenchCharts.Proofs.Figure.Styles
import BenchCharts.Proofs.Files.Directories
import BenchCharts.Proofs.Files.Parallel
import BenchCharts.Proofs.Files.Reading
import BenchCharts.Proofs.Chart.Writing
import BenchCharts.Proofs.Figure.Records
import BenchCharts.Proofs.Figure.Independence
import BenchCharts.Proofs.Chart.Labels
import BenchCharts.Proofs.Decimal.Truncation
import BenchCharts.Proofs.Figure.Limits
import BenchCharts.Proofs.Figure.Detour
import BenchCharts.Proofs.LogSize.Watching
import BenchCharts.Proofs.Csv
import BenchCharts.Proofs.Results.Damage
import BenchCharts.Proofs.Decimal.Digits
import BenchCharts.Proofs.Decimal.Words
import BenchCharts.Proofs.Results.Durations
import BenchCharts.Proofs.Yaml.Characters
import BenchCharts.Proofs.Yaml.Literal
import BenchCharts.Proofs.Yaml.Plain
import BenchCharts.Proofs.Yaml.Quoted
import BenchCharts.Proofs.Yaml.Scalars
import BenchCharts.Proofs.Yaml.Texts
import BenchCharts.Proofs.Yaml.Marks
import BenchCharts.Proofs.Yaml.Tokens
import BenchCharts.Proofs.Yaml.Parsing
import BenchCharts.Proofs.Format.Rendering
import BenchCharts.Proofs.Yaml.Rendering
import BenchCharts.Proofs.Config.Saving
import BenchCharts.Proofs.LogSize.Saving
import BenchCharts.Proofs.Config.Sections
import BenchCharts.Proofs.Json.Parsing
import BenchCharts.Proofs.Decimal.WholeDoubles
import BenchCharts.Proofs.Json.Rendering
import BenchCharts.Proofs.Config.RoundTrip
import BenchCharts.Proofs.Files.Places
import BenchCharts.Proofs.Figure.Locality
import BenchCharts.Proofs.Figure.Alignment
import BenchCharts.Proofs.Chart.Outputs
import BenchCharts.Proofs.Figure.Outputs
import BenchCharts.Proofs.Chart.EmptyLines
import BenchCharts.Proofs.Figure.Absence
import BenchCharts.Proofs.ExactArithmetic
import BenchCharts.Proofs.ExtendedArithmetic
import BenchCharts.Proofs.Geometry.Clipping
import BenchCharts.Proofs.Geometry.Runs
import BenchCharts.Proofs.Geometry.KeptPoints
import BenchCharts.Proofs.Geometry.BrokenLines
import BenchCharts.Proofs.Files.Ways
import BenchCharts.Proofs.Figure.Frame
import BenchCharts.Proofs.CommandLine.Commands
import BenchCharts.Proofs.CommandLine.DrawingAll
import BenchCharts.Proofs.Format.Faults
import BenchCharts.Proofs.Config.Strictness
import BenchCharts.Proofs.Decimal.Nearest
import BenchCharts.Proofs.Decimal.Bits
import BenchCharts.Proofs.Decimal.Scientific
import BenchCharts.Proofs.Decimal.Shortest
import BenchCharts.Proofs.Decimal.RoundTrip
import BenchCharts.Proofs.Style.Color
import BenchCharts.Proofs.Results.Faults
import BenchCharts.Proofs.Style.Registry
import BenchCharts.Proofs.Style.Strokes
import BenchCharts.Proofs.Series.Averages
import BenchCharts.Proofs.Config.Discovery
import BenchCharts.Proofs.RealArithmetic
import BenchCharts.Proofs.Geometry.Extent
import BenchCharts.Proofs.Geometry.Rectangles
import BenchCharts.Proofs.Geometry.HatchDots
import BenchCharts.Proofs.Geometry.HatchLines
import BenchCharts.Proofs.Decimal.Comparison
import BenchCharts.Proofs.Decimal.Fixed
import BenchCharts.Proofs.Canvas.TickLabel
import BenchCharts.Proofs.Files.Parts
import BenchCharts.Proofs.Results.Paths
import BenchCharts.Proofs.Chart.Categories
import BenchCharts.Proofs.Chart.Measures
import BenchCharts.Proofs.CommandLine.Sizes
