import PageSketch.Area.Anchor
import PageSketch.Area.AnchoredRect
import PageSketch.Area.Feature
import PageSketch.Area.Side
import PageSketch.Cancellation
import PageSketch.CommandLine.Analyze
import PageSketch.CommandLine.Arguments
import PageSketch.CommandLine.Command
import PageSketch.CommandLine.Dump
import PageSketch.CommandLine.Outcome
import PageSketch.Content.Block
import PageSketch.Content.Index
import PageSketch.Content.Line
import PageSketch.Content.Loading
import PageSketch.Content.Page
import PageSketch.Decimal.Fixed
import PageSketch.Decimal.Numeral
import PageSketch.Decimal.Power
import PageSketch.Decimal.Rounding
import PageSketch.Decimal.Shortest
import PageSketch.Document
import PageSketch.Failure
import PageSketch.Geometry.Length
import PageSketch.Geometry.LengthText
import PageSketch.Geometry.Point
import PageSketch.Geometry.ReadingOrder
import PageSketch.Geometry.Rect
import PageSketch.Geometry.Unit
import PageSketch.Json.Basic
import PageSketch.Json.Contents
import PageSketch.Json.Printer
import PageSketch.Json.Reader
import PageSketch.Json.Record
import PageSketch.Json.Token
import PageSketch.Main
import PageSketch.PageRange
import PageSketch.Pattern.AsciiClass
import PageSketch.Pattern.Bracket
import PageSketch.Pattern.Escape
import PageSketch.Pattern.Expr
import PageSketch.Pattern.Flags
import PageSketch.Pattern.Footprint
import PageSketch.Pattern.Match
import PageSketch.Pattern.Measure
import PageSketch.Pattern.Program
import PageSketch.Pattern.PropertyName
import PageSketch.Pattern.Reader
import PageSketch.Pattern.Search
import PageSketch.Proofs.AnalysisFailures
import PageSketch.Proofs.AreaDependencies
import PageSketch.Proofs.AreaDetermination
import PageSketch.Proofs.AreaEquations
import PageSketch.Proofs.CoordinateRange
import PageSketch.Proofs.EvaluationOrder
import PageSketch.Proofs.IndexedSearch
import PageSketch.Proofs.NodeSearch
import PageSketch.Proofs.Outcomes
import PageSketch.Proofs.PageAnalysis
import PageSketch.Proofs.PartialReports
import PageSketch.Proofs.ReachedNodes
import PageSketch.Proofs.RecursiveOrder
import PageSketch.Proofs.ScheduledWork
import PageSketch.Proofs.SketchCompilation
import PageSketch.Proofs.TextSearch
import PageSketch.Proofs.WorkerPools
import PageSketch.Scalar.Basic
import PageSketch.Scalar.Binary
import PageSketch.Scalar.Exact
import PageSketch.Sketch.Analysis
import PageSketch.Sketch.Basic
import PageSketch.Sketch.EvaluationOrder
import PageSketch.Sketch.Locator
import PageSketch.Sketch.Node
import PageSketch.Sketch.Output
import PageSketch.Sketch.RecursiveOrder
import PageSketch.Sketch.ReferenceGraph
import PageSketch.Sketch.Report
import PageSketch.Sketch.Schedule
import PageSketch.Sketch.Tags
import PageSketch.Sketch.WorkerPool
import PageSketch.Spec.Area
import PageSketch.Spec.Content
import PageSketch.Spec.Length
import PageSketch.Spec.Sketch
import PageSketch.Text.Blank
import PageSketch.Text.Bytes
import PageSketch.Text.Quoted
import PageSketch.Unicode.Age
import PageSketch.Unicode.ByteRange
import PageSketch.Unicode.CaseChange
import PageSketch.Unicode.Category
import PageSketch.Unicode.CodeSet
import PageSketch.Unicode.Contributory
import PageSketch.Unicode.Emoji
import PageSketch.Unicode.Folding
import PageSketch.Unicode.GraphemeBreak
import PageSketch.Unicode.Ideograph
import PageSketch.Unicode.Invisible
import PageSketch.Unicode.Modifier
import PageSketch.Unicode.Property
import PageSketch.Unicode.Punctuation
import PageSketch.Unicode.Recent
import PageSketch.Unicode.Runs
import PageSketch.Unicode.Script
import PageSketch.Unicode.ScriptExtension
import PageSketch.Unicode.SentenceBreak
import PageSketch.Unicode.WhiteSpace
import PageSketch.Unicode.WordBreak
import PageSketch.Proofs.PageSelection
import PageSketch.Proofs.PagedAnalysis
import PageSketch.Proofs.FallbackAreas
import PageSketch.Proofs.PageNumbering
import PageSketch.Proofs.RectUnion
import PageSketch.Proofs.GlyphRanges
import PageSketch.Proofs.NodePlaces
import PageSketch.Proofs.JsonNumbers
import PageSketch.Proofs.JsonFormats
import PageSketch.Proofs.SpecFormats
import PageSketch.Proofs.FileReading
import PageSketch.Proofs.RangeLimits
import PageSketch.Proofs.GlyphPositions
import PageSketch.Proofs.RangeText
import PageSketch.Proofs.DerivedBounds
import PageSketch.Proofs.SpreadText
import PageSketch.Proofs.ReadingSort
import PageSketch.Proofs.ReferenceCycles
import PageSketch.Proofs.LengthGrammar
import PageSketch.Proofs.RoundedText
import PageSketch.Proofs.LengthForms
import PageSketch.TokenFamily
import PageSketch.Proofs.FailureParts
import PageSketch.Proofs.RoundedOutput
import PageSketch.Proofs.TokenFamilies
import PageSketch.Proofs.GroupNames
import PageSketch.Proofs.ReportedMatches
import PageSketch.Proofs.GroupedUnions
import PageSketch.Proofs.SortedTags
import PageSketch.Proofs.Timelines
