import RequestBreakdown.Backend.Clock
import RequestBreakdown.Backend.Database
import RequestBreakdown.Backend.Engine
import RequestBreakdown.Backend.Script
import RequestBreakdown.Backend.Source
import RequestBreakdown.Backend.Tiers
import RequestBreakdown.Binary64.Basic
import RequestBreakdown.Breakdown.Basic
import RequestBreakdown.Breakdown.Catalog
import RequestBreakdown.Bucket.Boundary
import RequestBreakdown.Bucket.Label
import RequestBreakdown.Bucket.Partition
import RequestBreakdown.Cancellation.Activity
import RequestBreakdown.Cancellation.Named
import RequestBreakdown.Cancellation.Token
import RequestBreakdown.CommandLine.Arguments
import RequestBreakdown.CommandLine.Parse
import RequestBreakdown.CommandLine.Run
import RequestBreakdown.Console.Basic
import RequestBreakdown.Console.Escape
import RequestBreakdown.Console.StyledText
import RequestBreakdown.Console.TableCell
import RequestBreakdown.Console.TextTable
import RequestBreakdown.Decimal.Layout
import RequestBreakdown.Decimal.Shortest
import RequestBreakdown.Fault
import RequestBreakdown.Filter.Basic
import RequestBreakdown.Filter.Predicate
import RequestBreakdown.Filter.Selection
import RequestBreakdown.Limiter.Basic
import RequestBreakdown.Limiter.Clients
import RequestBreakdown.Load.Backfill
import RequestBreakdown.Load.Progress
import RequestBreakdown.Load.Request
import RequestBreakdown.Load.Run
import RequestBreakdown.LogColumn
import RequestBreakdown.Main
import RequestBreakdown.Number
import RequestBreakdown.Power
import RequestBreakdown.Proofs.Backend.Connection
import RequestBreakdown.Proofs.Backend.Cursor
import RequestBreakdown.Proofs.Backend.Stateful
import RequestBreakdown.Proofs.Backend.Statements
import RequestBreakdown.Proofs.Backend.TierMark
import RequestBreakdown.Proofs.Backend.TierTables
import RequestBreakdown.Proofs.Breakdown.Allowed
import RequestBreakdown.Proofs.Bucket.Count
import RequestBreakdown.Proofs.Bucket.Expression
import RequestBreakdown.Proofs.Bucket.Offered
import RequestBreakdown.Proofs.Bucket.Progression
import RequestBreakdown.Proofs.Bucket.Ranges
import RequestBreakdown.Proofs.Bucket.Selection
import RequestBreakdown.Proofs.Bucket.Spread
import RequestBreakdown.Proofs.Cancellation.Consequences
import RequestBreakdown.Proofs.Cancellation.History
import RequestBreakdown.Proofs.Cancellation.Merging
import RequestBreakdown.Proofs.Cancellation.Network
import RequestBreakdown.Proofs.Cancellation.Newcomers
import RequestBreakdown.Proofs.Cancellation.Once
import RequestBreakdown.Proofs.Cancellation.Propagation
import RequestBreakdown.Proofs.Cancellation.Registry
import RequestBreakdown.Proofs.Cancellation.Untouched
import RequestBreakdown.Proofs.CommandLine.GivenOptions
import RequestBreakdown.Proofs.CommandLine.Precedence
import RequestBreakdown.Proofs.Fault
import RequestBreakdown.Proofs.Filter.Accounting
import RequestBreakdown.Proofs.Filter.Coverage
import RequestBreakdown.Proofs.Filter.CoverageOrder
import RequestBreakdown.Proofs.Filter.Exclusion
import RequestBreakdown.Proofs.Filter.FailedChanges
import RequestBreakdown.Proofs.Filter.Families
import RequestBreakdown.Proofs.Filter.Groups
import RequestBreakdown.Proofs.Filter.Meaning
import RequestBreakdown.Proofs.Filter.NamedFilters
import RequestBreakdown.Proofs.Filter.OrderedMap
import RequestBreakdown.Proofs.Filter.Positions
import RequestBreakdown.Proofs.Limiter.Order
import RequestBreakdown.Proofs.Limiter.Slots
import RequestBreakdown.Proofs.Load.Alongside
import RequestBreakdown.Proofs.Load.Backfilling
import RequestBreakdown.Proofs.Load.LookupValues
import RequestBreakdown.Proofs.Load.Outcome
import RequestBreakdown.Proofs.Load.Plans
import RequestBreakdown.Proofs.Load.Preparation
import RequestBreakdown.Proofs.Load.QueryShape
import RequestBreakdown.Proofs.Load.RangeLimit
import RequestBreakdown.Proofs.Load.Selection
import RequestBreakdown.Proofs.Load.StageEnds
import RequestBreakdown.Proofs.Load.Stages
import RequestBreakdown.Proofs.Result.ArrivalOrder
import RequestBreakdown.Proofs.Result.CountOrder
import RequestBreakdown.Proofs.Result.MarkedRecords
import RequestBreakdown.Proofs.Result.RangeRows
import RequestBreakdown.Proofs.Result.ZeroRows
import RequestBreakdown.Proofs.Session.Abreast
import RequestBreakdown.Proofs.Session.Attendance
import RequestBreakdown.Proofs.Session.Balance
import RequestBreakdown.Proofs.Session.Handling
import RequestBreakdown.Proofs.Session.Hearing
import RequestBreakdown.Proofs.Session.Overlap
import RequestBreakdown.Proofs.Session.Ownership
import RequestBreakdown.Proofs.Session.Reachable
import RequestBreakdown.Proofs.Session.Records
import RequestBreakdown.Proofs.Session.Sharing
import RequestBreakdown.Proofs.Session.SlotUse
import RequestBreakdown.Proofs.Session.Supersession
import RequestBreakdown.Proofs.Session.Turn
import RequestBreakdown.Proofs.Sql.CaseText
import RequestBreakdown.Proofs.Sql.Condition
import RequestBreakdown.Proofs.Sql.Filling
import RequestBreakdown.Proofs.Sql.FragmentCache
import RequestBreakdown.Proofs.Sql.Lexeme
import RequestBreakdown.Proofs.Sql.Like
import RequestBreakdown.Proofs.Sql.LiteralText
import RequestBreakdown.Proofs.Sql.LookupText
import RequestBreakdown.Proofs.Sql.Markers
import RequestBreakdown.Proofs.Sql.Parallel
import RequestBreakdown.Proofs.Sql.PlainText
import RequestBreakdown.Proofs.Sql.Rendering
import RequestBreakdown.Proofs.Sql.Statement
import RequestBreakdown.Proofs.Sql.TopText
import RequestBreakdown.Proofs.Storage.ReadBack
import RequestBreakdown.Proofs.Time.Calendar
import RequestBreakdown.Proofs.Time.DurationGrammar
import RequestBreakdown.Proofs.Time.LiteralTime
import RequestBreakdown.Proofs.Time.WindowCondition
import RequestBreakdown.Proofs.Value.Amounts
import RequestBreakdown.Proofs.Value.Counts
import RequestBreakdown.Proofs.Value.NumberOrder
import RequestBreakdown.Proofs.Value.PlainNumerals
import RequestBreakdown.Proofs.Value.Quotients
import RequestBreakdown.Proofs.Value.Sameness
import RequestBreakdown.Proofs.Value.WholeNumbers
import RequestBreakdown.Proofs.View.Conservation
import RequestBreakdown.Report.Basic
import RequestBreakdown.Result.Insertion
import RequestBreakdown.Result.Merge
import RequestBreakdown.Result.Ranking
import RequestBreakdown.Result.RunSort
import RequestBreakdown.Result.Search
import RequestBreakdown.Result.Totals
import RequestBreakdown.Row
import RequestBreakdown.Sampling
import RequestBreakdown.Session.Basic
import RequestBreakdown.Session.Run
import RequestBreakdown.Session.Task
import RequestBreakdown.Settings
import RequestBreakdown.Sql.Fragment
import RequestBreakdown.Sql.Literal
import RequestBreakdown.Sql.Query
import RequestBreakdown.Sql.Template
import RequestBreakdown.Storage.Basic
import RequestBreakdown.Storage.Path
import RequestBreakdown.Text.Blank
import RequestBreakdown.Text.Digit
import RequestBreakdown.Text.Letter
import RequestBreakdown.Text.LetterCase
import RequestBreakdown.Text.Numeral
import RequestBreakdown.Text.Printable
import RequestBreakdown.Text.Quoted
import RequestBreakdown.Time.Calendar
import RequestBreakdown.Time.DurationText
import RequestBreakdown.Time.IsoText
import RequestBreakdown.Time.PlainText
import RequestBreakdown.Time.Spec
import RequestBreakdown.Time.Timestamp
import RequestBreakdown.Time.Window
import RequestBreakdown.Value.Basic
import RequestBreakdown.Value.Text
import RequestBreakdown.Value.Use
import RequestBreakdown.View.Basic
import RequestBreakdown.View.Table
