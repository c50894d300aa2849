import Eligibility.Binary64.Basic
import Eligibility.Binary64.Layout
import Eligibility.Binary64.Reading
import Eligibility.Binary64.Shortest
import Eligibility.Calendar.Date
import Eligibility.Calendar.Instant
import Eligibility.Calendar.Text
import Eligibility.Catalog.Basic
import Eligibility.Catalog.Builtin
import Eligibility.Catalog.Context
import Eligibility.Catalog.Json
import Eligibility.Catalog.Operator
import Eligibility.Catalog.ValueType
import Eligibility.CommandLine.Arguments
import Eligibility.CommandLine.Command
import Eligibility.CommandLine.Failure
import Eligibility.CommandLine.FileTree
import Eligibility.CommandLine.Host
import Eligibility.CommandLine.Output
import Eligibility.CommandLine.Path
import Eligibility.CommandLine.Report
import Eligibility.CommandLine.Run
import Eligibility.Condition.Clause
import Eligibility.Condition.Draft
import Eligibility.Condition.Evaluation
import Eligibility.Condition.Expression
import Eligibility.Condition.Facts
import Eligibility.Condition.Json
import Eligibility.Condition.Quoting
import Eligibility.Condition.Rule
import Eligibility.Condition.Tree
import Eligibility.Condition.Value
import Eligibility.Config.Basic
import Eligibility.Config.Json
import Eligibility.Config.Verification
import Eligibility.Json.Basic
import Eligibility.Json.Decoding
import Eligibility.Json.Escape
import Eligibility.Json.Numeral
import Eligibility.Json.Problem
import Eligibility.Json.Relaxed
import Eligibility.Json.Relaxed.Numeral
import Eligibility.Json.Relaxed.Piece
import Eligibility.Json.Strict
import Eligibility.Json.Token
import Eligibility.Json.Writer
import Eligibility.Main
import Eligibility.Proofs.AcceptedDates
import Eligibility.Proofs.AcceptedSchedules
import Eligibility.Proofs.AlwaysAvailable
import Eligibility.Proofs.BalancedText
import Eligibility.Proofs.BlackoutMask
import Eligibility.Proofs.BrokenQuoting
import Eligibility.Proofs.ByteOrder
import Eligibility.Proofs.CatalogLookup
import Eligibility.Proofs.Characters
import Eligibility.Proofs.ContextTypes
import Eligibility.Proofs.CoverageBounds
import Eligibility.Proofs.DateTexts
import Eligibility.Proofs.DayLookup
import Eligibility.Proofs.DocumentLeaves
import Eligibility.Proofs.EditScripts
import Eligibility.Proofs.EntryOrder
import Eligibility.Proofs.FirstMatch
import Eligibility.Proofs.FirstSeen
import Eligibility.Proofs.FlattenedFacts
import Eligibility.Proofs.Grouping
import Eligibility.Proofs.JsonGrammar
import Eligibility.Proofs.KnownFacts
import Eligibility.Proofs.LenientReading
import Eligibility.Proofs.NextOpening
import Eligibility.Proofs.OpenMinutes
import Eligibility.Proofs.OpeningSearch
import Eligibility.Proofs.OperatorLaws
import Eligibility.Proofs.OperatorUnion
import Eligibility.Proofs.PrintedInstants
import Eligibility.Proofs.QuotedSpans
import Eligibility.Proofs.QuotedTexts
import Eligibility.Proofs.ReadVariables
import Eligibility.Proofs.ReadingLimits
import Eligibility.Proofs.RecordDecoding
import Eligibility.Proofs.RecordParts
import Eligibility.Proofs.RelaxedLexing
import Eligibility.Proofs.ResolvedIds
import Eligibility.Proofs.Rounding
import Eligibility.Proofs.RuleFaults
import Eligibility.Proofs.StoredConfig
import Eligibility.Proofs.StoredDraft
import Eligibility.Proofs.StoredSchedule
import Eligibility.Proofs.StoredText
import Eligibility.Proofs.StrictLexing
import Eligibility.Proofs.Suggestions
import Eligibility.Proofs.TokenReading
import Eligibility.Proofs.TreeShape
import Eligibility.Proofs.VerifiedConfigs
import Eligibility.Proofs.WeekOpenings
import Eligibility.Proofs.WeeklyRepeat
import Eligibility.Proofs.WellFormedSchedules
import Eligibility.Proofs.WrittenNumerals
import Eligibility.Proofs.WrittenTokens
import Eligibility.Schedule.Activity
import Eligibility.Schedule.Basic
import Eligibility.Schedule.Clock
import Eligibility.Schedule.Coverage
import Eligibility.Schedule.Description
import Eligibility.Schedule.Json
import Eligibility.Schedule.Opening
import Eligibility.Schedule.Validation
import Eligibility.Text.Blank
import Eligibility.Text.CaseTable
import Eligibility.Text.EditDistance
import Eligibility.Text.HiddenTable
import Eligibility.Text.Letter
import Eligibility.Text.LetterTable
import Eligibility.Text.LowerCase
import Eligibility.Text.Quoted
