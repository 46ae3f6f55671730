import Scouting.Text.Blank
import Scouting.Text.Case
import Scouting.Text.Natural
import Scouting.Decimal.Layout
import Scouting.Decimal.Reading
import Scouting.Number
import Scouting.Sorting
import Scouting.Dictionary
import Scouting.Json.Reader
import Scouting.Json.Writer
import Scouting.Toml.Reader
import Scouting.Instant
import Scouting.Key
import Scouting.Value
import Scouting.Aggregation
import Scouting.Field
import Scouting.PlayOrder
import Scouting.Record
import Scouting.OfficialResults
import Scouting.Configuration
import Scouting.Catalog
import Scouting.Store
import Scouting.Snapshot
import Scouting.Reading
import Scouting.Expression.Parser
import Scouting.Stat.Validation
import Scouting.Stat.Evaluation
import Scouting.Settings
import Scouting.Event
import Scouting.Ranking
import Scouting.Picklists
import Scouting.Report
import Scouting.Command
import Scouting.CommandLine
import Scouting.Main
import Scouting.Proofs.DependencyCycles
import Scouting.Proofs.Compilation
import Scouting.Proofs.Acceptance
import Scouting.Proofs.Exclusion
import Scouting.Proofs.Validation
import Scouting.Proofs.Agreement
import Scouting.Proofs.Operators
import Scouting.Proofs.Places
import Scouting.Proofs.Remembering
import Scouting.Proofs.LoadedEvent
import Scouting.Proofs.Increasing
import Scouting.Proofs.Answers
import Scouting.Proofs.PlayOrder
import Scouting.Proofs.MatchKeys
import Scouting.Proofs.CountingRecords
import Scouting.Proofs.TeamReads
import Scouting.Proofs.Unpacked
import Scouting.Proofs.Arithmetic
import Scouting.Proofs.NumberOrder
import Scouting.Proofs.StableSorting
import Scouting.Proofs.RankingOrder
import Scouting.Proofs.SortedAnswers
import Scouting.Proofs.LookAlikes
import Scouting.Proofs.OrderOfArrival
import Scouting.Proofs.FiniteObservations
import Scouting.Proofs.Comparability
import Scouting.Proofs.Changes
import Scouting.Proofs.SeparateTeams
import Scouting.Proofs.Unobserved
import Scouting.Proofs.Grammar
import Scouting.Proofs.PicklistEdits
import Scouting.Proofs.RepeatedRanking
import Scouting.Proofs.Accounting
import Scouting.Proofs.Listing
import Scouting.Proofs.UnrepeatedTeams
import Scouting.Proofs.RepeatedValidation
import Scouting.Proofs.Polarity
import Scouting.Proofs.ReversedRanking
import Scouting.Proofs.Numerals
import Scouting.Proofs.KeyText
import Scouting.Proofs.ListedKeys
import Scouting.Proofs.StrictEvaluation
import Scouting.Proofs.NarrowedKeys
import Scouting.Proofs.RuntimeCycles
import Scouting.Proofs.JsonRoundTrip
import Scouting.Proofs.Sessions
import Scouting.Proofs.SavedRankings
import Scouting.Proofs.ExactCounts
import Scouting.Proofs.OptionCounts
import Scouting.Proofs.MappedObservations
import Scouting.Proofs.Rescoping
import Scouting.Proofs.PooledRepetitions
import Scouting.Proofs.ExactStandings
import Scouting.Proofs.Magnitudes
import Scouting.Proofs.WeightedRanks
import Scouting.Proofs.UsableObservations
import Scouting.Proofs.LoneNumber
import Scouting.Proofs.Misreadings
import Scouting.Proofs.WrittenConditions
import Scouting.Proofs.RepetitionReads
import Scouting.Proofs.OrderOfObservations
import Scouting.Proofs.TeamPlacement
import Scouting.Proofs.ParsingRuns
import Scouting.Proofs.Nesting
