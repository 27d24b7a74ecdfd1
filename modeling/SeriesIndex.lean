import SeriesIndex.Catalog
import SeriesIndex.Concurrent.Race
import SeriesIndex.Concurrent.Step
import SeriesIndex.Event
import SeriesIndex.Fault
import SeriesIndex.Hash.Fnv
import SeriesIndex.Hash.Sip
import SeriesIndex.Hash.Slots
import SeriesIndex.Hash.Stream
import SeriesIndex.HostMatcher
import SeriesIndex.Index
import SeriesIndex.InvertedIndex
import SeriesIndex.Label
import SeriesIndex.Matcher
import SeriesIndex.Pattern.Anchored
import SeriesIndex.Pattern.Blank
import SeriesIndex.Pattern.Bracket
import SeriesIndex.Pattern.Encoding
import SeriesIndex.Pattern.Escape
import SeriesIndex.Pattern.Footprint
import SeriesIndex.Pattern.Look
import SeriesIndex.Pattern.Meaning
import SeriesIndex.Pattern.Parser
import SeriesIndex.Pattern.Regex
import SeriesIndex.Pattern.Run
import SeriesIndex.Pattern.Shape
import SeriesIndex.Pattern.Syntax
import SeriesIndex.Postings
import SeriesIndex.Proofs.Postings
import SeriesIndex.Proofs.Striped
import SeriesIndex.Proofs.LabelSet
import SeriesIndex.Proofs.LabelPairs
import SeriesIndex.Proofs.Triples
import SeriesIndex.Proofs.Text.Bytes
import SeriesIndex.Proofs.Text.Quoted
import SeriesIndex.Proofs.Insertions
import SeriesIndex.Proofs.Order
import SeriesIndex.Proofs.Firsts
import SeriesIndex.Proofs.Batch
import SeriesIndex.Proofs.Store.Consistent
import SeriesIndex.Proofs.Store.Complete
import SeriesIndex.Proofs.Store.Loading
import SeriesIndex.Proofs.Store.Settled
import SeriesIndex.Proofs.Store.Growth
import SeriesIndex.Proofs.Store.Faithful
import SeriesIndex.Proofs.Store.Canonical
import SeriesIndex.Proofs.Store.Restriped
import SeriesIndex.Proofs.Store.Sessions
import SeriesIndex.Proofs.Store.Loaded
import SeriesIndex.Proofs.Store.Batches
import SeriesIndex.Proofs.Store.Registered
import SeriesIndex.Proofs.Store.Recorded
import SeriesIndex.Proofs.Store.Readers
import SeriesIndex.Proofs.Store.Continued
import SeriesIndex.Proofs.Store.Renumbered
import SeriesIndex.Proofs.Pattern.Reach
import SeriesIndex.Proofs.Pattern.Closing
import SeriesIndex.Proofs.Pattern.Brackets
import SeriesIndex.Proofs.Query
import SeriesIndex.Proofs.Restriped
import SeriesIndex.Proofs.Index.BruteForce
import SeriesIndex.Proofs.Index.Limits
import SeriesIndex.Proofs.Index.Restore
import SeriesIndex.Proofs.Index.Sessions
import SeriesIndex.Proofs.Index.Restriped
import SeriesIndex.Proofs.Index.Persistence
import SeriesIndex.Proofs.Index.Registration
import SeriesIndex.Proofs.Index.Outcomes
import SeriesIndex.Proofs.Index.Chronicle
import SeriesIndex.Proofs.Index.Reordering
import SeriesIndex.Proofs.Concurrent.Moves
import SeriesIndex.Proofs.Concurrent.Steps
import SeriesIndex.Proofs.Concurrent.Effect
import SeriesIndex.Proofs.Concurrent.Valid
import SeriesIndex.Proofs.Concurrent.Locks
import SeriesIndex.Proofs.Concurrent.Progress
import SeriesIndex.Proofs.Concurrent.Pending
import SeriesIndex.Proofs.Concurrent.Sound
import SeriesIndex.Proofs.Concurrent.Founders
import SeriesIndex.Proofs.Concurrent.Credit
import SeriesIndex.Proofs.Concurrent.Agreement
import SeriesIndex.Proofs.Concurrent.Queries
import SeriesIndex.Proofs.Concurrent.Resolution
import SeriesIndex.Proofs.Concurrent.Racing
import SeriesIndex.Proofs.Concurrent.Tallies
import SeriesIndex.Proofs.Concurrent.Contenders
import SeriesIndex.Proofs.Concurrent.Contest
import SeriesIndex.Proofs.Concurrent.Numbering
import SeriesIndex.Proofs.Concurrent.Coverage
import SeriesIndex.Proofs.Concurrent.Completion
import SeriesIndex.Proofs.Concurrent.Verdict
import SeriesIndex.Proofs.Concurrent.Outcome
import SeriesIndex.Query
import SeriesIndex.Series
import SeriesIndex.Settings.Basic
import SeriesIndex.Settings.Environment
import SeriesIndex.Settings.File
import SeriesIndex.Store
import SeriesIndex.Striped
import SeriesIndex.Text.Hexadecimal
import SeriesIndex.Text.Quoted
import SeriesIndex.Time
import SeriesIndex.Toml.Document
import SeriesIndex.Toml.Scalar
import SeriesIndex.Toml.Table
import SeriesIndex.Toml.Text
import SeriesIndex.Unicode.Age
import SeriesIndex.Unicode.Category
import SeriesIndex.Unicode.Folding
import SeriesIndex.Unicode.Latest
import SeriesIndex.Unicode.Names
import SeriesIndex.Unicode.Negation
import SeriesIndex.Unicode.Property
import SeriesIndex.Unicode.Script
import SeriesIndex.Unicode.Segmentation
import SeriesIndex.Unicode.Table
import SeriesIndex.Proofs.Pattern.Moves
import SeriesIndex.Proofs.Pattern.Nesting
import SeriesIndex.Proofs.Pattern.Whole
import SeriesIndex.Proofs.HostMatcher
import SeriesIndex.Proofs.MatcherEquality
import SeriesIndex.Proofs.HostRoundTrip
import SeriesIndex.Proofs.Index.EntryPoints
import SeriesIndex.Proofs.Index.Hosts
import SeriesIndex.Proofs.CanonicalForm
import SeriesIndex.Proofs.CanonicalText
import SeriesIndex.Proofs.Index.Accounting
import SeriesIndex.Proofs.Selection
import SeriesIndex.Proofs.Partition
import SeriesIndex.Proofs.Fingerprint
import SeriesIndex.Proofs.Settings.Overrides
import SeriesIndex.Proofs.Toml.Integers
import SeriesIndex.Proofs.Toml.Lines
import SeriesIndex.Proofs.Settings.Files
import SeriesIndex.Proofs.Treemap.Histories
