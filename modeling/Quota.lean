import Quota.Abort.Console
import Quota.Abort.Context
import Quota.ByteString.Basic
import Quota.ByteString.Integer
import Quota.ByteString.Transform
import Quota.Command.Arguments
import Quota.Command.Basic
import Quota.Command.Execution
import Quota.Command.Program
import Quota.Command.Usage
import Quota.Container.CappedVector
import Quota.Container.FixedArray
import Quota.Container.Index
import Quota.Container.Rows
import Quota.Fault.Category
import Quota.Fault.Declared
import Quota.Fault.Kind
import Quota.Fault.Report
import Quota.Journal.Directive
import Quota.Journal.Event
import Quota.Journal.Filter
import Quota.Main
import Quota.Pattern.Admission
import Quota.Pattern.Basic
import Quota.Pattern.Bracket
import Quota.Pattern.Cursor
import Quota.Pattern.Drawing
import Quota.Pattern.Escape
import Quota.Pattern.Expression
import Quota.Pattern.Group
import Quota.Pattern.Objection
import Quota.Pattern.Place
import Quota.Pattern.Reader
import Quota.Session.Arrays
import Quota.Session.Basic
import Quota.Session.Cell
import Quota.Session.Operation
import Quota.Session.Run
import Quota.Session.Shelf
import Quota.Session.Strings
import Quota.Session.Trial
import Quota.Session.Vectors
import Quota.Storage.Allocator
import Quota.Storage.Block
import Quota.Storage.Books
import Quota.Storage.ElementType
import Quota.Storage.Ledger
import Quota.Text.Alphabetic
import Quota.Text.Alphanumeric
import Quota.Text.Blank
import Quota.Text.CodePoints
import Quota.Text.Decimal
import Quota.Text.Fingerprint
import Quota.Text.Hex
import Quota.Text.Lines
import Quota.Text.Numeral
import Quota.Text.Numeric
import Quota.Text.Quoted
import Quota.Text.Search
import Quota.Text.Unprintable
import Quota.Text.Utf8
import Quota.Word.Basic
import Quota.Word.Chain
import Quota.Proofs.Accounts
import Quota.Proofs.Script
import Quota.Proofs.ScriptedOperations
import Quota.Proofs.ScriptedSession
import Quota.Proofs.Transparency
import Quota.Proofs.Runs
import Quota.Proofs.LeastBudget
import Quota.Proofs.Balance
import Quota.Proofs.Occurrence
import Quota.Proofs.Replacement
import Quota.Proofs.VectorHistory
import Quota.Proofs.SignedDigits
import Quota.Proofs.CanonicalForm
import Quota.Proofs.WellFormed
import Quota.Proofs.TextResults
import Quota.Proofs.SingleReservation
import Quota.Proofs.TransformCharges
import Quota.Proofs.ExitStatus
import Quota.Proofs.OrderlyCommands
import Quota.Proofs.OrdinalStatus
import Quota.Proofs.RepeatedConcat
import Quota.Proofs.IndependentCommands
import Quota.Proofs.LedgerHistory
import Quota.Proofs.Filling
import Quota.Proofs.FilledSession
import Quota.Proofs.AbortRuns
import Quota.Proofs.PushOutcomes
import Quota.Proofs.AllOrNothing
import Quota.Proofs.Substrings
import Quota.Proofs.FirstOccurrence
import Quota.Proofs.Stages
import Quota.Proofs.TextBudgets
import Quota.Proofs.PrintedTexts
import Quota.Proofs.ArrayHistory
import Quota.Proofs.ForeignInserts
import Quota.Proofs.ReadingFaults
import Quota.Proofs.ReportDisplay
import Quota.Proofs.ExactChains
import Quota.Proofs.GreedyMatches
