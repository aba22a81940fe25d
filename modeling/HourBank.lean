import HourBank.Main
import HourBank.Proofs.Feed
import HourBank.Proofs.Text.Words
import HourBank.Proofs.Text.Decimal
import HourBank.Proofs.Command.Grammar
import HourBank.Proofs.Command.Keyword
import HourBank.Proofs.Ledger.Step
import HourBank.Proofs.Ledger.History
import HourBank.Proofs.Ledger.OpenDay
import HourBank.Proofs.Ledger.Operations
import HourBank.Proofs.Ledger.Answers
import HourBank.Proofs.Ledger.Accounts
import HourBank.Proofs.Run.Stopping
import HourBank.Proofs.Run.Audit
import HourBank.Proofs.Run.Carry
import HourBank.Proofs.Day.Written
import HourBank.Proofs.Minutes.Read
import HourBank.Proofs.Minutes.Written
import HourBank.Proofs.Command.Written
import HourBank.Proofs.Run.Written
import HourBank.Proofs.Ledger.Bounds
import HourBank.Proofs.Run.Bounds
import HourBank.Proofs.Run.Drift
import HourBank.Proofs.Run.Layout
import HourBank.Proofs.Run.Blocks
import HourBank.Proofs.Report.Columns
import HourBank.Proofs.Run.Printed
import HourBank.Proofs.Minutes.Canonical
import HourBank.Proofs.Ledger.Estimate
import HourBank.Proofs.Report.Styled
import HourBank.Proofs.Run.Styled
import HourBank.Proofs.CommandLine.Arguments
import HourBank.Proofs.CommandLine.Response
import HourBank.Proofs.Day.Calendar
import HourBank.Proofs.Schedule.Tolerance
import HourBank.Proofs.Run.Journal
import HourBank.Proofs.Day.Chronology
import HourBank.Proofs.Report.Alignment
