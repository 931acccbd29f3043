import ChangeAudit.Change.Written
import ChangeAudit.Config.File
import ChangeAudit.Mismatch.Report
import ChangeAudit.Workbench.Run
import ChangeAudit.Proofs.Counting
import ChangeAudit.Proofs.Entries
import ChangeAudit.Proofs.Reordering
import ChangeAudit.Proofs.Journal.Edits
import ChangeAudit.Proofs.Journal.Steps
import ChangeAudit.Proofs.Journal.Accounts
import ChangeAudit.Proofs.Journal.Dropped
import ChangeAudit.Proofs.Mismatch.Counts
import ChangeAudit.Proofs.Shadow.Counts
import ChangeAudit.Proofs.Observers.Reports
import ChangeAudit.Proofs.Observers.Registrations
import ChangeAudit.Proofs.Observers.Feeds
import ChangeAudit.Proofs.Observers.History
import ChangeAudit.Proofs.Observers.Routines
import ChangeAudit.Proofs.Observers.Ownership
import ChangeAudit.Proofs.Observers.Reception
import ChangeAudit.Proofs.Observers.Settlement
import ChangeAudit.Proofs.Verifier.Delivery
import ChangeAudit.Proofs.Verifier.Session
import ChangeAudit.Proofs.Verifier.Tracking
import ChangeAudit.Proofs.Verifier.Attachment
import ChangeAudit.Proofs.Verifier.Misreports
import ChangeAudit.Proofs.Journal.Runs
import ChangeAudit.Proofs.Shadow.Replay
import ChangeAudit.Proofs.Journal.Grouping
import ChangeAudit.Proofs.Observers.Noninterference
import ChangeAudit.Proofs.Observers.CutReports
import ChangeAudit.Proofs.Shadow.Order
import ChangeAudit.Proofs.Verifier.Order
import ChangeAudit.Proofs.Verifier.Routes
import ChangeAudit.Proofs.Verifier.OrderIndependence
import ChangeAudit.Proofs.Workbench.Views
import ChangeAudit.Proofs.Workbench.Leftovers
import ChangeAudit.Proofs.Workbench.Commands
import ChangeAudit.Proofs.Workbench.Dropping
import ChangeAudit.Proofs.Json.Spelling
import ChangeAudit.Proofs.Json.Document
import ChangeAudit.Proofs.Config.Overlay
import ChangeAudit.Proofs.Ranks
import ChangeAudit.Proofs.Shadow.ClosedForm
import ChangeAudit.Proofs.Json.Compact
import ChangeAudit.Proofs.Mismatch.Exactness
import ChangeAudit.Proofs.Shadow.Coalescing
import ChangeAudit.Proofs.Json.Reading
import ChangeAudit.Proofs.RoundTrip
import ChangeAudit.Proofs.Verifier.Counters
import ChangeAudit.Proofs.Verifier.Replacement
import ChangeAudit.Proofs.Verifier.Clearing
import ChangeAudit.Proofs.Json.Shapes
import ChangeAudit.Proofs.Shapes
