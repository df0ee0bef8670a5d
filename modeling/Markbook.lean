import Markbook.Answer
import Markbook.Book
import Markbook.Companion
import Markbook.Connection
import Markbook.Direct
import Markbook.Directory
import Markbook.Document
import Markbook.EnvFile
import Markbook.Event
import Markbook.Fault
import Markbook.FileName
import Markbook.Location
import Markbook.LogFilter
import Markbook.Main
import Markbook.Media
import Markbook.Model.Exercise
import Markbook.Model.Form
import Markbook.Model.Submission
import Markbook.Model.User
import Markbook.Proofs.Atomicity
import Markbook.Proofs.Effects
import Markbook.Proofs.Execution
import Markbook.Proofs.Grades
import Markbook.Proofs.History
import Markbook.Proofs.Instants
import Markbook.Proofs.Integrity
import Markbook.Proofs.Login
import Markbook.Proofs.Order
import Markbook.Proofs.Reachable
import Markbook.Proofs.RowChanges
import Markbook.Proofs.Rows
import Markbook.Proofs.Sparing
import Markbook.Proofs.Standing
import Markbook.Proofs.Statements
import Markbook.Provision
import Markbook.Ranking
import Markbook.Records.Exercises
import Markbook.Records.Submissions
import Markbook.Records.Users
import Markbook.Request
import Markbook.Settings
import Markbook.Store.Basic
import Markbook.Store.Cell
import Markbook.Store.Extended
import Markbook.Store.Image
import Markbook.Store.Number
import Markbook.Store.Order
import Markbook.Store.Relation
import Markbook.Store.Table
import Markbook.Store.Work
import Markbook.Task
import Markbook.Text.Blank
import Markbook.Text.Decimal
import Markbook.Text.Letter
import Markbook.Text.Percent
import Markbook.Text.Quoted
import Markbook.Text.Utf8
import Markbook.Time.Calendar
import Markbook.Time.Instant
import Markbook.Time.Stamp
import Markbook.Time.Stored
import Markbook.Word
import Markbook.Workspace
import Markbook.Proofs.Identity
import Markbook.Proofs.Acceptance
import Markbook.Proofs.Catalogue
import Markbook.Proofs.Resubmission
import Markbook.Proofs.ReadBack
import Markbook.Proofs.Units
import Markbook.Proofs.Totals
import Markbook.Proofs.Redaction
import Markbook.Proofs.Secrecy
import Markbook.Proofs.Handles
import Markbook.Proofs.Files
import Markbook.Proofs.Closing
import Markbook.Proofs.Tables
import Markbook.Proofs.Approach
import Markbook.Proofs.Sharing
import Markbook.Proofs.Keys
import Markbook.Proofs.Clashes
import Markbook.Proofs.Candidates
import Markbook.Proofs.Lockstep
import Markbook.Proofs.Imports
import Markbook.Proofs.Calendar
import Markbook.Proofs.Stamps
import Markbook.Proofs.Forms
import Markbook.Proofs.Footprint
import Markbook.Proofs.Isolation
import Markbook.Proofs.Registration
import Markbook.Proofs.Loading
import Markbook.Proofs.Placement
import Markbook.Proofs.Chronology
import Markbook.Proofs.Reports
import Markbook.Proofs.Encoding
import Markbook.Proofs.Locations
import Markbook.Proofs.Precedence
import Markbook.Proofs.Settings
