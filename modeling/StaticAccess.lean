import StaticAccess.Order.Ranked
import StaticAccess.Order.SortedSet
import StaticAccess.Order.SortedTable
import StaticAccess.Store.OrderedMap
import StaticAccess.Store.Multigraph
import StaticAccess.Text.Characters
import StaticAccess.Text.Cased
import StaticAccess.Text.LowerCase
import StaticAccess.Text.UpperCase
import StaticAccess.Text.CodePage
import StaticAccess.Text.Printable
import StaticAccess.Text.Quoted
import StaticAccess.Text.Quotation
import StaticAccess.Number.Binary64
import StaticAccess.Number.Shortest
import StaticAccess.Value
import StaticAccess.Log.Level
import StaticAccess.Log.Record
import StaticAccess.Log.Root
import StaticAccess.Error
import StaticAccess.Value.Part
import StaticAccess.Edge.Basic
import StaticAccess.Edge.Fields
import StaticAccess.Edge.Role
import StaticAccess.Edge.Attributes
import StaticAccess.Graph.Basic
import StaticAccess.Graph.Views
import StaticAccess.Graph.Snapshot
import StaticAccess.Graph.Operand
import StaticAccess.Settings.Reference
import StaticAccess.Settings.Statement
import StaticAccess.Settings.Assignment
import StaticAccess.Settings.Options
import StaticAccess.Settings.Reading
import StaticAccess.Settings.Sources
import StaticAccess.Settings.Basic
import StaticAccess.Session.Basic
import StaticAccess.Session.Run
import StaticAccess.Session.Console
import StaticAccess.Workers
import StaticAccess.Proofs.Order.FirstSeen
import StaticAccess.Proofs.Text.Blank
import StaticAccess.Proofs.Store.Layout
import StaticAccess.Proofs.Store.Copy
import StaticAccess.Proofs.Store.Degrees
import StaticAccess.Proofs.Graph.Arrangement
import StaticAccess.Proofs.Graph.Equality
import StaticAccess.Proofs.Session.Ledger
import StaticAccess.Proofs.Graph.Consistency
import StaticAccess.Proofs.Session.Consistency
import StaticAccess.Proofs.Workers.Interleaving
import StaticAccess.Proofs.Workers.Comparison
import StaticAccess.Proofs.Log.Configuration
import StaticAccess.Proofs.Session.Announcements
import StaticAccess.Proofs.Graph.Views
import StaticAccess.Proofs.Graph.Growth
import StaticAccess.Proofs.Session.Agreement
import StaticAccess.Proofs.Session.Failure
import StaticAccess.Proofs.Session.Similarity
import StaticAccess.Proofs.Session.Merging
import StaticAccess.Proofs.Graph.Reports
import StaticAccess.Proofs.Session.Flags
import StaticAccess.Proofs.Session.Journal
import StaticAccess.Proofs.Graph.Swapping
import StaticAccess.Proofs.Session.Swapping
import StaticAccess.Proofs.Graph.Accesses
import StaticAccess.Proofs.Graph.Members
import StaticAccess.Proofs.Graph.Spelling
import StaticAccess.Proofs.Session.Spelling
import StaticAccess.Proofs.Session.Naming
import StaticAccess.Proofs.Session.Console
import StaticAccess.Proofs.Session.Installation
import StaticAccess.Proofs.Session.Names
import StaticAccess.Proofs.Session.Written
import StaticAccess.Proofs.Session.Persistence
import StaticAccess.Proofs.Session.Setup
import StaticAccess.Proofs.Session.Hashing
import StaticAccess.Proofs.Settings.Precedence
import StaticAccess.Proofs.Settings.Environment
import StaticAccess.Proofs.Settings.LevelNames
import StaticAccess.Proofs.Settings.Validation
import StaticAccess.Proofs.Graph.Counts
import StaticAccess.Proofs.Edge.Construction
import StaticAccess.Proofs.Session.Construction
import StaticAccess.Proofs.Graph.Distinct
import StaticAccess.Proofs.Settings.Lines
import StaticAccess.Proofs.Settings.References
import StaticAccess.Proofs.Settings.Rewriting
import StaticAccess.Proofs.Text.LowerCase
import StaticAccess.Proofs.Text.UpperCase
import StaticAccess.Proofs.Settings.Quoting
import StaticAccess.Proofs.Text.Quoted
import StaticAccess.Proofs.Settings.Refusals
import StaticAccess.Proofs.Graph.Separators
