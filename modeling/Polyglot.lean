import Polyglot.Grammar.Keyword
import Polyglot.Json.Reader
import Polyglot.Proofs.Workspace.Declarations
import Polyglot.Server.Message
import Polyglot.Proofs.Workspace.Membership
import Polyglot.Proofs.Workspace.Handles
import Polyglot.Proofs.Workspace.Lifecycle
import Polyglot.Proofs.Workspace.Ledger
import Polyglot.Proofs.Reference.Pinning
import Polyglot.Proofs.Workspace.Staleness
import Polyglot.Proofs.LineIndex.Decomposition
import Polyglot.Proofs.LineIndex.Addresses
import Polyglot.Proofs.LineIndex.Units
import Polyglot.Proofs.Cancellation.Firing
import Polyglot.Proofs.Cancellation.Calls
import Polyglot.Proofs.Cancellation.Holding
import Polyglot.Proofs.Server.Handling
import Polyglot.Proofs.Workspace.Telling
import Polyglot.Proofs.Server.Texts
import Polyglot.Proofs.Workspace.Diagnosing
import Polyglot.Proofs.Server.Publishing
import Polyglot.Proofs.LineIndex.Ranges
import Polyglot.Proofs.Section.Interval
import Polyglot.Proofs.Lsp.Nesting
import Polyglot.Proofs.Lsp.Listing
import Polyglot.Proofs.Server.Commands
import Polyglot.Proofs.Cancellation.Tasks
import Polyglot.Proofs.Server.Tokens
import Polyglot.Proofs.Workspace.Independence
import Polyglot.Proofs.Workspace.Isolation
import Polyglot.Proofs.Workspace.LineLookup
import Polyglot.Proofs.Reference.Innermost
import Polyglot.Proofs.Workspace.Locality
import Polyglot.Proofs.Settings.GrammarName
import Polyglot.Proofs.LineIndex.IntervalText
import Polyglot.Proofs.Section.BreakStyle
import Polyglot.Proofs.Section.ClientRange
import Polyglot.Proofs.Section.Composition
import Polyglot.Proofs.Workspace.PositionLookup
import Polyglot.Proofs.Lsp.Sorting
import Polyglot.Proofs.Lsp.Fitting
import Polyglot.Proofs.Lsp.Origin
import Polyglot.Proofs.Server.Cursor
import Polyglot.Proofs.Property.FiniteMap
import Polyglot.Proofs.Settings.Discovery
import Polyglot.Proofs.Lsp.Navigation
