import Folio.Database.Address
import Folio.Database.Script
import Folio.Predicate.Extension
import Folio.Session.Batch
import Folio.Session.Save
import Folio.Sqlite.Memory
import Folio.Tagged.Expr
import Folio.Tagged.Statement
import Folio.Typed.Path
import Folio.Proofs.Versions.LostUpdate
import Folio.Proofs.Versions.Agreement
import Folio.Proofs.Session.Isolation
import Folio.Proofs.Statement.Scope
import Folio.Proofs.Statement.Renumbered
import Folio.Proofs.Versions.Tenants
import Folio.Proofs.Predicate.Preserved
import Folio.Proofs.Sql.Pieces
import Folio.Proofs.Statement.Redacted
import Folio.Proofs.Session.Together
import Folio.Proofs.Relational.Counted
import Folio.Proofs.Session.Counted
import Folio.Proofs.Sql.Paging
import Folio.Proofs.Session.Sent
import Folio.Proofs.Relational.Paged
import Folio.Proofs.Relational.Aggregated
import Folio.Proofs.Predicate.Whole
import Folio.Proofs.Predicate.Calls
import Folio.Proofs.Predicate.Enumerated
import Folio.Proofs.Predicate.Storing
import Folio.Proofs.Predicate.Bound
import Folio.Proofs.Session.Aggregated
import Folio.Proofs.Session.Paged
import Folio.Proofs.Session.Listed
import Folio.Proofs.Session.Turns
import Folio.Proofs.Session.Pool
import Folio.Proofs.Session.Tables
import Folio.Proofs.Session.Columns
import Folio.Proofs.Statement.Pattern
import Folio.Proofs.Predicate.Membership
import Folio.Proofs.Versions.Checked
import Folio.Proofs.Versions.Failed
import Folio.Proofs.Predicate.Equality
import Folio.Proofs.Predicate.Times
import Folio.Proofs.Session.Deletion
import Folio.Proofs.Versions.Upserts
import Folio.Proofs.Value.Cast
import Folio.Proofs.Value.Exact
import Folio.Proofs.Typed.Listed
import Folio.Proofs.Session.Elements
import Folio.Proofs.Sql.Path
import Folio.Proofs.Sql.Quoting
import Folio.Proofs.Versions.Forecast
import Folio.Proofs.Time.Sortable
import Folio.Proofs.Reply.Cursor
import Folio.Proofs.Failure.Chain
import Folio.Proofs.Database.Address
