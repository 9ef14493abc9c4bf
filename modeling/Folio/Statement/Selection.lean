import Folio.Sql.Query
import Folio.Statement.Fragment

/-!
# Selections

What is read from a table of documents: which documents, in which order, how many of them, and what of each.
-/

namespace Folio.Statement

open Folio.Sql
open Folio.Time (Timestamp)

/-- What is read of each document, or computed from all. -/
inductive Projection
  /-- The document and its version. -/
  | documents
  | locator (l : Locator)
  | count
  | aggregate (a : Aggregate) (l : Locator)
  deriving Repr, DecidableEq

/-- Which documents are read where they are deleted softly. -/
inductive Deletion
  | any
  | notDeleted
  | deleted
  | deletedSince (t : Timestamp)
  | deletedBefore (t : Timestamp)
  deriving Repr, DecidableEq

/-- A read of a table of documents. -/
structure Selection where
  table : TableName
  projection : Projection
  /-- Predicates that a document must all meet. -/
  filters : List Fragment := []
  /-- The tenant whose documents are read; without one, those of all. -/
  tenant : Option String := none
  deletion : Deletion := .any
  order : List (Locator × Direction) := []
  limit : Option Nat := none
  offset : Option Nat := none
  distinct : Bool := false
  /-- Is it only asked whether there are any documents? -/
  existence : Bool := false
  deriving Repr

/-- The conditions on the tenant and on the deletion of a document. -/
def scopeConditions (tenant : Option String) (deletion : Deletion) : Binding (List Condition) := do
  let mine ← match tenant with
    | some t => do pure [Condition.compare (.column tenantColumn) .eq (← bindValue (.text t))]
    | none => pure []
  let flag (n : Nat) : Condition := .compare (.column deletedColumn) .eq (.number n)
  let rest ← match deletion with
    | .any => pure []
    | .notDeleted => pure [flag 0]
    | .deleted => pure [flag 1]
    | .deletedSince t =>
      do pure [flag 1, Condition.compare (.column deletedAtColumn) .ge (← bindValue (.timestamp t))]
    | .deletedBefore t =>
      do pure [flag 1, Condition.compare (.column deletedAtColumn) .lt (← bindValue (.timestamp t))]
  return mine ++ rest

/-- The conditions of filters and scopes. -/
def whereConditions (d : Dialect) (filters : List Fragment) (tenant : Option String)
    (deletion : Deletion) : Binding (List Condition) := do
  let own ← filters.mapM (Fragment.toCondition d)
  let scopes ← scopeConditions tenant deletion
  return own ++ scopes

/-- What the rows of a selection are read for. -/
inductive Purpose
  /-- To be answered as they are. -/
  | answer
  /-- To be looked for at all. -/
  | existence
  /-- To be counted. -/
  | counting
  /-- To have a member of each computed with. -/
  | values (l : Locator)
  deriving Repr, DecidableEq

namespace Selection

/-- Does the selection take a part of its documents only? -/
def isPaged (s : Selection) : Bool :=
  s.limit.isSome || s.offset.isSome

/-- The selection's own columns. -/
def columns (d : Dialect) (p : Projection) : List Column :=
  match p with
  | .documents => [.term (.column dataColumn), .term (.column versionColumn)]
  | .locator l => [.term (l.toTerm d)]
  | .count => [.count]
  | .aggregate a l => [.aggregate a (l.toTerm d)]

/-- The columns for a purpose. -/
def columnsFor (d : Dialect) (s : Selection) : Purpose → List Column
  | .answer | .existence => columns d s.projection
  | .counting => [.named (.column dataColumn) "v"]
  | .values l => [.named (l.toTerm d) "v"]

/-- Does a row hold a whole document? -/
def hasWholeRows (s : Selection) : Purpose → Bool
  | .counting => true
  | .values _ => false
  | .answer | .existence => s.projection = .documents

/-- Are the rows put in order? Within another query only if it takes a part of them. -/
def isOrdered (s : Selection) (p : Purpose) : Bool :=
  !s.order.isEmpty && (p = .answer || s.isPaged)

/-- The terms of the order as columns `o1`, `o2`, … -/
def orderColumns (d : Dialect) (s : Selection) : List Column :=
  s.order.zipIdx.map fun ((l, _), i) => .named (l.toTerm d) ("o" ++ toString (i + 1))

/-- The query for the rows of a selection. SQL Server wants the order of distinct rows among their columns;
where those are whole documents, more columns computed from the document leave them as distinct as before. -/
def toRowQuery (d : Dialect) (s : Selection) (p : Purpose) : Binding RowQuery := do
  let ordered := s.isOrdered p
  let extra := if d = .mssql && s.distinct && ordered && s.hasWholeRows p then s.orderColumns d else []
  let conditions ← whereConditions d s.filters s.tenant s.deletion
  return {
    distinct := s.distinct
    top := if d = .mssql && s.offset.isNone then s.limit else none
    columns := s.columnsFor d p ++ extra
    table := s.table
    conditions
    order :=
      if ordered then .by (s.order.map fun (l, direction) => (l.toTerm d, direction))
      else if d = .mssql && s.offset.isSome then .arbitrary
      else .none
    page :=
      match d, s.limit, s.offset with
      | .mssql, limit, some skip => .fetch skip limit
      | .mssql, _, none => .all
      | .sqlite, none, none => .all
      | .sqlite, limit, offset => .limit limit offset
  }

/-- The query for a selection. What is computed from a page or from distinct rows has to see those rows first. -/
def toQuery (d : Dialect) (s : Selection) : Binding Query :=
  if s.existence then return .exists (← s.toRowQuery d .existence)
  else
    match s.projection, s.isPaged || s.distinct with
    | .count, true => return .over .count (← s.toRowQuery d .counting)
    | .aggregate a l, true => return .over (.aggregate a (.column "v")) (← s.toRowQuery d (.values l))
    | _, _ => return .rows (← s.toRowQuery d .answer)

end Selection

end Folio.Statement
