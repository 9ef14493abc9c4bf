import Folio.Predicate.Compile
import Folio.Statement.Command

/-!
# Queries

A query says which documents of a type are read, in which order, and how many. It knows neither the table nor the
tenant; both come in when it is turned into a selection.
-/

namespace Folio

open Folio.Predicate (Compiler)
open Folio.Sql (Dialect Direction)
open Folio.Statement (Deletion Projection Selection)

/-- What the documents of a store are compiled with. -/
structure Schema where
  dialect : Dialect
  options : Options
  /-- Translators that come before the built-in ones. -/
  translators : List Predicate.Translator := []

/-- How a type of documents is stored. -/
def Schema.mapping (s : Schema) (t : DocumentType) : Mapping :=
  .ofType s.options t

/-- The documents of one type and one tenant. -/
structure Scope where
  schema : Schema
  type : DocumentType
  tenant : String

/-- How the documents are stored. -/
def Scope.mapping (s : Scope) : Mapping :=
  s.schema.mapping s.type

/-- What the expressions over the documents are compiled with. -/
def Scope.compiler (s : Scope) : Compiler :=
  ⟨s.schema.dialect, s.schema.options, s.mapping, s.schema.translators⟩

/-- A query over the documents of one type. -/
structure Query where
  /-- Predicates that a document must all meet. -/
  filters : List Expr := []
  order : List (Member × Direction) := []
  limit : Option Nat := none
  offset : Option Nat := none
  distinct : Bool := false
  /-- Are the documents of all tenants read? -/
  anyTenant : Bool := false
  /-- Which documents are read where they are deleted softly; without a choice, those that are not deleted. -/
  deletion : Option Deletion := none
  deriving Repr

namespace Query

/-- Only documents that meet the predicate too. -/
def filter (q : Query) (e : Expr) : Query :=
  { q with filters := q.filters ++ [e] }

/-- Ordered by a further member, after those given before. -/
def orderBy (q : Query) (m : Member) (direction : Direction) : Query :=
  { q with order := q.order ++ [(m, direction)] }

/-- Passes over the first documents. -/
def skip (q : Query) (n : Nat) : Query :=
  { q with offset := some n }

/-- Reads so many documents at most. -/
def take (q : Query) (n : Nat) : Query :=
  { q with limit := some n }

/-- The deletion that a selection asks for. -/
def deletionIn (q : Query) (m : Mapping) : Deletion :=
  if m.softDeleted then q.deletion.getD .notDeleted else .any

/-- The selection that the query stands for in a scope. -/
def toSelection (q : Query) (s : Scope) (p : Projection) : Outcome Selection := do
  let filters ← q.filters.mapM s.compiler.compile
  let order ← q.order.mapM fun (m, direction) => do return (← s.compiler.orderKey m, direction)
  return {
    table := s.mapping.table
    projection := p
    filters
    tenant := if q.anyTenant then none else some s.tenant
    deletion := q.deletionIn s.mapping
    order
    limit := q.limit
    offset := q.offset
    distinct := q.distinct
  }

end Query

end Folio
