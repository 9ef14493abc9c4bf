import Folio.Proofs.Relational.Paged
import Folio.Proofs.Session.Sent

/-!
# Folio.Proofs.Session.Paged

Whether a read gets the rows that it skips to and takes, in words that its dialect accepts.

Every read has one query of rows, by itself or nested, and the clauses of that are made of the limit and
the offset of the selection that is sent (`Selection.paging_toRowQuery`). They always take the right rows.
SQL Server rejects them in one case, a page of no rows that starts after some (`Read.pages_iff`): it is
asked to fetch no row at all.
-/

namespace Folio

open Folio.Relational
open Folio.Sql
open Folio.Statement (Command Purpose Selection)

/-! ### Reads -/

/-- A query that says in clauses of its text which rows it takes: those from `skip` on, `take` of them
at most. -/
structure Sql.Query.Takes (d : Dialect) (skip take : Option Nat) (query : Sql.Query) : Prop where
  text : ∃ distinct rest, query.body.sql d =
    "SELECT " ++ distinct ++ query.body.paging.opening ++ rest ++ query.body.paging.closing
  taken : ∀ {α : Type} (rows : List α), query.body.paging.taken rows = slice skip take rows
  rowsOf : ∀ (L : Library) (params : List Value) (rows : Table),
    query.body.columns.any Library.isTotal = false →
      L.rowsOf params query.body rows = slice skip take (L.found params query.body rows)

theorem Sql.Query.Takes.of_taken {d : Dialect} {skip take : Option Nat} {query : Sql.Query}
    (taken : ∀ {α : Type} (rows : List α), query.body.paging.taken rows = slice skip take rows) :
    query.Takes d skip take where
  text := ⟨_, _, query.body.sql_eq_paging d⟩
  taken := taken
  rowsOf L params rows plain := by rw [L.rowsOf_eq_taken plain, taken]

/-- Every read that can be planned takes the rows from its offset on, as many as its limit says. Its
dialect accepts how it asks for them, unless SQL Server is asked for no rows after the first ones. -/
theorem Read.pages_iff (s : Session) (schema : Schema) (t : DocumentType) (r : Read) :
    (∃ f, r.plan s schema t = .error f) ∨
      ∃ p, r.plan s schema t = .ok p ∧
        (Command.ofStatement schema.dialect p.statement).sql =
          (p.query schema.dialect).sql schema.dialect ++ ";" ∧
        (p.query schema.dialect).Takes schema.dialect r.query.offset r.limit ∧
        ((p.query schema.dialect).body.paging.Legal (p.query schema.dialect).isNested schema.dialect ↔
          ¬(schema.dialect = .mssql ∧ r.query.offset.isSome = true ∧ r.limit = some 0)) := by
  cases planned : r.plan s schema t with
  | error f => exact .inl ⟨f, rfl⟩
  | ok p =>
    obtain ⟨base, l, selects, -, -, sent⟩ := Read.plan_sends planned
    have limit : p.selection.limit = r.limit := by rw [sent, Read.send_limit selects]
    have offset : p.selection.offset = r.query.offset := by rw [sent, Read.send_offset selects]
    obtain ⟨body, nested⟩ := p.selection.body_toQuery schema.dialect #[]
    have paging : (p.query schema.dialect).body.paging =
        p.selection.clauses schema.dialect p.selection.purpose := by
      rw [Plan.query, body, Statement.Selection.paging_toRowQuery]
    refine .inr ⟨p, rfl, p.sql_query _, .of_taken fun rows => ?_, ?_⟩
    · rw [paging, Statement.Selection.taken_clauses, offset, limit]
    · rw [paging, Plan.query, nested, Statement.Selection.clauses_legal_iff, offset, limit]

namespace Orders

/-- None of the orders after the first one. -/
def nothing : Read :=
  .list { offset := some 1, limit := some 0 }

/-- To get no order from SQL Server, it is asked to fetch none, and it rejects that. -/
theorem pages_iff_nothing :
    ∃ p, nothing.plan { tenant := "a" } { schema with dialect := .mssql } type = .ok p ∧
      ¬(p.query .mssql).body.paging.Legal (p.query .mssql).isNested .mssql := by
  rcases Read.pages_iff { tenant := "a" } { schema with dialect := .mssql } type nothing with
    ⟨f, failed⟩ | ⟨p, planned, -, -, accepted⟩
  · cases failed
  · exact ⟨p, planned, fun legal => accepted.mp legal ⟨rfl, rfl, rfl⟩⟩

end Orders

end Folio
