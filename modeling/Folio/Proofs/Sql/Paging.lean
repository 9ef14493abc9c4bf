import Mathlib
import Folio.Sql.Query

/-!
# Folio.Proofs.Sql.Paging

The clauses of a query that say which of its rows it takes, as they are written in its text
(`RowQuery.sql_eq_paging`): when a dialect accepts them (`Paging.Legal`), and which rows they take
(`Paging.taken`). Numbers in clauses are those that the text has, so a limit can be negative.

Both are read off the clauses alone. They know nothing of how a page was asked for; that is what
`slice` says.
-/

namespace Folio.Sql

/-- The clauses of a query that say which of its rows it takes. -/
structure Paging where
  /-- `TOP n`. -/
  top : Option Nat := none
  /-- Is there an `ORDER BY`? -/
  ordered : Bool := false
  /-- `OFFSET n ROWS`. -/
  offset : Option Nat := none
  /-- `FETCH NEXT n ROWS ONLY`. -/
  fetch : Option Nat := none
  /-- `LIMIT n`. -/
  limit : Option Int := none
  /-- `OFFSET n`, after a limit. -/
  skip : Option Nat := none
  deriving Repr, DecidableEq

namespace Paging

/-! ### The text -/

/-- The clause before the columns. -/
def opening (p : Paging) : String :=
  match p.top with
  | some n => "TOP " ++ toString n ++ " "
  | none => ""

/-- The clauses after the order. -/
def closing (p : Paging) : String :=
  (match p.offset with | some n => " OFFSET " ++ toString n ++ " ROWS" | none => "") ++
  (match p.fetch with | some n => " FETCH NEXT " ++ toString n ++ " ROWS ONLY" | none => "") ++
  (match p.limit with | some n => " LIMIT " ++ toString n | none => "") ++
  (match p.skip with | some n => " OFFSET " ++ toString n | none => "")

/-! ### What the dialects accept -/

/-- Does the dialect accept the clauses, in a query by itself or nested in another one? SQL Server
skips rows of ordered queries only and fetches one row at least, and orders a nested query only where
it pages. SQLite skips rows after a limit only. Neither knows the other's clauses. -/
def Legal (p : Paging) (nested : Bool) : Dialect → Prop
  | .mssql =>
    p.limit = none ∧ p.skip = none ∧
      (p.offset.isSome → p.ordered ∧ p.top = none) ∧
      (∀ n, p.fetch = some n → p.offset.isSome ∧ 1 ≤ n) ∧
      (nested → p.ordered → p.top.isSome ∨ p.offset.isSome)
  | .sqlite =>
    p.top = none ∧ p.offset = none ∧ p.fetch = none ∧ (p.skip.isSome → p.limit.isSome)

/-! ### The rows -/

/-- The first rows, where there is a bound on how many. -/
def atMost {α : Type} (n : Option Nat) (rows : List α) : List α :=
  match n with
  | some n => rows.take n
  | none => rows

/-- A negative limit is none. -/
def bound (n : Int) : Option Nat :=
  if n < 0 then none else some n.toNat

@[simp] theorem atMost_none {α : Type} (rows : List α) : atMost none rows = rows := rfl
@[simp] theorem atMost_some {α : Type} (n : Nat) (rows : List α) :
    atMost (some n) rows = rows.take n := rfl
@[simp] theorem bound_neg_one : bound (-1) = none := rfl
@[simp] theorem bound_natCast (n : Nat) : bound n = some n := by
  simp [bound]

/-- The rows that the clauses take of the ordered rows. -/
def taken {α : Type} (p : Paging) (rows : List α) : List α :=
  let rows := atMost p.fetch (rows.drop (p.offset.getD 0))
  let rows := atMost (p.limit.bind bound) (rows.drop (p.skip.getD 0))
  atMost p.top rows

end Paging

/-- The rows from `skip` on, and `take` of them at most. -/
def slice {α : Type} (skip take : Option Nat) (rows : List α) : List α :=
  Paging.atMost take (rows.drop (skip.getD 0))

@[simp] theorem slice_none {α : Type} (rows : List α) : slice none none rows = rows := rfl

theorem map_slice {α β : Type} (f : α → β) (skip take : Option Nat) (rows : List α) :
    (slice skip take rows).map f = slice skip take (rows.map f) := by
  cases take <;> simp [slice, List.map_drop, List.map_take]

theorem slice_sublist {α : Type} (skip take : Option Nat) (rows : List α) :
    (slice skip take rows).Sublist rows := by
  unfold slice
  cases take with
  | none => exact List.drop_sublist _ _
  | some n => exact (List.take_sublist _ _).trans (List.drop_sublist _ _)

/-! ### Queries -/

namespace RowQuery

/-- The clauses of a query that say which of its rows it takes. -/
def paging (q : RowQuery) : Paging where
  top := q.top
  ordered :=
    match q.order with
    | .by (_ :: _) | .arbitrary => true
    | .by [] | .none => false
  offset :=
    match q.page with
    | .fetch skip _ => some skip
    | .all | .limit .. => none
  fetch :=
    match q.page with
    | .fetch _ count => count
    | .all | .limit .. => none
  limit :=
    match q.page with
    | .limit (some n) _ => some n
    | .limit none _ => some (-1)
    | .all | .fetch .. => none
  skip :=
    match q.page with
    | .limit _ skip => skip
    | .all | .fetch .. => none

/-- The text of a query has its clauses at their places, as they are read. -/
theorem sql_eq_paging (d : Dialect) (q : RowQuery) :
    q.sql d =
      "SELECT " ++ (if q.distinct then "DISTINCT " else "") ++ q.paging.opening ++
        (String.intercalate ", " (q.columns.map (Column.sql d)) ++ " FROM " ++ q.table.sql d ++
          whereSql d q.conditions ++ q.order.sql d) ++ q.paging.closing := by
  have closing : q.page.sql = q.paging.closing := by
    cases page : q.page with
    | all => simp [Page.sql, Paging.closing, paging, page]
    | fetch skip count =>
      cases count <;> simp [Page.sql, Paging.closing, paging, page]
    | limit count skip =>
      cases count <;> cases skip <;> simp [Page.sql, Paging.closing, paging, page] <;> rfl
  rw [sql, closing]
  simp only [String.append_assoc]
  rfl

end RowQuery

end Folio.Sql
