import Folio.Sql.Condition

/-!
# Queries

What a statement reads: the rows of one table, whether there are any, or a number computed from them.
-/

namespace Folio.Sql

/-- The direction of an ordering. -/
inductive Direction
  | ascending
  | descending
  deriving Repr, DecidableEq

/-- A number computed from a column of rows. -/
inductive Aggregate
  | sum
  | min
  | max
  | average
  deriving Repr, DecidableEq

/-- The function's name. -/
def Aggregate.name : Aggregate → String
  | .sum => "SUM"
  | .min => "MIN"
  | .max => "MAX"
  | .average => "AVG"

/-- The function applied to a term. SQL Server would average whole numbers by dividing without a rest. -/
def Aggregate.sql (d : Dialect) (a : Aggregate) (t : Term) : String :=
  match d, a with
  | .mssql, .average => "AVG(CAST(" ++ t.sql d ++ " AS float))"
  | _, a => a.name ++ "(" ++ t.sql d ++ ")"

/-- A column of a result. -/
inductive Column
  | term (t : Term)
  | named (t : Term) (name : String)
  | count
  | aggregate (a : Aggregate) (t : Term)
  deriving Repr, DecidableEq

/-- The column in a statement. -/
def Column.sql (d : Dialect) : Column → String
  | .term t => t.sql d
  | .named t name => t.sql d ++ " AS " ++ name
  | .count => "COUNT(*)"
  | .aggregate a t => a.sql d t

/-- The order of the rows of a query. -/
inductive Order
  | none
  | by (terms : List (Term × Direction))
  /-- No order in particular, where SQL Server insists on one. -/
  | arbitrary
  deriving Repr, DecidableEq

/-- One term of an order. -/
def orderTermSql (d : Dialect) (t : Term × Direction) : String :=
  t.1.sql d ++ (match t.2 with | .ascending => " ASC" | .descending => " DESC")

/-- The order's clause. -/
def Order.sql (d : Dialect) : Order → String
  | .none => ""
  | .by terms => " ORDER BY " ++ String.intercalate ", " (terms.map (orderTermSql d))
  | .arbitrary => " ORDER BY (SELECT NULL)"

/-- Which of the ordered rows a query takes. -/
inductive Page
  | all
  /-- From `skip` on, in SQL Server's words. -/
  | fetch (skip : Nat) (count : Option Nat)
  /-- From `skip` on, in SQLite's words. -/
  | limit (count skip : Option Nat)
  deriving Repr, DecidableEq

/-- The page's clause. -/
def Page.sql : Page → String
  | .all => ""
  | .fetch skip count =>
    " OFFSET " ++ toString skip ++ " ROWS" ++
      (match count with | some n => " FETCH NEXT " ++ toString n ++ " ROWS ONLY" | none => "")
  | .limit count skip =>
    " LIMIT " ++ (match count with | some n => toString n | none => "-1") ++
      (match skip with | some n => " OFFSET " ++ toString n | none => "")

/-- A query on the rows of one table. -/
structure RowQuery where
  distinct : Bool
  /-- How many rows are taken from the start, in SQL Server's words. -/
  top : Option Nat
  columns : List Column
  table : TableName
  conditions : List Condition
  order : Order
  page : Page
  deriving Repr

/-- The query in a statement. -/
def RowQuery.sql (d : Dialect) (q : RowQuery) : String :=
  "SELECT " ++ (if q.distinct then "DISTINCT " else "") ++
    (match q.top with | some n => "TOP " ++ toString n ++ " " | none => "") ++
    String.intercalate ", " (q.columns.map (Column.sql d)) ++
    " FROM " ++ q.table.sql d ++ whereSql d q.conditions ++ q.order.sql d ++ q.page.sql

/-- A query. -/
inductive Query
  | rows (q : RowQuery)
  /-- One if the query has a row, else zero. -/
  | exists (q : RowQuery)
  /-- A column computed from all rows of a query. -/
  | over (column : Column) (q : RowQuery)
  deriving Repr

/-- The query as a statement. -/
def Query.sql (d : Dialect) : Query → String
  | .rows q => q.sql d
  | .exists q => "SELECT CASE WHEN EXISTS (" ++ q.sql d ++ ") THEN 1 ELSE 0 END"
  | .over column q => "SELECT " ++ column.sql d ++ " FROM (" ++ q.sql d ++ ") AS q"

end Folio.Sql
