import Folio.Sql.JsonPath
import Folio.Sql.Table

/-!
# Terms

The scalar expressions of SQL that statements are made of. A bound value is present as the number of its
parameter only, so no term holds one.
-/

namespace Folio.Sql

/-- The types that a part of a document can be cast to. -/
inductive Cast
  | int
  | bigint
  | float
  | decimal
  | uuid
  | timestamp
  deriving Repr, DecidableEq

/-- The type in SQL Server's words. -/
def Cast.mssqlType : Cast → String
  | .int => "int"
  | .bigint => "bigint"
  | .float => "float"
  | .decimal => "decimal(28, 10)"
  | .uuid => "uniqueidentifier"
  | .timestamp => "datetimeoffset"

/-- The cast of a term. SQLite has no identifiers, and compares timestamps in a layout of its own. -/
def Cast.sql (d : Dialect) (c : Cast) (inner : String) : String :=
  match d, c with
  | .mssql, c => "CAST(" ++ inner ++ " AS " ++ c.mssqlType ++ ")"
  | .sqlite, .int | .sqlite, .bigint => "CAST(" ++ inner ++ " AS INTEGER)"
  | .sqlite, .float | .sqlite, .decimal => "CAST(" ++ inner ++ " AS REAL)"
  | .sqlite, .uuid => inner
  | .sqlite, .timestamp => "strftime('%Y-%m-%d %H:%M:%f', " ++ inner ++ ")"

/-- The rows that a statement can name besides the one at hand. -/
inductive RowName
  /-- The row that a merge writes. -/
  | target
  /-- The row that a merge is given. -/
  | source
  /-- The row that could not be inserted. -/
  | excluded
  /-- The row of the table. -/
  | table (t : TableName)
  deriving Repr, DecidableEq

/-- The row's name in a statement. -/
def RowName.sql (d : Dialect) : RowName → String
  | .target => "target"
  | .source => "source"
  | .excluded => "excluded"
  | .table t => t.sql d

/-- A scalar expression. -/
inductive Term
  | column (name : String)
  | columnOf (row : RowName) (name : String)
  /-- The parameter of that number. -/
  | slot (number : Nat)
  | number (n : Nat)
  | null
  | emptyText
  /-- The part of the document at the path. -/
  | json (path : JsonPath)
  /-- The name of the type of that part, by which SQLite tells booleans. -/
  | jsonType (path : JsonPath)
  /-- An element of an array in the document. -/
  | element
  /-- The name of the type of the element. -/
  | elementType
  | cast (type : Cast) (inner : Term)
  /-- One more than the number. -/
  | next (inner : Term)
  /-- How many bytes the text has. -/
  | byteLength (inner : Term)
  /-- The text without blanks at its ends. -/
  | trimmed (inner : Term)
  deriving Repr, DecidableEq

/-- The term in a statement. -/
def Term.sql (d : Dialect) : Term → String
  | .column name => name
  | .columnOf row name => row.sql d ++ "." ++ name
  | .slot n => d.placeholder n
  | .number n => toString n
  | .null => "NULL"
  | .emptyText => "''"
  | .json path =>
    (match d with | .mssql => "JSON_VALUE(" | .sqlite => "json_extract(") ++
      dataColumn ++ ", " ++ path.sql ++ ")"
  | .jsonType path => "json_type(" ++ dataColumn ++ ", " ++ path.sql ++ ")"
  | .element => match d with | .mssql => "j.[value]" | .sqlite => "j.value"
  | .elementType => "j.type"
  | .cast type inner => type.sql d (inner.sql d)
  | .next inner => inner.sql d ++ " + 1"
  | .byteLength inner => "DATALENGTH(" ++ inner.sql d ++ ")"
  | .trimmed inner =>
    match d with
    | .mssql => "LTRIM(RTRIM(" ++ inner.sql d ++ "))"
    | .sqlite => "TRIM(" ++ inner.sql d ++ ")"

end Folio.Sql
