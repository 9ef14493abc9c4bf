import Folio.DocumentId
import Folio.Sql.Condition

/-!
# Changes

What a statement does to the rows of one table, and how the table is made.
-/

namespace Folio.Sql

/-- A column and what it is set to. -/
structure Assignment where
  column : Term
  value : Term
  deriving Repr, DecidableEq

/-- The assignment in a statement. -/
def Assignment.sql (d : Dialect) (a : Assignment) : String :=
  a.column.sql d ++ " = " ++ a.value.sql d

/-- Assignments with commas between them. -/
def assignmentsSql (d : Dialect) (as : List Assignment) : String :=
  String.intercalate ", " (as.map (Assignment.sql d))

/-- Values or columns between parentheses. -/
def tupleSql (items : List String) : String :=
  "(" ++ String.intercalate ", " items ++ ")"

/-- The types of columns. -/
inductive ColumnType
  | id (kind : IdKind)
  | document
  | counter
  | moment
  | shortText
  | flag
  deriving Repr, DecidableEq

/-- The type in the dialect's words. -/
def ColumnType.sql : Dialect → ColumnType → String
  | .mssql, .id .uuid => "uniqueidentifier"
  | .mssql, .id .text => "nvarchar(256)"
  | .mssql, .id .int32 => "int"
  | .mssql, .id .int64 => "bigint"
  | .mssql, .document => "nvarchar(max)"
  | .mssql, .counter => "bigint"
  | .mssql, .moment => "datetimeoffset"
  | .mssql, .shortText => "nvarchar(256)"
  | .mssql, .flag => "bit"
  | .sqlite, .id .int32 | .sqlite, .id .int64 | .sqlite, .counter | .sqlite, .flag => "INTEGER"
  | .sqlite, _ => "TEXT"

/-- What a column holds when nothing is said about it. -/
inductive Presence
  /-- Every row says what it holds. -/
  | required
  | zero
  | null
  deriving Repr, DecidableEq

/-- A column of a table. -/
structure ColumnDefinition where
  name : String
  type : ColumnType
  presence : Presence := .required
  deriving Repr, DecidableEq

/-- The column in the statement that makes the table. -/
def ColumnDefinition.sql (d : Dialect) (c : ColumnDefinition) : String :=
  c.name ++ " " ++ c.type.sql d ++
    (match c.presence with | .required => " NOT NULL" | .zero => " NOT NULL DEFAULT 0" | .null => " NULL")

/-- A table to be made, unless it is there. -/
structure TableDefinition where
  table : TableName
  columns : List ColumnDefinition
  key : List String
  deriving Repr, DecidableEq

/-- The statement that makes the table. SQL Server needs the schema first, and wants a name for the key. -/
def TableDefinition.sql (d : Dialect) (t : TableDefinition) : String :=
  let columns := String.intercalate ", " (t.columns.map (ColumnDefinition.sql d))
  let key := "PRIMARY KEY " ++ tupleSql t.key
  match d with
  | .mssql =>
    "IF SCHEMA_ID(" ++ nationalText t.table.schema ++ ") IS NULL EXEC(" ++
      nationalText ("CREATE SCHEMA " ++ bracketName t.table.schema) ++ ");\n" ++
      "IF OBJECT_ID(" ++ nationalText (t.table.sql .mssql) ++ ", N'U') IS NULL CREATE TABLE " ++
      t.table.sql .mssql ++ " (" ++ columns ++ ", CONSTRAINT " ++ bracketName ("pk_" ++ t.table.name) ++
      " " ++ key ++ ")"
  | .sqlite => "CREATE TABLE IF NOT EXISTS " ++ t.table.sql .sqlite ++ " (" ++ columns ++ ", " ++ key ++ ")"

/-- A row to be merged into a table by its key. -/
structure Merge where
  table : TableName
  /-- The key of the given row, value and column. -/
  key : List (Term × String)
  /-- What an existing row must meet besides to be updated. -/
  matched : List Condition
  updates : List Assignment
  columns : List String
  values : List Term
  deriving Repr

/-- The merge as a statement; the lock makes test and write one step. -/
def Merge.sql (d : Dialect) (m : Merge) : String :=
  "MERGE " ++ m.table.sql d ++ " WITH (HOLDLOCK) AS target USING (SELECT " ++
    String.intercalate ", " (m.key.map fun (t, name) => t.sql d ++ " AS " ++ name) ++
    ") AS source ON " ++
    String.intercalate " AND " (m.key.map fun (_, name) => "target." ++ name ++ " = source." ++ name) ++
    " WHEN MATCHED" ++ String.join (m.matched.map fun c => " AND " ++ c.sql d) ++
    " THEN UPDATE SET " ++ assignmentsSql d m.updates ++
    " WHEN NOT MATCHED THEN INSERT " ++ tupleSql m.columns ++
    " VALUES " ++ tupleSql (m.values.map (Term.sql d))

/-- A row to be inserted, or else to update the row of the same key. -/
structure InsertOrUpdate where
  table : TableName
  columns : List String
  values : List Term
  key : List String
  updates : List Assignment
  /-- What an existing row must meet to be updated. -/
  matched : List Condition
  deriving Repr

/-- Inserting a row. -/
def insertSql (d : Dialect) (table : TableName) (columns : List String) (values : List Term) : String :=
  "INSERT INTO " ++ table.sql d ++ " " ++ tupleSql columns ++
    " VALUES " ++ tupleSql (values.map (Term.sql d))

/-- The insert or update as a statement. -/
def InsertOrUpdate.sql (d : Dialect) (i : InsertOrUpdate) : String :=
  insertSql d i.table i.columns i.values ++ " ON CONFLICT " ++ tupleSql i.key ++
    " DO UPDATE SET " ++ assignmentsSql d i.updates ++ whereSql d i.matched

/-- A change of a table. -/
inductive Change
  | insert (table : TableName) (columns : List String) (values : List Term)
  | update (table : TableName) (updates : List Assignment) (conditions : List Condition)
  | delete (table : TableName) (conditions : List Condition)
  | merge (m : Merge)
  | insertOrUpdate (i : InsertOrUpdate)
  | createTable (t : TableDefinition)
  deriving Repr

/-- The change as a statement. -/
def Change.sql (d : Dialect) : Change → String
  | .insert table columns values => insertSql d table columns values
  | .update table updates conditions =>
    "UPDATE " ++ table.sql d ++ " SET " ++ assignmentsSql d updates ++ whereSql d conditions
  | .delete table conditions => "DELETE FROM " ++ table.sql d ++ whereSql d conditions
  | .merge m => m.sql d
  | .insertOrUpdate i => i.sql d
  | .createTable t => t.sql d

end Folio.Sql
