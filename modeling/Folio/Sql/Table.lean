import Folio.Sql.Dialect

/-!
# Tables of documents

All tables have the same columns, two more where documents are deleted softly.
-/

namespace Folio.Sql

/-- The name of a table. -/
structure TableName where
  schema : String
  name : String
  deriving Repr, DecidableEq

/-- The name as people read it. -/
def TableName.toText (t : TableName) : String :=
  t.schema ++ "." ++ t.name

/-- The name in a statement; SQLite has no schemas. -/
def TableName.sql (d : Dialect) (t : TableName) : String :=
  match d with
  | .mssql => bracketName t.schema ++ "." ++ bracketName t.name
  | .sqlite => Dialect.sqlite.quoteName t.name

/-! ## Columns -/

/-- The identity of the document. -/
def idColumn : String := "id"

/-- The document, as JSON text. -/
def dataColumn : String := "data"

/-- How often the document was written. -/
def versionColumn : String := "version"

/-- When the document was written. -/
def modifiedColumn : String := "last_modified"

/-- The alias of the document's type. -/
def typeColumn : String := "doc_type"

/-- Whose document it is. -/
def tenantColumn : String := "tenant_id"

/-- Is the document deleted? -/
def deletedColumn : String := "is_deleted"

/-- When the document was deleted. -/
def deletedAtColumn : String := "deleted_at"

/-- The columns that an insert fills. -/
def insertColumns : List String :=
  [idColumn, dataColumn, versionColumn, modifiedColumn, typeColumn, tenantColumn]

/-- The columns of the primary key. -/
def keyColumns : List String :=
  [tenantColumn, idColumn]

end Folio.Sql
