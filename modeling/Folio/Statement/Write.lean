import Folio.Sql.Change
import Folio.Statement.Selection

/-!
# Writes

What is written to a table of documents.
-/

namespace Folio.Statement

open Folio.Sql
open Folio.Time (Timestamp)

/-- A document as a row holds it. -/
structure StoredDocument where
  id : Value
  data : String
  type : String
  tenant : String
  modified : Timestamp
  deriving Repr

/-- Writes one document that is not there yet. -/
structure Insert where
  table : TableName
  document : StoredDocument
  deriving Repr

/-- Writes one document that is there, if given at the expected version. -/
structure Update where
  table : TableName
  document : StoredDocument
  expected : Option Int64
  deriving Repr

/-- Writes one document whether it is there or not; one that is there, if given at the expected version only. -/
structure Upsert where
  table : TableName
  document : StoredDocument
  expected : Option Int64
  /-- Is the document no longer deleted then? -/
  revive : Bool
  deriving Repr

/-- Deletes one document, softly if a time is given. -/
structure Delete where
  table : TableName
  id : Value
  tenant : String
  soft : Option Timestamp
  deriving Repr

/-- Deletes the documents that meet all filters, softly if a time is given. -/
structure DeleteWhere where
  table : TableName
  filters : List Fragment
  tenant : String
  soft : Option Timestamp
  deriving Repr

/-- Takes back the soft deletion of the documents that meet all filters. -/
structure UndeleteWhere where
  table : TableName
  filters : List Fragment
  tenant : String
  deriving Repr

/-- Makes a table of documents unless it is there. -/
structure CreateTable where
  table : TableName
  idKind : IdKind
  softDelete : Bool
  deriving Repr

/-- The condition that a column has a value. -/
def columnIs (name : String) (t : Term) : Condition :=
  .compare (.column name) .eq t

/-- A column and what it is set to. -/
def setColumn (name : String) (t : Term) : Assignment :=
  ⟨.column name, t⟩

/-- The condition on the version, if one is expected. -/
def versionCondition (version : Term) (expected : Option Int64) : Binding (List Condition) :=
  match expected with
  | none => return []
  | some n => return [.compare version .eq (← bindValue (.int64 n))]

/-- The values of an inserted row, in the order of its columns. -/
def bindRow (doc : StoredDocument) : Binding (List Term) := do
  let id ← bindValue doc.id
  let data ← bindValue (.text doc.data)
  let modified ← bindValue (.timestamp doc.modified)
  let type ← bindValue (.text doc.type)
  let tenant ← bindValue (.text doc.tenant)
  return [id, data, .number 1, modified, type, tenant]

/-- The insert in SQL. -/
def Insert.toChange (i : Insert) : Binding Change :=
  return .insert i.table insertColumns (← bindRow i.document)

/-- The update in SQL. -/
def Update.toChange (u : Update) : Binding Change := do
  let data ← bindValue (.text u.document.data)
  let modified ← bindValue (.timestamp u.document.modified)
  let type ← bindValue (.text u.document.type)
  let id ← bindValue u.document.id
  let tenant ← bindValue (.text u.document.tenant)
  let version ← versionCondition (.column versionColumn) u.expected
  return .update u.table
    [setColumn dataColumn data, setColumn versionColumn (.next (.column versionColumn)),
      setColumn modifiedColumn modified, setColumn typeColumn type]
    ([columnIs idColumn id, columnIs tenantColumn tenant] ++ version)

/-- The assignments that take back a deletion. -/
def reviving (column : String → Term) : List Assignment :=
  [⟨column deletedColumn, .number 0⟩, ⟨column deletedAtColumn, .null⟩]

/-- The upsert in SQL Server's words. -/
def Upsert.toMerge (u : Upsert) : Binding Merge := do
  let id ← bindValue u.document.id
  let tenant ← bindValue (.text u.document.tenant)
  let target := Term.columnOf .target
  let matched ← versionCondition (target versionColumn) u.expected
  let data ← bindValue (.text u.document.data)
  let modified ← bindValue (.timestamp u.document.modified)
  let type ← bindValue (.text u.document.type)
  return {
    table := u.table
    key := [(id, idColumn), (tenant, tenantColumn)]
    matched
    updates :=
      [⟨target dataColumn, data⟩, ⟨target versionColumn, .next (target versionColumn)⟩,
        ⟨target modifiedColumn, modified⟩, ⟨target typeColumn, type⟩] ++
        (if u.revive then reviving target else [])
    columns := insertColumns
    values := [.columnOf .source idColumn, data, .number 1, modified, type, .columnOf .source tenantColumn]
  }

/-- The upsert in SQLite's words. -/
def Upsert.toInsertOrUpdate (u : Upsert) : Binding InsertOrUpdate := do
  let values ← bindRow u.document
  let given := Term.columnOf .excluded
  let version := Term.columnOf (.table u.table) versionColumn
  let matched ← versionCondition version u.expected
  return {
    table := u.table
    columns := insertColumns
    values
    key := keyColumns
    updates :=
      [setColumn dataColumn (given dataColumn), setColumn versionColumn (.next version),
        setColumn modifiedColumn (given modifiedColumn), setColumn typeColumn (given typeColumn)] ++
        (if u.revive then reviving .column else [])
    matched
  }

/-- The upsert in SQL. -/
def Upsert.toChange (d : Dialect) (u : Upsert) : Binding Change :=
  match d with
  | .mssql => return .merge (← u.toMerge)
  | .sqlite => return .insertOrUpdate (← u.toInsertOrUpdate)

/-- The change that deletes the rows, its conditions to be given; softly if a time is given. -/
def bindDeletion (table : TableName) (soft : Option Timestamp) : Binding (List Condition → Change) :=
  match soft with
  | none => return .delete table
  | some t => do
    let deletedAt ← bindValue (.timestamp t)
    return .update table [setColumn deletedColumn (.number 1), setColumn deletedAtColumn deletedAt]

/-- The delete in SQL. -/
def Delete.toChange (x : Delete) : Binding Change := do
  let change ← bindDeletion x.table x.soft
  let id ← bindValue x.id
  let tenant ← bindValue (.text x.tenant)
  return change [columnIs idColumn id, columnIs tenantColumn tenant]

/-- The delete in SQL. What is deleted softly already is left as it is. -/
def DeleteWhere.toChange (d : Dialect) (x : DeleteWhere) : Binding Change := do
  let change ← bindDeletion x.table x.soft
  let deletion := if x.soft.isSome then Deletion.notDeleted else .any
  return change (← whereConditions d x.filters (some x.tenant) deletion)

/-- The undelete in SQL. -/
def UndeleteWhere.toChange (d : Dialect) (x : UndeleteWhere) : Binding Change := do
  return .update x.table (reviving .column) (← whereConditions d x.filters (some x.tenant) .deleted)

/-- The definition of a table of documents. -/
def CreateTable.definition (x : CreateTable) : TableDefinition where
  table := x.table
  columns :=
    [⟨idColumn, .id x.idKind, .required⟩, ⟨dataColumn, .document, .required⟩,
      ⟨versionColumn, .counter, .required⟩, ⟨modifiedColumn, .moment, .required⟩,
      ⟨typeColumn, .shortText, .required⟩, ⟨tenantColumn, .shortText, .required⟩] ++
      if x.softDelete then [⟨deletedColumn, .flag, .zero⟩, ⟨deletedAtColumn, .moment, .null⟩] else []
  key := keyColumns

end Folio.Statement
