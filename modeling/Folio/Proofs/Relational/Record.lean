import Mathlib
import Folio.Sql.Table
import Folio.Value
import Folio.DocumentId

/-!
# Folio.Proofs.Relational.Record

The rows of a table of documents, as the database keeps them.

A `Record` is typed: its version is a number of 64 bits and its payload is text,
so a value that no column can hold never gets into a table (`Record.set` and
`Record.ofColumns` reject it). Statements name columns by text and exchange
`Value`s; `Record.get` reads a column in that form.
-/

namespace Folio

open Folio.Time (Timestamp)

/-- The identity that a value is, if it is one. -/
def DocumentId.ofValue? : Value → Option DocumentId
  | .uuid u => some (.uuid u)
  | .text s => some (.text s)
  | .int32 n => some (.int32 n)
  | .int64 n => some (.int64 n)
  | _ => none

@[simp] theorem DocumentId.ofValue?_toValue (id : DocumentId) :
    DocumentId.ofValue? id.toValue = some id := by
  cases id <;> rfl

namespace Relational

open Folio.Sql

/-- A row of a table of documents. Where documents are not deleted softly the last
two columns keep their defaults. -/
structure Record where
  id : DocumentId
  data : String
  version : Int64
  modified : Timestamp
  type : String
  tenant : String
  deleted : Bool := false
  deletedAt : Option Timestamp := none
  deriving DecidableEq

/-- The rows of a table, in no order. -/
abbrev Table := Multiset Record

/-! ### Columns as values -/

/-- The number of 64 bits that a value is, if it is one. -/
def int64Of? : Value → Option Int64
  | .int64 n => some n
  | _ => none

/-- The timestamp that a value is, if it is one. -/
def timestampOf? : Value → Option Timestamp
  | .timestamp t => some t
  | _ => none

/-- The flag that a value is: zero or one. -/
def flagOf? : Value → Option Bool
  | .int64 n => if n = 0 then some false else if n = 1 then some true else none
  | _ => none

namespace Record

/-- The primary key. -/
def key (r : Record) : String × DocumentId :=
  (r.tenant, r.id)

/-- A column by its name. -/
def get (r : Record) (name : String) : Value :=
  if name = idColumn then r.id.toValue
  else if name = dataColumn then .text r.data
  else if name = versionColumn then .int64 r.version
  else if name = modifiedColumn then .timestamp r.modified
  else if name = typeColumn then .text r.type
  else if name = tenantColumn then .text r.tenant
  else if name = deletedColumn then .int64 (if r.deleted then 1 else 0)
  else if name = deletedAtColumn then (r.deletedAt.map .timestamp).getD .null
  else .null

@[simp] theorem get_id (r : Record) : r.get idColumn = r.id.toValue := rfl
@[simp] theorem get_data (r : Record) : r.get dataColumn = .text r.data := rfl
@[simp] theorem get_version (r : Record) : r.get versionColumn = .int64 r.version := rfl
@[simp] theorem get_tenant (r : Record) : r.get tenantColumn = .text r.tenant := rfl

/-- The row with a column set, if the column can hold the value. -/
def set (r : Record) (name : String) (v : Value) : Option Record :=
  if name = idColumn then (DocumentId.ofValue? v).map fun id => { r with id }
  else if name = dataColumn then v.text?.map fun data => { r with data }
  else if name = versionColumn then (int64Of? v).map fun version => { r with version }
  else if name = modifiedColumn then (timestampOf? v).map fun modified => { r with modified }
  else if name = typeColumn then v.text?.map fun type => { r with type }
  else if name = tenantColumn then v.text?.map fun tenant => { r with tenant }
  else if name = deletedColumn then (flagOf? v).map fun deleted => { r with deleted }
  else if name = deletedAtColumn then
    if v.isNull then some { r with deletedAt := none }
    else (timestampOf? v).map fun t => { r with deletedAt := some t }
  else none

@[simp] theorem set_data (r : Record) (s : String) :
    r.set dataColumn (.text s) = some { r with data := s } := rfl
@[simp] theorem set_version (r : Record) (n : Int64) :
    r.set versionColumn (.int64 n) = some { r with version := n } := rfl
@[simp] theorem set_version_null (r : Record) : r.set versionColumn .null = none := rfl
@[simp] theorem set_modified (r : Record) (t : Timestamp) :
    r.set modifiedColumn (.timestamp t) = some { r with modified := t } := rfl
@[simp] theorem set_type (r : Record) (s : String) :
    r.set typeColumn (.text s) = some { r with type := s } := rfl
@[simp] theorem set_deleted_zero (r : Record) :
    r.set deletedColumn (.int64 0) = some { r with deleted := false } := rfl
@[simp] theorem set_deleted_one (r : Record) :
    r.set deletedColumn (.int64 1) = some { r with deleted := true } := rfl
@[simp] theorem set_deletedAt_null (r : Record) :
    r.set deletedAtColumn .null = some { r with deletedAt := none } := rfl
@[simp] theorem set_deletedAt (r : Record) (t : Timestamp) :
    r.set deletedAtColumn (.timestamp t) = some { r with deletedAt := some t } := rfl

/-- A new row with these columns, if all that a row must have are among them. -/
def ofColumns (columns : List (String × Value)) : Option Record := do
  let given (name : String) : Option Value := columns.lookup name
  return {
    id := ← (← given idColumn) |> DocumentId.ofValue?
    data := ← (← given dataColumn).text?
    version := ← int64Of? (← given versionColumn)
    modified := ← timestampOf? (← given modifiedColumn)
    type := ← (← given typeColumn).text?
    tenant := ← (← given tenantColumn).text?
  }

end Record

end Relational

end Folio
