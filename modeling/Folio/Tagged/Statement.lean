import Folio.Statement.Command
import Folio.Tagged.Value

/-!
# Statements in tagged JSON
-/

namespace Folio.Tagged

open Folio.Sql (Dialect Direction JsonPath TableName)
open Folio.Statement

/-- The names of the dialects. -/
def dialects : Names Dialect :=
  [("mssql", .mssql), ("sqlite", .sqlite)]

/-- The names of the conversions. -/
def conversions : Names Conversion :=
  [("none", .none), ("bool_text", .boolText), ("int", .cast .int), ("bigint", .cast .bigint),
    ("float", .cast .float), ("decimal", .cast .decimal), ("uuid", .cast .uuid),
    ("datetime", .cast .timestamp)]

/-- The names of the places in a text. -/
def likeKinds : Names LikeKind :=
  [("contains", .contains), ("starts_with", .startsWith), ("ends_with", .endsWith)]

/-- The names of the directions. -/
def directions : Names Direction :=
  [("asc", .ascending), ("desc", .descending)]

/-- What the JSON value stands for, unless it is nothing at all. -/
def ifThere {α : Type} (read : Json → Option α) : Json → Option (Option α)
  | .null => some none
  | j => (read j).map some

/-- What the JSON value stands for, or the alternative for nothing at all. -/
def orElse {α : Type} (alternative : α) (read : Json → Option α) : Json → Option α
  | .null => some alternative
  | j => read j

/-- The texts in an array. -/
def texts? (j : Json) : Option (List String) := do
  (← items? j).mapM text?

/-- The path whose names are in an array. -/
def path? (j : Json) : Option JsonPath :=
  (texts? j).map fun names => ⟨names⟩

/-- The place that the JSON value stands for. -/
def place? (j : Json) : Option Place :=
  match field j "col" with
  | .null => (path? (field j "json")).map .json
  | name => (text? name).map .column

/-- The locator that the JSON value stands for. -/
def locator? (j : Json) : Option Locator := do
  let l : Locator := ⟨← place? j, ← orElse .none conversions.read? (field j "conv")⟩
  return if ← flag? (field j "raw") then l.raw else l

/-- The JSON value for a locator. -/
def ofLocator (l : Locator) : Json :=
  let place := match l.place with
    | .column name => ("col", Json.text name)
    | .json path => ("json", .array (path.names.map .text))
  .object [place, ("conv", conversions.write l.conversion)]

/-- The part of a template that the JSON value stands for. -/
def templatePart? : Json → Option TemplatePart
  | .object [("text", s)] => (text? s).map .text
  | .object [("loc", l)] => (locator? l).map .locator
  | .object [("param", v)] => (value? v).map .param
  | _ => none

/-- The fragment that the JSON value stands for. -/
def fragment? : Json → Option Fragment
  | .text "never" | .object [("never", _)] => some .never
  | .object [("cmp", .array [l, op, v])] => do
    return .compare (← locator? l) (← operators.read? op) (← value? v)
  | .object [("is_null", l)] => (locator? l).map .isNull
  | .object [("is_not_null", l)] => (locator? l).map .isNotNull
  | .object [("and", .array [a, b])] => do return .and (← fragment? a) (← fragment? b)
  | .object [("or", .array [a, b])] => do return .or (← fragment? a) (← fragment? b)
  | .object [("not", a)] => (fragment? a).map .not
  | .object [("literal", s)] => (text? s).map .literal
  | .object [("in", .array [l, vs])] => do return .among (← locator? l) (← valueList? vs)
  | .object [("in_raw", .array [l, vs])] => do return .inList (← locator? l) (← valueList? vs)
  | .object [("like", .array [l, kind, s])] => do
    return .like (← locator? l) (← likeKinds.read? kind) (← text? s)
  | .object [("collated", .array [l, s])] => do return .equalFolded (← locator? l) (← text? s)
  | .object [("blank", .array [l, w])] => do return .nullOrBlank (← locator? l) (← flag? w)
  | .object [("array_contains", a)] => do
    return .arrayContains (← path? (field a "path"))
      (← orElse .none conversions.read? (field a "element")) (← value? (field a "value"))
  | .object [("template", parts)] => do return .template (← (← items? parts).mapM templatePart?)
  | _ => none

/-- The fragments in an array. -/
def fragments? (j : Json) : Option (List Fragment) := do
  (← items? j).mapM fragment?

/-- The table that the JSON value stands for. -/
def table? : Json → Option TableName
  | .array [schema, name] => do return ⟨← text? schema, ← text? name⟩
  | _ => none

/-- The projection that the JSON value stands for. -/
def projection? : Json → Option Projection
  | .text "documents" => some .documents
  | .text "count" => some .count
  | .object [("locator", l)] => (locator? l).map .locator
  | .object [("sum", l)] => (locator? l).map (.aggregate .sum)
  | .object [("min", l)] => (locator? l).map (.aggregate .min)
  | .object [("max", l)] => (locator? l).map (.aggregate .max)
  | .object [("avg", l)] => (locator? l).map (.aggregate .average)
  | _ => none

/-- The deletion that the JSON value stands for. -/
def deletion? : Json → Option Deletion
  | .text "any" => some .any
  | .text "not_deleted" => some .notDeleted
  | .text "deleted" => some .deleted
  | .object [("since", t)] => (moment? t).map .deletedSince
  | .object [("before", t)] => (moment? t).map .deletedBefore
  | _ => none

/-- The order that the JSON value stands for. -/
def order? : Json → Option (Locator × Direction)
  | .array [l, direction] => do return (← locator? l, ← directions.read? direction)
  | _ => none

/-- The stored document that the JSON value stands for. -/
def document? (j : Json) : Option StoredDocument := do
  return {
    id := ← value? (field j "id")
    data := ← text? (field j "data")
    type := ← text? (field j "doc_type")
    tenant := ← text? (field j "tenant")
    modified := ← moment? (field j "last_modified")
  }

/-- The expected version in an object, if there is one. -/
def expected? (j : Json) : Option (Option Int64) :=
  ifThere (fun n => (int? n).map Int64.ofInt) (field j "expected")

/-- The selection that the JSON value stands for. -/
def selection? (j : Json) : Option Selection := do
  return {
    table := ← table? (field j "table")
    projection := ← orElse .documents projection? (field j "columns")
    filters := ← fragments? (field j "filters")
    tenant := ← ifThere text? (field j "tenant")
    deletion := ← orElse .any deletion? (field j "deleted")
    order := ← (← items? (field j "order_by")).mapM order?
    limit := ← ifThere nat? (field j "limit")
    offset := ← ifThere nat? (field j "offset")
    distinct := ← flag? (field j "distinct")
    existence := ← flag? (field j "exists")
  }

/-- The statement that the JSON value stands for. -/
def statement? : Json → Option Statement
  | .object [(tag, j)] => do
    let table ← table? (field j "table")
    let document := document? (field j "doc")
    let tenant := text? (field j "tenant")
    let soft := ifThere moment? (field j "soft")
    match tag with
    | "select" => (selection? j).map .select
    | "insert" => return .insert ⟨table, ← document⟩
    | "update" => return .update ⟨table, ← document, ← expected? j⟩
    | "upsert" => return .upsert ⟨table, ← document, ← expected? j, ← flag? (field j "revive")⟩
    | "delete" => return .delete ⟨table, ← value? (field j "id"), ← tenant, ← soft⟩
    | "delete_where" => return .deleteWhere ⟨table, ← fragments? (field j "filters"), ← tenant, ← soft⟩
    | "undelete_where" => return .undeleteWhere ⟨table, ← fragments? (field j "filters"), ← tenant⟩
    | "create_table" =>
      return .createTable ⟨table, ← idKinds.read? (field j "id_type"), ← flag? (field j "soft_delete")⟩
    | _ => none
  | _ => none

end Folio.Tagged
