import Folio.Proofs.Relational.Record
import Folio.Sql.Query

/-!
# Folio.Proofs.Relational.Meaning

What the terms, conditions and queries of a statement mean on the rows of a table.

Conditions are three-valued: a comparison with the missing value is unknown, and a row is
taken only if its condition is true. What SQL leaves to the database (how parts of a JSON
text are found, casts, patterns, the order in which rows come) is a `Library`, and nothing
is assumed of it here but that `arrange` loses no row and adds none. Equality of texts,
identifiers and whole numbers is exact.

* `Library.term`: the value of a term.
* `Library.truth`: the truth of a condition, `none` if unknown.
* `Library.selected`: the rows that a query takes.
* `Library.answer`: the rows that a query answers.
-/

namespace Folio.Relational

open Folio.Sql

/-- What a database computes by itself. -/
structure Library where
  /-- The part of a JSON text at a path. -/
  json : JsonPath → Value → Value
  /-- The name of the type of that part. -/
  jsonType : JsonPath → Value → Value
  /-- The elements of the array at a path, each with the name of its type. -/
  elements : JsonPath → Value → List (Value × Value)
  cast : Cast → Value → Value
  byteLength : Value → Value
  trimmed : Value → Value
  /-- The order of values that are not equal. -/
  less : Value → Value → Bool
  /-- The order of two values of different kinds, or of kinds that have no exact equality. -/
  order : Value → Value → Option Ordering
  like : Value → Value → Option Bool
  equalFolded : Value → Value → Option Bool
  /-- The truth of a condition in free form, given its texts and values. -/
  free : List (String ⊕ Value) → (String → Value) → Option Bool
  aggregate : Aggregate → List Value → Value
  /-- The form in which a value comes back that is neither a text nor a whole number. -/
  shown : Value → Value
  /-- The order in which rows come. -/
  arrange : List ((Record → Value) × Direction) → Table → List Record
  arrange_coe : ∀ keys rows, (arrange keys rows : Table) = rows

/-- What the names in a statement stand for at one row. -/
structure Env where
  column : String → Value
  columnOf : RowName → String → Value
  params : List Value
  element : Value × Value := (.null, .null)

/-- The names in a statement that knows no rows but those of its table. -/
def Record.env (r : Record) (params : List Value) : Env where
  column := r.get
  columnOf _ := r.get
  params

/-- One more than a whole number. There is none beyond 64 bits. -/
def next : Value → Value
  | .int64 n => if n < Int64.maxValue then .int64 (n + 1) else .null
  | _ => .null

/-- The order of two values of one kind that has an exact equality. -/
def exactly (equal less : Bool) : Ordering :=
  if equal then .eq else if less then .lt else .gt

theorem exactly_eq_iff {equal less : Bool} : exactly equal less = .eq ↔ equal = true := by
  cases equal <;> cases less <;> simp [exactly]

/-! ### Three-valued logic -/

/-- Both, unknown unless one is false or both are true. -/
def both : Option Bool → Option Bool → Option Bool
  | some false, _ | _, some false => some false
  | some true, some true => some true
  | _, _ => none

/-- Either, unknown unless one is true or both are false. -/
def either : Option Bool → Option Bool → Option Bool
  | some true, _ | _, some true => some true
  | some false, some false => some false
  | _, _ => none

namespace Library

variable (L : Library)

/-- The order of two values, unknown if one is missing. -/
def compare : Value → Value → Option Ordering
  | .null, _ | _, .null => none
  | .text s, .text t => some (exactly (s = t) (L.less (.text s) (.text t)))
  | .uuid u, .uuid v => some (exactly (u = v) (L.less (.uuid u) (.uuid v)))
  | .int32 n, .int32 m => some (exactly (n = m) (n < m))
  | .int64 n, .int64 m => some (exactly (n = m) (n < m))
  | v, w => L.order v w

/-- Are the values equal? -/
def equal (v w : Value) : Option Bool :=
  (L.compare v w).map Operator.eq.holds

/-- The value of a term. -/
def term (env : Env) : Term → Value
  | .column name => env.column name
  | .columnOf row name => env.columnOf row name
  | .slot n => (env.params[n - 1]?).getD .null
  | .number n => .int64 (Int64.ofNat n)
  | .null => .null
  | .emptyText => .text ""
  | .json path => L.json path (env.column dataColumn)
  | .jsonType path => L.jsonType path (env.column dataColumn)
  | .element => env.element.1
  | .elementType => env.element.2
  | .cast type inner => L.cast type (term env inner)
  | .next inner => next (term env inner)
  | .byteLength inner => L.byteLength (term env inner)
  | .trimmed inner => L.trimmed (term env inner)

/-- The value of a part in free form. -/
def part (env : Env) : Part → String ⊕ Value
  | .text s => .inl s
  | .term t => .inr (L.term env t)

/-- The truth of a condition. -/
def truth (env : Env) : Condition → Option Bool
  | .compare left op right => (L.compare (L.term env left) (L.term env right)).map op.holds
  | .isNull t => some (L.term env t).isNull
  | .isNotNull t => some !(L.term env t).isNull
  | .and left right => both (truth env left) (truth env right)
  | .or left right => either (truth env left) (truth env right)
  | .not inner => (truth env inner).map (!·)
  | .literal text =>
    if text = "1=1" then some true
    else if text = "1=0" then some false
    else L.free [.inl text] env.column
  | .inList t items =>
    (items.map fun item => L.equal (L.term env t) (L.term env item)).foldr either (some false)
  | .like t pattern => L.like (L.term env t) (L.term env pattern)
  | .equalFolded t other => L.equalFolded (L.term env t) (L.term env other)
  | .anyElement path item other =>
    some <| (L.elements path (env.column dataColumn)).any fun element =>
      let env := { env with element }
      L.equal (L.term env item) (L.term env other) = some true
  | .template parts => L.free (parts.map (L.part env)) env.column

/-- Are all conditions true? -/
def all (env : Env) (conditions : List Condition) : Bool :=
  conditions.all fun c => L.truth env c = some true

/-! ### Queries -/

/-- A column of one row. -/
def column (env : Env) : Column → Value
  | .term t | .named t _ => L.term env t
  | .count | .aggregate .. => .null

/-- A column computed from all rows. -/
def total (envs : List Env) : Column → Value
  | .count => .int64 (Int64.ofNat envs.length)
  | .aggregate a t => L.aggregate a ((envs.map fun env => L.term env t).filter (!·.isNull))
  | .term _ | .named .. => .null

/-- Is the column computed from all rows? -/
def isTotal : Column → Bool
  | .count | .aggregate .. => true
  | .term _ | .named .. => false

/-- The rows of a page. -/
def page {α : Type} : Page → List α → List α
  | .all, rows => rows
  | .fetch skip count, rows | .limit count (some skip), rows =>
    match count with
    | some n => (rows.drop skip).take n
    | none => rows.drop skip
  | .limit count none, rows =>
    match count with
    | some n => rows.take n
    | none => rows

/-- The rows of the table that a query takes. -/
def selected (params : List Value) (q : RowQuery) (rows : Table) : Table :=
  rows.filter fun r => L.all (r.env params) q.conditions

/-- What the rows are put in order by. -/
def sortKeys (params : List Value) : Order → List ((Record → Value) × Direction)
  | .none | .arbitrary => []
  | .by terms => terms.map fun (t, direction) => (fun r => L.term (r.env params) t, direction)

/-- The environments of the rows that a query takes, in order. -/
def environments (params : List Value) (q : RowQuery) (rows : Table) : List Env :=
  (L.arrange (L.sortKeys params q.order) (L.selected params q rows)).map (·.env params)

open Classical in
/-- The rows of a query. -/
noncomputable def rowsOf (params : List Value) (q : RowQuery) (rows : Table) : List Row :=
  let envs := L.environments params q rows
  if q.columns.any isTotal then [q.columns.map (L.total envs)]
  else
    let found := envs.map fun env => q.columns.map (L.column env)
    let found := if q.distinct then found.dedup else found
    let found := page q.page found
    match q.top with
    | some n => found.take n
    | none => found

/-- A row of a query as the row of another one, its columns found by their names. -/
def derived (params : List Value) (q : RowQuery) (row : Row) : Env :=
  let names := q.columns.map fun
    | .named _ name => name
    | _ => ""
  let find (name : String) : Value := ((names.zip row).lookup name).getD .null
  { column := find, columnOf := fun _ => find, params }

/-- A value as it comes back. -/
def reply : Value → Value
  | .text s => .text s
  | .int64 n => .int64 n
  | v => L.shown v

/-- The rows that a query answers. -/
noncomputable def answer (params : List Value) (q : Query) (rows : Table) : List Row :=
  let found : List Row :=
    match q with
    | .rows q => L.rowsOf params q rows
    | .exists q => [[.int64 (if (L.rowsOf params q rows).isEmpty then 0 else 1)]]
    | .over column q => [[L.total ((L.rowsOf params q rows).map (derived params q)) column]]
  found.map fun row => row.map L.reply

/-! ### Exact equality -/

theorem equal_text {s t : String} : L.equal (.text s) (.text t) = some true ↔ s = t := by
  by_cases h : s = t <;> simp [equal, compare, Operator.holds, exactly_eq_iff, h]

theorem equal_int64 {n m : Int64} : L.equal (.int64 n) (.int64 m) = some true ↔ n = m := by
  by_cases h : n = m <;> simp [equal, compare, Operator.holds, exactly_eq_iff, h]

/-- Identities of one kind are equal as values only if they are the same. -/
theorem equal_toValue {a b : DocumentId} (h : a.kind = b.kind) :
    L.equal a.toValue b.toValue = some true ↔ a = b := by
  cases a <;> cases b <;> simp_all [DocumentId.kind, DocumentId.toValue, equal, compare,
    Operator.holds, exactly_eq_iff]

end Library

end Folio.Relational
