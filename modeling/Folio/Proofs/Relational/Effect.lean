import Folio.Proofs.Relational.Meaning
import Folio.Statement.Command

/-!
# Folio.Proofs.Relational.Effect

What the changes of a statement do to the rows of a table, and what a statement of the
library means: a statement is rendered from its `Tree` (`Statement.sql_eq_tree`), and it
means what its tree means under the values that are bound with it.

An `UPDATE` or `DELETE` concerns the rows on which all its conditions are true. A `MERGE`
and an `INSERT ... ON CONFLICT` concern the rows of the given key, and insert one if there
is none. A statement is refused as a whole if it would add a second row of the same key
(`Refusal.duplicate`) or would put into a column what the column cannot hold
(`Refusal.constraint`), which is also where a version beyond 64 bits ends.
-/

namespace Folio.Relational

open Folio.Sql

/-- Why a statement is refused. -/
inductive Refusal
  | duplicate
  | constraint
  deriving DecidableEq

/-- How many rows were changed, and what the table holds then. -/
abbrev Changed := Except Refusal (Nat × Table)

/-- Rewrites the rows that match, if each of them can be rewritten. -/
def rewrite (matched : Record → Bool) (f : Record → Option Record) (rows : Table) : Changed :=
  if ∀ r ∈ rows, matched r → (f r).isSome then
    .ok (rows.countP (matched ·), rows.map fun r => if matched r then (f r).getD r else r)
  else .error .constraint

/-- The column that a term names. -/
def columnName : Term → String
  | .column name | .columnOf _ name => name
  | _ => ""

/-- The names in a statement that has no row at hand. -/
def noRow (params : List Value) : Env where
  column _ := .null
  columnOf _ _ := .null
  params

namespace Library

variable (L : Library)

/-- Do the rows agree in these columns? -/
def agreeIn (names : List String) (r s : Record) : Bool :=
  names.all fun name => L.equal (r.get name) (s.get name) = some true

/-- Adds a row, unless there is one of the same key. -/
def add (new : Record) (rows : Table) : Changed :=
  if rows.filter (L.agreeIn keyColumns · new) = 0 then .ok (1, new ::ₘ rows) else .error .duplicate

/-- The row with all assignments made. Each sees the row as it was. -/
def assigned (env : Env) (updates : List Assignment) (r : Record) : Option Record :=
  updates.foldlM (fun r a => r.set (columnName a.column) (L.term env a.value)) r

/-- The row that has these values in these columns. -/
def newRow (env : Env) (columns : List String) (values : List Term) : Option Record :=
  Record.ofColumns (columns.zip (values.map (L.term env)))

/-- The row that a merge is given, by its key columns. -/
def given (params : List Value) (m : Merge) (name : String) : Value :=
  ((m.key.map fun (t, name) => (name, L.term (noRow params) t)).lookup name).getD .null

/-- The names in a merge, at a row of the table. -/
def mergeEnv (params : List Value) (m : Merge) (target : String → Value) : Env where
  column := target
  columnOf
    | .source => L.given params m
    | _ => target
  params

/-- Is it a row of the key that the merge is given? -/
def hasKey (params : List Value) (m : Merge) (r : Record) : Bool :=
  m.key.all fun (_, name) => L.equal (r.get name) (L.given params m name) = some true

/-- Merges a row into the table. -/
def merge (params : List Value) (m : Merge) (rows : Table) : Changed :=
  if rows.filter (L.hasKey params m ·) = 0 then
    match L.newRow (L.mergeEnv params m fun _ => .null) m.columns m.values with
    | some new => L.add new rows
    | none => .error .constraint
  else
    rewrite (fun r => L.hasKey params m r && L.all (L.mergeEnv params m r.get) m.matched)
      (fun r => L.assigned (L.mergeEnv params m r.get) m.updates r) rows

/-- The names in an insert that may become an update, at a row of the table. -/
def conflictEnv (params : List Value) (new r : Record) : Env where
  column := r.get
  columnOf
    | .excluded => new.get
    | _ => r.get
  params

/-- Inserts a row, or updates the row that it conflicts with. -/
def insertOrUpdate (params : List Value) (i : InsertOrUpdate) (rows : Table) : Changed :=
  match L.newRow (noRow params) i.columns i.values with
  | none => .error .constraint
  | some new =>
    if rows.filter (L.agreeIn i.key · new) = 0 then L.add new rows
    else
      rewrite (fun r => L.agreeIn i.key r new && L.all (conflictEnv params new r) i.matched)
        (fun r => L.assigned (conflictEnv params new r) i.updates r) rows

/-- Carries out a change. Making a table that is there already changes nothing. -/
def change (params : List Value) (c : Change) (rows : Table) : Changed :=
  match c with
  | .insert _ columns values =>
    match L.newRow (noRow params) columns values with
    | some new => L.add new rows
    | none => .error .constraint
  | .update _ updates conditions =>
    rewrite (fun r => L.all (r.env params) conditions)
      (fun r => L.assigned (r.env params) updates r) rows
  | .delete _ conditions =>
    let gone (r : Record) : Bool := L.all (r.env params) conditions
    .ok (rows.countP (gone ·), rows.filter (!gone ·))
  | .merge m => L.merge params m rows
  | .insertOrUpdate i => L.insertOrUpdate params i rows
  | .createTable _ => .ok (0, rows)

end Library

/-! ### Statements as trees -/

/-- What a statement is rendered from. -/
inductive Tree
  | query (q : Sql.Query)
  | change (c : Change)

/-- The tree as a statement. -/
def Tree.sql (d : Dialect) : Tree → String
  | .query q => q.sql d
  | .change c => c.sql d

end Relational

open Relational (Tree)
open Statement (Binding)

/-- The tree of a statement, its values bound. -/
def Statement.tree (d : Sql.Dialect) : Statement → Binding Tree
  | .select s => return .query (← s.toQuery d)
  | .insert x => return .change (← x.toChange)
  | .update x => return .change (← x.toChange)
  | .upsert x => return .change (← x.toChange d)
  | .delete x => return .change (← x.toChange)
  | .deleteWhere x => return .change (← x.toChange d)
  | .undeleteWhere x => return .change (← x.toChange d)
  | .createTable x => return .change (.createTable x.definition)

/-- The text of a statement is that of its tree. -/
theorem Statement.sql_eq_tree (d : Sql.Dialect) (s : Statement) :
    s.sql d = Tree.sql d <$> s.tree d := by
  cases s <;> rfl

namespace Relational

open Folio.Sql (TableName)

/-- The table that a query reads. -/
def tableOfQuery : Sql.Query → TableName
  | .rows q | .exists q | .over _ q => q.table

/-- The table that a change changes. -/
def tableOfChange : Sql.Change → TableName
  | .insert table .. | .update table .. | .delete table _ => table
  | .merge m => m.table
  | .insertOrUpdate i => i.table
  | .createTable t => t.table

/-- What the tables of a database hold. -/
abbrev Content := TableName → Table

namespace Library

variable (L : Library)

/-- What a command of one statement does to the tables. -/
def effect (d : Sql.Dialect) (s : Statement) (content : Content) : Except Refusal (Nat × Content) :=
  match s.tree d #[] with
  | (.change c, params) =>
    (L.change params.toList c (content (tableOfChange c))).map fun (n, rows) =>
      (n, Function.update content (tableOfChange c) rows)
  | (.query _, _) => .ok (0, content)

/-- What the statements of a command answer, each the rows that it reads. -/
noncomputable def answers (d : Sql.Dialect) (ss : List Statement) (content : Content) :
    List (List Row) :=
  let (trees, params) := ss.mapM (Statement.tree d) #[]
  trees.map fun
    | .query q => L.answer params.toList q (content (tableOfQuery q))
    | .change _ => []

end Library

end Relational

end Folio
