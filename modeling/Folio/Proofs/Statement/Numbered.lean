import Folio.Proofs.Sql.Pieces

/-!
# Folio.Proofs.Statement.Numbered

Which parameters the text of a statement uses.

Placeholders stand for bound values only: what is located in a document has none
(`numbers_toTerm`). A rendering that starts with `n` values bound goes on with values of its own
(`Binds`), and it uses the parameters `n + 1`, `n + 2`, … up to the last of them, each at least
once and no others (`Tallies`). That is shown for every function that binds values, up to
`Tallies.tree`. The order of the text is not that of the numbers, and a `MERGE` uses some twice.
-/

namespace Folio.Statement

open Folio.Sql
open Folio.Relational (Tree)
open Folio.Time (Timestamp)

variable (d : Dialect)

/-! ### Pieces without placeholders -/

@[simp] theorem numbers_toTerm (l : Locator) : numbers ((l.toTerm d).pieces d) = [] := by
  obtain ⟨place, conversion⟩ := l
  cases d <;> cases place <;> rcases conversion with - | - | type <;>
    first | rfl | (cases type <;> rfl)

theorem numbers_elementTerm (c : Conversion) : numbers ((elementTerm d c).pieces d) = [] := by
  cases d <;> rcases c with - | - | type <;> first | rfl | (cases type <;> rfl)

theorem numbers_blankCondition {t : Term} (none : numbers (t.pieces d) = []) (whitespace : Bool) :
    numbers ((blankCondition d t whitespace).pieces d) = [] := by
  cases d <;> cases whitespace <;> simpa [blankCondition, Condition.pieces, Term.pieces] using none

/-- Neither the columns nor the order of the query have placeholders. -/
structure IsBare (q : RowQuery) : Prop where
  columns : numbers (separated ", " (q.columns.map (Column.pieces d))) = []
  order : numbers (q.order.pieces d) = []

theorem numbers_columnsFor (s : Selection) (p : Purpose) :
    ∀ ps ∈ (s.columnsFor d p).map (Column.pieces d), numbers ps = [] := by
  cases p with
  | answer | existence =>
    cases projection : s.projection with
    | aggregate a l =>
      cases d <;> cases a <;>
        simp [Selection.columnsFor, Selection.columns, projection, Column.pieces, Aggregate.pieces]
    | _ => simp [Selection.columnsFor, Selection.columns, projection, Column.pieces, Term.pieces]
  | counting => simp [Selection.columnsFor, Column.pieces, Term.pieces]
  | values l => simp [Selection.columnsFor, Column.pieces]

theorem numbers_orderColumns (s : Selection) :
    ∀ ps ∈ (s.orderColumns d).map (Column.pieces d), numbers ps = [] := by
  simp only [Selection.orderColumns, List.map_map, List.forall_mem_map]
  rintro ⟨⟨l, direction⟩, i⟩ -
  simp [Column.pieces]

/-- All that a query has besides its conditions is located in the documents. -/
theorem isBare_toRowQuery (s : Selection) (p : Purpose) (before : Array Value) :
    IsBare d (s.toRowQuery d p before).1 := by
  constructor
  · refine numbers_separated_eq_nil fun ps mem => ?_
    rw [show (s.toRowQuery d p before).1.columns = s.columnsFor d p ++ _ from rfl, List.map_append,
      List.mem_append] at mem
    rcases mem with mem | mem
    · exact numbers_columnsFor d s p ps mem
    · split at mem
      · exact numbers_orderColumns d s ps mem
      · cases mem
  · show numbers (Order.pieces d (if _ then _ else if _ then _ else _)) = []
    split
    · refine numbers_separated_eq_nil fun ps mem => ?_
      simp only [List.map_map, List.mem_map] at mem
      obtain ⟨⟨l, direction⟩, -, rfl⟩ := mem
      simp [orderTermPieces]
    · split <;> rfl

/-! ### The parts of scopes -/

/-- The condition on the tenant, if there is one. -/
def tenantConditions : Option String → Binding (List Condition)
  | some t => return [] ++ [.compare (.column tenantColumn) .eq (← bindValue (.text t))]
  | none => return []

/-- The condition on the mark of deleted documents. -/
def deletedIs (n : Nat) : Condition :=
  .compare (.column deletedColumn) .eq (.number n)

/-- The conditions on the deletion. -/
def deletionConditions : Deletion → Binding (List Condition)
  | .any => return []
  | .notDeleted => return [deletedIs 0]
  | .deleted => return [deletedIs 1]
  | .deletedSince t =>
    return [deletedIs 1] ++ [.compare (.column deletedAtColumn) .ge (← bindValue (.timestamp t))]
  | .deletedBefore t =>
    return [deletedIs 1] ++ [.compare (.column deletedAtColumn) .lt (← bindValue (.timestamp t))]

theorem scopeConditions_eq (tenant : Option String) (deletion : Deletion) :
    scopeConditions tenant deletion =
      do return (← tenantConditions tenant) ++ (← deletionConditions deletion) := by
  cases tenant <;> cases deletion <;> rfl

@[simp] theorem numbers_deletedIs (n : Nat) : numbers ((deletedIs n).pieces d) = [] := rfl

/-! ### Values that a rendering binds -/

variable {α β γ : Type}

/-- A rendering that starts with `n` values bound goes on with these, and its result is so. -/
def Binds (n : Nat) (vs : List Value) (P : α → Prop) (b : Binding α) : Prop :=
  ∀ before, before.size = n → P (b before).1 ∧ (b before).2.toList = before.toList ++ vs

namespace Binds

variable {n : Nat} {vs ws : List Value} {P : α → Prop} {Q : β → Prop}

theorem pure {x : α} (h : P x) : Binds n [] P (pure x) :=
  fun before _ => ⟨h, (List.append_nil before.toList).symm⟩

theorem bind {b : Binding α} {f : α → Binding β} (first : Binds n vs P b)
    (next : ∀ x, P x → Binds (n + vs.length) ws Q (f x)) : Binds n (vs ++ ws) Q (b >>= f) := by
  intro before size
  obtain ⟨holds, bound⟩ := first before size
  have size' : (b before).2.size = n + vs.length := by
    rw [← Array.length_toList, bound, List.length_append, Array.length_toList, size]
  obtain ⟨holds', bound'⟩ := next _ holds _ size'
  exact ⟨holds', bound'.trans (by rw [bound, List.append_assoc])⟩

theorem map {b : Binding α} {f : α → β} (h : Binds n vs P b) (holds : ∀ x, P x → Q (f x)) :
    Binds n vs Q (do return f (← b)) :=
  fun before size => (h before size).imp_left (holds _)

theorem mono {R : α → Prop} {b : Binding α} (h : Binds n vs P b) (weaker : ∀ x, P x → R x) :
    Binds n vs R b :=
  fun before size => (h before size).imp_left (weaker _)

theorem bindValue (v : Value) : Binds n [v] (· = .slot (n + 1)) (bindValue v) := by
  rintro before rfl
  exact ⟨rfl, Array.toList_push⟩

end Binds

/-- The numbers are those of the `count` parameters after the first `n`. -/
def Covers (n count : Nat) (ns : List Nat) : Prop :=
  ∀ m, m ∈ ns ↔ n < m ∧ m ≤ n + count

theorem Covers.one (n : Nat) : Covers n 1 [n + 1] := by
  intro m
  rw [List.mem_singleton]
  omega

theorem Covers.append {n a b : Nat} {ns ms : List Nat} (first : Covers n a ns)
    (second : Covers (n + a) b ms) : Covers n (a + b) (ns ++ ms) := by
  intro m
  rw [List.mem_append, first m, second m]
  omega

/-- Started with `n` values bound, a rendering uses the parameters of the values that it binds. -/
def Fills (n : Nat) (vs : List Value) (used : α → List Nat) (b : Binding α) : Prop :=
  Binds n vs (fun x => Covers n vs.length (used x)) b

/-- Whatever was bound before, the rendering binds the same values and uses their parameters. -/
def Tallies (used : α → List Nat) (b : Binding α) : Prop :=
  ∃ vs, ∀ n, Fills n vs used b

namespace Tallies

variable {used : α → List Nat} {used' : β → List Nat} {used'' : γ → List Nat}

theorem pure {x : α} (none : used x = []) : Tallies used (pure x) := by
  refine ⟨[], fun n => .pure fun m => ?_⟩
  rw [none]
  simp

theorem map {b : Binding α} (h : Tallies used b) {f : α → β}
    (same : ∀ x m, m ∈ used' (f x) ↔ m ∈ used x) : Tallies used' (do return f (← b)) := by
  obtain ⟨vs, fills⟩ := h
  exact ⟨vs, fun n => (fills n).map fun x covers m => (same x m).trans (covers m)⟩

/-- One rendering after another. -/
theorem pair {b : Binding α} {c : Binding β} (first : Tallies used b) (second : Tallies used' c) :
    Tallies (fun p => used p.1 ++ used' p.2) (do return (← b, ← c)) := by
  obtain ⟨vs, fills⟩ := first
  obtain ⟨ws, fills'⟩ := second
  refine ⟨vs ++ ws, fun n => (fills n).bind fun x covers => (fills' _).map fun y covers' => ?_⟩
  rw [List.length_append]
  exact covers.append covers'

theorem map₂ {b : Binding α} {c : Binding β} (first : Tallies used b) (second : Tallies used' c)
    {f : α → β → γ} (same : ∀ x y m, m ∈ used'' (f x y) ↔ m ∈ used x ∨ m ∈ used' y) :
    Tallies used'' (do return f (← b) (← c)) :=
  (first.pair second).map (f := fun p => f p.1 p.2) fun p m =>
    (same p.1 p.2 m).trans List.mem_append.symm

theorem bindValue (v : Value) : Tallies (fun t => numbers (Term.pieces d t)) (bindValue v) := by
  refine ⟨[v], fun n => (Binds.bindValue v).mono ?_⟩
  rintro t rfl
  exact Covers.one n

/-- From left to right. -/
theorem mapM {f : α → Binding β} (h : ∀ a, Tallies used' (f a)) (as : List α) :
    Tallies (List.flatMap used') (as.mapM f) := by
  induction as with
  | nil => exact .pure rfl
  | cons a rest ih =>
    rw [List.mapM_cons]
    exact (h a).map₂ ih fun x xs m => by rw [List.flatMap_cons, List.mem_append]

/-! ### Predicates -/

theorem bindOperand (l : Locator) (v : Value) :
    Tallies (fun t => numbers (Term.pieces d t)) (bindOperand d l v) := by
  have value := Tallies.bindValue d v
  rw [Statement.bindOperand]
  split
  · refine value.map fun t m => ?_
    cases d <;> simp [Term.pieces, Cast.pieces]
  · exact value

theorem toPart (p : TemplatePart) : Tallies (fun x => numbers (Part.pieces d x)) (p.toPart d) := by
  cases p with
  | text s => exact .pure rfl
  | locator l => exact .pure (numbers_toTerm d l)
  | param v => exact (Tallies.bindValue d v).map fun _ _ => .rfl

theorem toCondition (f : Fragment) :
    Tallies (fun c => numbers (Condition.pieces d c)) (f.toCondition d) := by
  induction f with
  | compare l op v => exact (Tallies.bindOperand d l v).map fun t m => by simp [Condition.pieces]
  | and left right ihl ihr | or left right ihl ihr =>
    exact ihl.map₂ ihr fun x y m => by simp [Condition.pieces]
  | not inner ih => exact ih.map fun c m => by simp [Condition.pieces]
  | inList l values =>
    cases values with
    | nil => exact .pure rfl
    | cons v vs =>
      refine (Tallies.mapM (Tallies.bindOperand d l) (v :: vs)).map fun ts m => ?_
      simp [Condition.pieces, numbers_separated, List.flatMap_map]
  | like l kind needle => exact (Tallies.bindValue d _).map fun t m => by simp [Condition.pieces]
  | equalFolded l text =>
    refine (Tallies.bindValue d _).map fun t m => ?_
    cases d <;> simp [Condition.pieces]
  | arrayContains path element v =>
    refine (Tallies.bindValue d v).map fun t m => ?_
    simp [Condition.pieces, numbers_elementTerm]
  | template parts =>
    refine (Tallies.mapM (Tallies.toPart d) parts).map fun ps m => ?_
    rw [Condition.pieces, numbers_flatMap]
  | isNull l | isNotNull l => exact .pure (by simp [Condition.pieces])
  | nullOrBlank l whitespace =>
    exact .pure (by simp [Condition.pieces, numbers_blankCondition d (numbers_toTerm d l)])
  | literal text => exact .pure rfl

/-! ### Clauses -/

/-- The numbers in conditions. -/
def conditionNumbers (d : Dialect) (cs : List Condition) : List Nat :=
  cs.flatMap fun c => numbers (c.pieces d)

theorem conditionNumbers_append (xs ys : List Condition) :
    conditionNumbers d (xs ++ ys) = conditionNumbers d xs ++ conditionNumbers d ys :=
  List.flatMap_append

theorem numbers_wherePieces (cs : List Condition) :
    numbers (wherePieces d cs) = conditionNumbers d cs := by
  cases cs with
  | nil => rfl
  | cons c rest =>
    rw [conditionNumbers, ← List.flatMap_map, ← numbers_separated " AND "]
    rfl

/-- Conditions of which the last one is with a bound value. -/
theorem comparing (front : List Condition) (still : conditionNumbers d front = [])
    (t : Term) (none : numbers (t.pieces d) = []) (op : Operator) (v : Value) :
    Tallies (conditionNumbers d)
      (do return front ++ [Condition.compare t op (← Statement.bindValue v)]) := by
  refine (Tallies.bindValue d v).map fun x m => ?_
  rw [conditionNumbers_append, still]
  simp [conditionNumbers, Condition.pieces, none]

theorem scopeConditions (tenant : Option String) (deletion : Deletion) :
    Tallies (conditionNumbers d) (scopeConditions tenant deletion) := by
  have mine : Tallies (conditionNumbers d) (tenantConditions tenant) := by
    cases tenant with
    | none => exact .pure rfl
    | some t => exact .comparing d [] rfl (.column tenantColumn) rfl .eq _
  have rest : Tallies (conditionNumbers d) (deletionConditions deletion) := by
    cases deletion with
    | any | notDeleted | deleted => exact .pure rfl
    | deletedSince t | deletedBefore t =>
      exact .comparing d [deletedIs 1] rfl (.column deletedAtColumn) rfl _ _
  rw [scopeConditions_eq]
  exact mine.map₂ rest fun _ _ m => by rw [conditionNumbers_append, List.mem_append]

theorem whereConditions (filters : List Fragment) (tenant : Option String) (deletion : Deletion) :
    Tallies (conditionNumbers d) (whereConditions d filters tenant deletion) :=
  (Tallies.mapM (Tallies.toCondition d) filters).map₂ (Tallies.scopeConditions d tenant deletion)
    fun _ _ m => by rw [conditionNumbers_append, List.mem_append]; rfl

/-! ### Queries -/

theorem toRowQuery (s : Selection) (p : Purpose) :
    Tallies (fun q => numbers (RowQuery.pieces d q)) (s.toRowQuery d p) := by
  refine (Tallies.whereConditions d s.filters s.tenant s.deletion).map fun conditions m => ?_
  obtain ⟨columns, order⟩ := isBare_toRowQuery d s p #[]
  show m ∈ numbers (RowQuery.pieces d { (s.toRowQuery d p #[]).1 with conditions }) ↔ _
  simp only [RowQuery.pieces, numbers_text, numbers_append, columns, order, numbers_wherePieces,
    numbers_nil, List.nil_append, List.append_nil]

theorem toQuery (s : Selection) : Tallies (fun q => numbers (Query.pieces d q)) (s.toQuery d) := by
  have computed (column : Column) (none : numbers (column.pieces d) = []) (p : Purpose) :
      Tallies (fun q => numbers (Query.pieces d q)) (do return .over column (← s.toRowQuery d p)) :=
    (Tallies.toRowQuery d s p).map fun q m => by simp [Query.pieces, none]
  rw [Selection.toQuery]
  split
  · exact (Tallies.toRowQuery d s .existence).map fun q m => by simp [Query.pieces]
  · split
    · exact computed .count rfl .counting
    · rename_i a l _ _
      exact computed (.aggregate a (.column "v")) (by cases d <;> cases a <;> rfl) (.values l)
    · exact (Tallies.toRowQuery d s .answer).map fun _ _ => .rfl

/-! ### Changes -/

theorem versionCondition (t : Term) (none : numbers (t.pieces d) = []) (expected : Option Int64) :
    Tallies (conditionNumbers d) (versionCondition t expected) := by
  cases expected with
  | none => exact .pure rfl
  | some n => exact .comparing d [] rfl t none .eq _

theorem bindRow (doc : StoredDocument) :
    Tallies (List.flatMap fun t => numbers (Term.pieces d t)) (bindRow doc) := by
  refine ((Tallies.bindValue d _).pair <| (Tallies.bindValue d _).pair <|
    (Tallies.bindValue d _).pair <| (Tallies.bindValue d _).pair <| Tallies.bindValue d _).map
      (f := fun (id, data, modified, type, tenant) => [id, data, .number 1, modified, type, tenant])
      fun p m => ?_
  simp [Term.pieces]

theorem numbers_tuplePieces (values : List Term) :
    numbers (tuplePieces d values) = values.flatMap fun t => numbers (t.pieces d) := by
  simp [tuplePieces, numbers_separated, List.flatMap_map]

theorem numbers_assignmentsPieces (updates : List Assignment) :
    numbers (assignmentsPieces d updates) =
      updates.flatMap fun a => numbers (a.column.pieces d) ++ numbers (a.value.pieces d) := by
  simp [assignmentsPieces, numbers_separated, List.flatMap_map, Assignment.pieces]

theorem numbers_update (table : TableName) (updates : List Assignment) (cs : List Condition) :
    numbers ((Change.update table updates cs).pieces d) =
      numbers (assignmentsPieces d updates) ++ conditionNumbers d cs := by
  simp [Change.pieces, numbers_wherePieces]

theorem numbers_delete (table : TableName) (cs : List Condition) :
    numbers ((Change.delete table cs).pieces d) = conditionNumbers d cs := by
  simp [Change.pieces, numbers_wherePieces]

theorem insert (x : Insert) : Tallies (fun c => numbers (Change.pieces d c)) x.toChange := by
  refine (Tallies.bindRow d x.document).map fun values m => ?_
  simp [Change.pieces, insertPieces, numbers_tuplePieces]

theorem update (x : Update) : Tallies (fun c => numbers (Change.pieces d c)) x.toChange := by
  refine ((Tallies.bindValue d _).pair <| (Tallies.bindValue d _).pair <|
    (Tallies.bindValue d _).pair <| (Tallies.bindValue d _).pair <| (Tallies.bindValue d _).pair <|
      Tallies.versionCondition d (.column versionColumn) rfl x.expected).map
      (f := fun (data, modified, type, id, tenant, version) => Change.update x.table
        [setColumn dataColumn data, setColumn versionColumn (.next (.column versionColumn)),
          setColumn modifiedColumn modified, setColumn typeColumn type]
        ([columnIs idColumn id, columnIs tenantColumn tenant] ++ version)) fun p m => ?_
  simp [numbers_update, numbers_assignmentsPieces, conditionNumbers, setColumn, columnIs,
    Condition.pieces, Term.pieces]

theorem numbers_reviving (x : Upsert) (column : String → Term)
    (none : ∀ name, numbers ((column name).pieces d) = []) (updates : List Assignment) :
    numbers (assignmentsPieces d (updates ++ if x.revive then reviving column else [])) =
      numbers (assignmentsPieces d updates) := by
  split
  · simp [numbers_assignmentsPieces, reviving, Term.pieces, none]
  · rw [List.append_nil]

theorem toMerge (x : Upsert) : Tallies (fun c => numbers (Merge.pieces d c)) x.toMerge := by
  let target := Term.columnOf .target
  refine ((Tallies.bindValue d _).pair <| (Tallies.bindValue d _).pair <|
    (Tallies.versionCondition d (target versionColumn) rfl x.expected).pair <|
      (Tallies.bindValue d _).pair <| (Tallies.bindValue d _).pair <| Tallies.bindValue d _).map
      (f := fun (id, tenant, matched, data, modified, type) => Merge.mk x.table
        [(id, idColumn), (tenant, tenantColumn)] matched
        ([Assignment.mk (target dataColumn) data,
          .mk (target versionColumn) (.next (target versionColumn)),
          .mk (target modifiedColumn) modified, .mk (target typeColumn) type] ++
          (if x.revive then reviving target else []))
        insertColumns
        [.columnOf .source idColumn, data, .number 1, modified, type,
          .columnOf .source tenantColumn]) fun p m => ?_
  have matched : numbers (p.2.2.1.flatMap fun c => .text " AND " :: c.pieces d) =
      conditionNumbers d p.2.2.1 := numbers_flatMap _ _
  rw [Merge.pieces]
  simp only [numbers_text, numbers_append, numbers_reviving d x target fun _ => rfl, matched]
  -- The data, the time and the type stand in the text twice.
  simp only [numbers_separated, numbers_assignmentsPieces, numbers_tuplePieces, Term.pieces, target,
    List.map_cons, List.map_nil, List.flatMap_cons, List.flatMap_nil, numbers_append, numbers_text,
    numbers_nil, List.append_nil, List.nil_append, List.cons_append, List.append_assoc, List.mem_append]
  tauto

theorem toInsertOrUpdate (x : Upsert) :
    Tallies (fun c => numbers (InsertOrUpdate.pieces d c)) x.toInsertOrUpdate := by
  let version := Term.columnOf (.table x.table) versionColumn
  refine (Tallies.bindRow d x.document).map₂ (Tallies.versionCondition d version rfl x.expected)
    fun values matched m => ?_
  rw [InsertOrUpdate.pieces]
  simp only [numbers_text, numbers_append, numbers_reviving d x .column fun _ => rfl]
  simp [insertPieces, numbers_tuplePieces, numbers_assignmentsPieces, numbers_wherePieces, setColumn,
    Term.pieces]

theorem upsert (x : Upsert) : Tallies (fun c => numbers (Change.pieces d c)) (x.toChange d) := by
  cases d with
  | mssql => exact (Tallies.toMerge .mssql x).map fun _ _ => .rfl
  | sqlite => exact (Tallies.toInsertOrUpdate .sqlite x).map fun _ _ => .rfl

theorem delete (x : Delete) : Tallies (fun c => numbers (Change.pieces d c)) x.toChange := by
  obtain ⟨table, id, tenant, soft⟩ := x
  have key := (Tallies.bindValue d id).pair (Tallies.bindValue d (.text tenant))
  cases soft with
  | none =>
    refine key.map (f := fun (id, tenant) =>
      Change.delete table [columnIs idColumn id, columnIs tenantColumn tenant]) fun p m => ?_
    simp [numbers_delete, conditionNumbers, columnIs, Condition.pieces, Term.pieces]
  | some t =>
    refine (Tallies.bindValue d (.timestamp t)).map₂ key (f := fun at_ (id, tenant) =>
      Change.update table [setColumn deletedColumn (.number 1), setColumn deletedAtColumn at_]
        [columnIs idColumn id, columnIs tenantColumn tenant]) fun x y m => ?_
    simp [numbers_update, numbers_assignmentsPieces, conditionNumbers, setColumn, columnIs,
      Condition.pieces, Term.pieces]

theorem deleteWhere (x : DeleteWhere) :
    Tallies (fun c => numbers (Change.pieces d c)) (x.toChange d) := by
  obtain ⟨table, filters, tenant, soft⟩ := x
  cases soft with
  | none =>
    refine (Tallies.whereConditions d filters (some tenant) .any).map (f := Change.delete table)
      fun cs m => ?_
    rw [numbers_delete]
  | some t =>
    refine (Tallies.bindValue d (.timestamp t)).map₂
      (Tallies.whereConditions d filters (some tenant) .notDeleted) (f := fun at_ =>
        Change.update table [setColumn deletedColumn (.number 1), setColumn deletedAtColumn at_])
      fun x cs m => ?_
    simp [numbers_update, numbers_assignmentsPieces, setColumn, Term.pieces]

theorem undeleteWhere (x : UndeleteWhere) :
    Tallies (fun c => numbers (Change.pieces d c)) (x.toChange d) := by
  refine (Tallies.whereConditions d x.filters (some x.tenant) .deleted).map fun cs m => ?_
  rw [numbers_update]
  rfl

/-- Whatever was bound before, a statement binds the same values, and its placeholders are those of
these values. -/
theorem tree (s : Statement) : Tallies (fun t => numbers (Tree.pieces d t)) (s.tree d) := by
  cases s with
  | select s => exact (Tallies.toQuery d s).map fun _ _ => .rfl
  | insert x => exact (Tallies.insert d x).map fun _ _ => .rfl
  | update x => exact (Tallies.update d x).map fun _ _ => .rfl
  | upsert x => exact (Tallies.upsert d x).map fun _ _ => .rfl
  | delete x => exact (Tallies.delete d x).map fun _ _ => .rfl
  | deleteWhere x => exact (Tallies.deleteWhere d x).map fun _ _ => .rfl
  | undeleteWhere x => exact (Tallies.undeleteWhere d x).map fun _ _ => .rfl
  | createTable x => exact .pure rfl

end Tallies

end Folio.Statement
