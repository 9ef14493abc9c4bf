import Folio.Proofs.Statement.Numbered

/-!
# Folio.Proofs.Statement.Redacted

No bound value reaches the text of a statement.

A statement that is `redacted` holds blanks where it bound values: of each it is known only
whether it is null. Statements that are equal when redacted have the same structure, so their
texts and the names of their parameters must be the same.

Both this and the numbering of parameters rest on one relation between two runs of the
rendering (`Follows`): the second run starts with `k` more parameters than the first one, works
on the redacted statement, and gives the same pieces with `k` added to all numbers. It is shown
once for each function that binds values, up to `Follows.tree`.
-/

namespace Folio

open Folio.Sql
open Folio.Relational (Tree)

/-- What is left of a value when only its absence may be known. -/
def Value.redacted (v : Value) : Value :=
  if v.isNull then .null else .bool true

@[simp] theorem Value.isNull_redacted (v : Value) : v.redacted.isNull = v.isNull := by
  cases v <;> rfl

/-! ### Redacted statements -/

namespace Statement

open Folio.Time (Timestamp)

/-- The part with its value redacted. -/
def TemplatePart.redacted : TemplatePart → TemplatePart
  | .param v => .param v.redacted
  | p => p

/-- The fragment with all its values redacted. -/
def Fragment.redacted : Fragment → Fragment
  | .compare l op v => .compare l op v.redacted
  | .and left right => .and left.redacted right.redacted
  | .or left right => .or left.redacted right.redacted
  | .not inner => .not inner.redacted
  | .inList l values => .inList l (values.map Value.redacted)
  | .like l kind _ => .like l kind ""
  | .equalFolded l _ => .equalFolded l ""
  | .arrayContains path element v => .arrayContains path element v.redacted
  | .template parts => .template (parts.map TemplatePart.redacted)
  | f => f

/-- The deletion without its time. -/
def Deletion.redacted : Deletion → Deletion
  | .deletedSince _ => .deletedSince .epoch
  | .deletedBefore _ => .deletedBefore .epoch
  | x => x

/-- The selection with all its values redacted. What it reads, in which order and how much of it
is in its text, and stays. -/
def Selection.redacted (s : Selection) : Selection :=
  { s with
    filters := s.filters.map Fragment.redacted
    tenant := s.tenant.map fun _ => ""
    deletion := s.deletion.redacted }

/-- The document with all its values redacted. -/
def StoredDocument.redacted (doc : StoredDocument) : StoredDocument where
  id := doc.id.redacted
  data := ""
  type := ""
  tenant := ""
  modified := .epoch

/-- The insert with all its values redacted. -/
def Insert.redacted (x : Insert) : Insert :=
  { x with document := x.document.redacted }

/-- The update with all its values redacted. -/
def Update.redacted (x : Update) : Update :=
  { x with document := x.document.redacted, expected := x.expected.map fun _ => 0 }

/-- The upsert with all its values redacted. -/
def Upsert.redacted (x : Upsert) : Upsert :=
  { x with document := x.document.redacted, expected := x.expected.map fun _ => 0 }

/-- The delete with all its values redacted. -/
def Delete.redacted (x : Delete) : Delete :=
  { x with id := x.id.redacted, tenant := "", soft := x.soft.map fun _ => .epoch }

/-- The delete with all its values redacted. -/
def DeleteWhere.redacted (x : DeleteWhere) : DeleteWhere :=
  { x with
    filters := x.filters.map Fragment.redacted
    tenant := ""
    soft := x.soft.map fun _ => .epoch }

/-- The undelete with all its values redacted. -/
def UndeleteWhere.redacted (x : UndeleteWhere) : UndeleteWhere :=
  { x with filters := x.filters.map Fragment.redacted, tenant := "" }

end Statement

/-- The statement with all its values redacted. -/
def Statement.redacted : Statement → Statement
  | .select s => .select s.redacted
  | .insert x => .insert x.redacted
  | .update x => .update x.redacted
  | .upsert x => .upsert x.redacted
  | .delete x => .delete x.redacted
  | .deleteWhere x => .deleteWhere x.redacted
  | .undeleteWhere x => .undeleteWhere x.redacted
  | .createTable x => .createTable x

/-! ### Two runs -/

namespace Statement

open Folio.Time (Timestamp)

variable (d : Dialect)

variable {α β γ δ : Type}

/-- The second one's pieces are the first one's, with `k` parameters before their own. -/
def Shifted (k : Nat) (pieces : α → List Piece) (x y : α) : Prop :=
  pieces y = (pieces x).map (Piece.later k)

/-- Item by item, the second ones' pieces are the first ones', with `k` parameters before. -/
def ShiftedAll (k : Nat) (pieces : α → List Piece) (xs ys : List α) : Prop :=
  ys.map pieces = (xs.map pieces).map (List.map (Piece.later k))

/-- Of two runs, the second one starts with `k` more values than the first. Their results are
related, and they bind equally many values. -/
def Follows (k : Nat) (R : α → β → Prop) (b : Binding α) (c : Binding β) : Prop :=
  ∀ before later, later.size = before.size + k →
    R (b before).1 (c later).1 ∧ (c later).2.size = (b before).2.size + k

variable {d} {k : Nat}

theorem Shifted.eq {pieces : α → List Piece} {x y : α} (h : Shifted k pieces x y) :
    pieces y = (pieces x).map (Piece.later k) := h

theorem Shifted.refl {pieces : α → List Piece} {x : α} (none : numbers (pieces x) = []) :
    Shifted k pieces x x :=
  (map_later_of_numbers none k).symm

theorem ShiftedAll.separated {pieces : α → List Piece} {xs ys : List α} (h : ShiftedAll k pieces xs ys)
    (sep : String) :
    Sql.separated sep (ys.map pieces) = (Sql.separated sep (xs.map pieces)).map (Piece.later k) := by
  rw [map_separated, h]

theorem ShiftedAll.flatMap {pieces : α → List Piece} {xs ys : List α}
    (h : ShiftedAll k pieces xs ys) :
    ys.flatMap pieces = (xs.flatMap pieces).map (Piece.later k) := by
  rw [List.flatMap_def, h, List.flatMap_def, List.map_flatten]

theorem ShiftedAll.refl {pieces : α → List Piece} {xs : List α}
    (none : ∀ x ∈ xs, numbers (pieces x) = []) : ShiftedAll k pieces xs xs := by
  rw [ShiftedAll, List.map_map]
  exact List.map_congr_left fun x mem => (map_later_of_numbers (none x mem) k).symm

theorem ShiftedAll.after {pieces : α → List Piece} {xs ys : List α} (h : ShiftedAll k pieces xs ys)
    (s : String) : ShiftedAll k (fun x => .text s :: pieces x) xs ys := by
  have texts := congrArg (List.map (Piece.text s :: ·)) h
  simpa [ShiftedAll, Function.comp_def] using texts

theorem ShiftedAll.append {pieces : α → List Piece} {xs ys xs' ys' : List α}
    (h : ShiftedAll k pieces xs ys) (h' : ShiftedAll k pieces xs' ys') :
    ShiftedAll k pieces (xs ++ xs') (ys ++ ys') := by
  simp only [ShiftedAll, List.map_append] at h h' ⊢
  rw [h, h']

namespace Follows

variable {R : α → β → Prop} {S : γ → δ → Prop}

theorem pure {x : α} {y : β} (h : R x y) : Follows k R (pure x) (pure y) :=
  fun _ _ size => ⟨h, size⟩

theorem bind {b : Binding α} {c : Binding β} {f : α → Binding γ} {g : β → Binding δ}
    (first : Follows k R b c) (next : ∀ x y, R x y → Follows k S (f x) (g y)) :
    Follows k S (b >>= f) (c >>= g) := by
  intro before later size
  obtain ⟨related, size⟩ := first before later size
  exact next _ _ related _ _ size

theorem map {b : Binding α} {c : Binding β} {f : α → γ} {g : β → δ} (h : Follows k R b c)
    (related : ∀ x y, R x y → S (f x) (g y)) :
    Follows k S (do return f (← b)) (do return g (← c)) :=
  h.bind fun x y first => .pure (related x y first)

variable (d)

theorem bindValue (v w : Value) :
    Follows k (Shifted k (Term.pieces d)) (bindValue v) (bindValue w) := by
  intro before later size
  constructor
  · simp [Statement.bindValue, Shifted, Term.pieces, size]
    omega
  · simp [Statement.bindValue, size]
    omega

/-- Item by item, from left to right. -/
theorem mapM {pieces : β → List Piece} {f : α → Binding β} {g : γ → Binding β} {r : α → γ}
    (h : ∀ a, Follows k (Shifted k pieces) (f a) (g (r a))) (as : List α) :
    Follows k (ShiftedAll k pieces) (as.mapM f) ((as.map r).mapM g) := by
  induction as with
  | nil => exact .pure rfl
  | cons a rest ih =>
    rw [List.map_cons, List.mapM_cons, List.mapM_cons]
    refine (h a).bind fun x y first => ih.map fun xs ys others => ?_
    rw [ShiftedAll, List.map_cons, List.map_cons, List.map_cons, ← others, ← first]

/-! ### Predicates -/

theorem bindOperand (l : Locator) (v : Value) :
    Follows k (Shifted k (Term.pieces d)) (bindOperand d l v) (bindOperand d l v.redacted) := by
  refine (Follows.bindValue d v v.redacted).bind fun x y shifted => ?_
  rw [Value.isNull_redacted]
  split
  · refine .pure ?_
    cases d <;> simp [Shifted, Term.pieces, Cast.pieces, shifted.eq]
  · exact .pure shifted

theorem toPart (p : TemplatePart) :
    Follows k (Shifted k (Part.pieces d)) (p.toPart d) (p.redacted.toPart d) := by
  cases p with
  | text s => exact .pure rfl
  | locator l => exact .pure (.refl (numbers_toTerm d l))
  | param v => exact (Follows.bindValue d v v.redacted).map fun _ _ shifted => shifted

theorem toCondition (f : Fragment) :
    Follows k (Shifted k (Condition.pieces d)) (f.toCondition d) (f.redacted.toCondition d) := by
  have still (l : Locator) := map_later_of_numbers (numbers_toTerm d l) k
  induction f with
  | compare l op v =>
    refine (Follows.bindOperand d l v).map fun x y shifted => ?_
    simp [Shifted, Condition.pieces, still, shifted.eq]
  | and left right ihl ihr | or left right ihl ihr =>
    refine ihl.bind fun x y first => ihr.map fun x' y' second => ?_
    simp [Shifted, Condition.pieces, first.eq, second.eq]
  | not inner ih =>
    refine ih.map fun x y shifted => ?_
    simp [Shifted, Condition.pieces, shifted.eq]
  | inList l values =>
    cases values with
    | nil => exact .pure rfl
    | cons v vs =>
      refine (Follows.mapM (Follows.bindOperand d l) (v :: vs)).map fun xs ys shifted => ?_
      simp [Shifted, Condition.pieces, still, ShiftedAll.separated shifted]
  | like l kind needle =>
    refine (Follows.bindValue d _ _).map fun x y shifted => ?_
    simp [Shifted, Condition.pieces, still, shifted.eq]
  | equalFolded l text =>
    refine (Follows.bindValue d _ _).map fun x y shifted => ?_
    cases d <;> simp [Shifted, Condition.pieces, still, shifted.eq]
  | arrayContains path element v =>
    refine (Follows.bindValue d v v.redacted).map fun x y shifted => ?_
    have element := map_later_of_numbers (numbers_elementTerm d element) k
    simp [Shifted, Condition.pieces, element, shifted.eq]
  | template parts =>
    refine (Follows.mapM (Follows.toPart d) parts).map fun xs ys shifted => ?_
    exact shifted.flatMap
  | isNull l | isNotNull l => exact .pure (.refl (by simp [Condition.pieces]))
  | nullOrBlank l whitespace =>
    exact .pure (.refl (by simp [Condition.pieces, numbers_blankCondition d (numbers_toTerm d l)]))
  | literal text => exact .pure rfl

/-! ### Clauses -/

/-- Conditions of which the last one is with a bound value. -/
theorem comparing (front : List Condition) (still : ∀ c ∈ front, numbers (c.pieces d) = [])
    (t : Term) (none : numbers (t.pieces d) = []) (op : Operator) (v w : Value) :
    Follows k (ShiftedAll k (Condition.pieces d))
      (do return front ++ [Condition.compare t op (← Statement.bindValue v)])
      (do return front ++ [Condition.compare t op (← Statement.bindValue w)]) := by
  refine (Follows.bindValue d v w).map fun x y shifted => .append (.refl still) ?_
  simp [ShiftedAll, Condition.pieces, map_later_of_numbers none, shifted.eq]

theorem scopeConditions (tenant : Option String) (deletion : Deletion) :
    Follows k (ShiftedAll k (Condition.pieces d)) (scopeConditions tenant deletion)
      (scopeConditions (tenant.map fun _ => "") deletion.redacted) := by
  have mine : Follows k (ShiftedAll k (Condition.pieces d)) (tenantConditions tenant)
      (tenantConditions (tenant.map fun _ => "")) := by
    cases tenant with
    | none => exact .pure rfl
    | some t => exact .comparing d [] (by simp) (.column tenantColumn) rfl .eq _ _
  have rest : Follows k (ShiftedAll k (Condition.pieces d)) (deletionConditions deletion)
      (deletionConditions deletion.redacted) := by
    cases deletion with
    | any | notDeleted | deleted => exact .pure rfl
    | deletedSince t | deletedBefore t =>
      exact .comparing d [deletedIs 1] (by simp) (.column deletedAtColumn) rfl _ _ _
  rw [scopeConditions_eq, scopeConditions_eq]
  exact mine.bind fun _ _ first => rest.map fun _ _ second => first.append second

theorem whereConditions (filters : List Fragment) (tenant : Option String) (deletion : Deletion) :
    Follows k (ShiftedAll k (Condition.pieces d)) (whereConditions d filters tenant deletion)
      (whereConditions d (filters.map Fragment.redacted) (tenant.map fun _ => "") deletion.redacted) :=
  (Follows.mapM (Follows.toCondition d) filters).bind fun _ _ own =>
    (Follows.scopeConditions d tenant deletion).map fun _ _ scopes => own.append scopes

theorem wherePieces {xs ys : List Condition} (h : ShiftedAll k (Condition.pieces d) xs ys) :
    wherePieces d ys = (wherePieces d xs).map (Piece.later k) := by
  have same : ys.isEmpty = xs.isEmpty := by
    have lengths := congrArg List.length h
    simp only [List.length_map] at lengths
    rw [Bool.eq_iff_iff, List.isEmpty_iff_length_eq_zero, List.isEmpty_iff_length_eq_zero, lengths]
  rw [Sql.wherePieces, Sql.wherePieces, same]
  split
  · rfl
  · rw [h.separated, List.map_cons, Piece.later_text]

/-! ### Queries -/

theorem toRowQuery (s : Selection) (p : Purpose) :
    Follows k (Shifted k (RowQuery.pieces d)) (s.toRowQuery d p) (s.redacted.toRowQuery d p) := by
  refine (Follows.whereConditions d s.filters s.tenant s.deletion).map fun xs ys shifted => ?_
  obtain ⟨columns, order⟩ := isBare_toRowQuery d s p #[]
  show RowQuery.pieces d { (s.toRowQuery d p #[]).1 with conditions := ys } =
    (RowQuery.pieces d { (s.toRowQuery d p #[]).1 with conditions := xs }).map (Piece.later k)
  simp only [RowQuery.pieces, List.map_cons, List.map_append, List.map_nil, Piece.later_text,
    map_later_of_numbers columns, map_later_of_numbers order, Follows.wherePieces d shifted]
  rfl

theorem toQuery (s : Selection) :
    Follows k (Shifted k (Query.pieces d)) (s.toQuery d) (s.redacted.toQuery d) := by
  have computed (column : Column) (none : numbers (column.pieces d) = []) (p : Purpose) :
      Follows k (Shifted k (Query.pieces d)) (do return .over column (← s.toRowQuery d p))
        (do return .over column (← s.redacted.toRowQuery d p)) := by
    refine (Follows.toRowQuery d s p).map fun x y shifted => ?_
    simp [Shifted, Query.pieces, map_later_of_numbers none, shifted.eq]
  have rows : Follows k (Shifted k (Query.pieces d)) (do return .rows (← s.toRowQuery d .answer))
      (do return .rows (← s.redacted.toRowQuery d .answer)) :=
    (Follows.toRowQuery d s .answer).map fun _ _ shifted => shifted
  rw [Selection.toQuery, Selection.toQuery, show s.redacted.existence = s.existence from rfl,
    show s.redacted.projection = s.projection from rfl,
    show (s.redacted.isPaged || s.redacted.distinct) = (s.isPaged || s.distinct) from rfl]
  split
  · refine (Follows.toRowQuery d s .existence).map fun x y shifted => ?_
    simp [Shifted, Query.pieces, shifted.eq]
  · split
    · exact computed .count rfl .counting
    · rename_i a l _ _
      exact computed (.aggregate a (.column "v")) (by cases d <;> cases a <;> rfl) (.values l)
    · exact rows

/-! ### Changes -/

theorem versionCondition (t : Term) (none : numbers (t.pieces d) = []) (expected : Option Int64) :
    Follows k (ShiftedAll k (Condition.pieces d)) (versionCondition t expected)
      (versionCondition t (expected.map fun _ => 0)) := by
  cases expected with
  | none => exact .pure rfl
  | some n => exact .comparing d [] (by simp) t none .eq _ _

theorem bindRow (doc : StoredDocument) :
    Follows k (ShiftedAll k (Term.pieces d)) (bindRow doc) (bindRow doc.redacted) := by
  refine (Follows.bindValue d _ _).bind fun _ _ id => (Follows.bindValue d _ _).bind fun _ _ data =>
    (Follows.bindValue d _ _).bind fun _ _ modified => (Follows.bindValue d _ _).bind fun _ _ type =>
      (Follows.bindValue d _ _).map fun _ _ tenant => ?_
  simp [ShiftedAll, id.eq, data.eq, modified.eq, type.eq, tenant.eq, Term.pieces]

theorem assignments {us vs : List Assignment} (h : ShiftedAll k (Assignment.pieces d) us vs) :
    assignmentsPieces d vs = (assignmentsPieces d us).map (Piece.later k) :=
  h.separated ", "

theorem changed {table : TableName} {us vs : List Assignment} {xs ys : List Condition}
    (updates : ShiftedAll k (Assignment.pieces d) us vs)
    (conditions : ShiftedAll k (Condition.pieces d) xs ys) :
    Shifted k (Change.pieces d) (.update table us xs) (.update table vs ys) := by
  simp [Shifted, Change.pieces, Follows.assignments d updates, Follows.wherePieces d conditions]

theorem update (x : Update) :
    Follows k (Shifted k (Change.pieces d)) x.toChange x.redacted.toChange := by
  refine (Follows.bindValue d _ _).bind fun _ _ data => (Follows.bindValue d _ _).bind fun _ _ modified =>
    (Follows.bindValue d _ _).bind fun _ _ type => (Follows.bindValue d _ _).bind fun _ _ id =>
      (Follows.bindValue d _ _).bind fun _ _ tenant =>
        (Follows.versionCondition d _ rfl x.expected).map fun _ _ version =>
          Follows.changed d ?_ (.append ?_ version)
  · simp [ShiftedAll, Assignment.pieces, setColumn, Term.pieces, data.eq, modified.eq, type.eq]
  · simp [ShiftedAll, columnIs, Condition.pieces, Term.pieces, id.eq, tenant.eq]

theorem revived (u : Upsert) {column : String → Term}
    (none : ∀ name, numbers ((column name).pieces d) = []) :
    ShiftedAll k (Assignment.pieces d) (if u.revive then reviving column else [])
      (if u.revive then reviving column else []) := by
  refine .refl fun a mem => ?_
  split at mem
  · simp only [reviving, List.mem_cons, List.not_mem_nil, or_false] at mem
    rcases mem with rfl | rfl <;> simp [Assignment.pieces, Term.pieces, none]
  · cases mem

theorem merged {m n : Merge} (table : n.table = m.table) (columns : n.columns = m.columns)
    (names : n.matching = m.matching)
    (key : ShiftedAll k (fun (t, name) => t.pieces d ++ [.text (" AS " ++ name)]) m.key n.key)
    (matched : ShiftedAll k (Condition.pieces d) m.matched n.matched)
    (updates : ShiftedAll k (Assignment.pieces d) m.updates n.updates)
    (values : ShiftedAll k (Term.pieces d) m.values n.values) : Shifted k (Merge.pieces d) m n := by
  simp only [Shifted, Merge.pieces, tuplePieces, table, columns, names, key.separated,
    (matched.after " AND ").flatMap, Follows.assignments d updates, values.separated, List.map_cons,
    List.map_append, List.map_nil, Piece.later_text]

theorem toMerge (x : Upsert) :
    Follows k (Shifted k (Merge.pieces d)) x.toMerge x.redacted.toMerge := by
  refine (Follows.bindValue d _ _).bind fun _ _ id => (Follows.bindValue d _ _).bind fun _ _ tenant =>
    (Follows.versionCondition d _ rfl x.expected).bind fun _ _ matched =>
      (Follows.bindValue d _ _).bind fun _ _ data => (Follows.bindValue d _ _).bind fun _ _ modified =>
        (Follows.bindValue d _ _).map fun _ _ type =>
          Follows.merged d rfl rfl rfl ?_ matched (.append ?_ (Follows.revived d x fun _ => rfl)) ?_
  · simp [ShiftedAll, id.eq, tenant.eq]
  · simp [ShiftedAll, Assignment.pieces, Term.pieces, data.eq, modified.eq, type.eq]
  · simp [ShiftedAll, Term.pieces, data.eq, modified.eq, type.eq]

theorem inserted {table : TableName} {columns : List String} {xs ys : List Term}
    (h : ShiftedAll k (Term.pieces d) xs ys) :
    insertPieces d table columns ys = (insertPieces d table columns xs).map (Piece.later k) := by
  simp only [insertPieces, tuplePieces, h.separated, List.map_cons, List.map_append, List.map_nil,
    Piece.later_text]

theorem insert (x : Insert) :
    Follows k (Shifted k (Change.pieces d)) x.toChange x.redacted.toChange :=
  (Follows.bindRow d x.document).map fun _ _ values => Follows.inserted d values

theorem insertedOrUpdated {m n : InsertOrUpdate} (table : n.table = m.table)
    (columns : n.columns = m.columns) (key : n.key = m.key)
    (values : ShiftedAll k (Term.pieces d) m.values n.values)
    (updates : ShiftedAll k (Assignment.pieces d) m.updates n.updates)
    (matched : ShiftedAll k (Condition.pieces d) m.matched n.matched) :
    Shifted k (InsertOrUpdate.pieces d) m n := by
  simp only [Shifted, InsertOrUpdate.pieces, table, columns, key, Follows.inserted d values,
    Follows.assignments d updates, Follows.wherePieces d matched, List.map_cons, List.map_append,
    Piece.later_text]

theorem toInsertOrUpdate (x : Upsert) :
    Follows k (Shifted k (InsertOrUpdate.pieces d)) x.toInsertOrUpdate x.redacted.toInsertOrUpdate := by
  refine (Follows.bindRow d x.document).bind fun _ _ values =>
    (Follows.versionCondition d _ rfl x.expected).map fun _ _ matched =>
      Follows.insertedOrUpdated d rfl rfl rfl values (.append (.refl ?_)
        (Follows.revived d x fun _ => rfl)) matched
  simp [setColumn, Assignment.pieces, Term.pieces]

theorem upsert (x : Upsert) :
    Follows k (Shifted k (Change.pieces d)) (x.toChange d) (x.redacted.toChange d) := by
  cases d with
  | mssql => exact (Follows.toMerge .mssql x).map fun _ _ shifted => shifted
  | sqlite => exact (Follows.toInsertOrUpdate .sqlite x).map fun _ _ shifted => shifted

/-- A change of the rows that meet conditions, of which two runs give the same. -/
def ChangeShifted (k : Nat) (f g : List Condition → Change) : Prop :=
  ∀ xs ys, ShiftedAll k (Condition.pieces d) xs ys → Shifted k (Change.pieces d) (f xs) (g ys)

theorem bindDeletion (table : TableName) (soft : Option Timestamp) :
    Follows k (ChangeShifted d k) (bindDeletion table soft)
      (bindDeletion table (soft.map fun _ => .epoch)) := by
  cases soft with
  | none =>
    refine .pure fun xs ys conditions => ?_
    simp [Shifted, Change.pieces, Follows.wherePieces d conditions]
  | some t =>
    refine (Follows.bindValue d _ _).map fun _ _ deletedAt xs ys conditions =>
      Follows.changed d ?_ conditions
    simp [ShiftedAll, Assignment.pieces, setColumn, Term.pieces, deletedAt.eq]

theorem delete (x : Delete) :
    Follows k (Shifted k (Change.pieces d)) x.toChange x.redacted.toChange := by
  refine (Follows.bindDeletion d x.table x.soft).bind fun _ _ change =>
    (Follows.bindValue d _ _).bind fun _ _ id => (Follows.bindValue d _ _).map fun _ _ tenant =>
      change _ _ ?_
  simp [ShiftedAll, columnIs, Condition.pieces, Term.pieces, id.eq, tenant.eq]

theorem deleteWhere (x : DeleteWhere) :
    Follows k (Shifted k (Change.pieces d)) (x.toChange d) (x.redacted.toChange d) := by
  obtain ⟨table, filters, tenant, soft⟩ := x
  cases soft with
  | none | some t =>
    exact (Follows.bindDeletion d table _).bind fun _ _ change =>
      (Follows.whereConditions d filters (some tenant) _).map fun _ _ conditions =>
        change _ _ conditions

theorem undeleteWhere (x : UndeleteWhere) :
    Follows k (Shifted k (Change.pieces d)) (x.toChange d) (x.redacted.toChange d) := by
  refine (Follows.whereConditions d x.filters (some x.tenant) .deleted).map fun _ _ conditions =>
    Follows.changed d ?_ conditions
  rfl

/-- A statement and the redacted one, that starts with `k` more parameters, have the same pieces
but for `k` that is added to all numbers, and bind equally many values. -/
theorem tree (s : Statement) :
    Follows k (Shifted k (Tree.pieces d)) (s.tree d) (s.redacted.tree d) := by
  cases s with
  | select s => exact (Follows.toQuery d s).map fun _ _ shifted => shifted
  | insert x => exact (Follows.insert d x).map fun _ _ shifted => shifted
  | update x => exact (Follows.update d x).map fun _ _ shifted => shifted
  | upsert x => exact (Follows.upsert d x).map fun _ _ shifted => shifted
  | delete x => exact (Follows.delete d x).map fun _ _ shifted => shifted
  | deleteWhere x => exact (Follows.deleteWhere d x).map fun _ _ shifted => shifted
  | undeleteWhere x => exact (Follows.undeleteWhere d x).map fun _ _ shifted => shifted
  | createTable x => exact .pure rfl

end Follows

/-! ### Values and texts -/

/-- The pieces of a statement depend on its values by what is left of them when redacted, and on
the values bound before by their number. -/
theorem pieces_tree_eq {s t : Statement} (same : s.redacted = t.redacted) {before before' : Array Value}
    (size : before.size = before'.size) :
    (s.tree d before).1.pieces d = (t.tree d before').1.pieces d ∧
      (s.tree d before).2.size = (t.tree d before').2.size := by
  obtain ⟨first, grown⟩ := Follows.tree (k := 0) d s before before' size.symm
  obtain ⟨second, grown'⟩ := Follows.tree (k := 0) d t before' before' rfl
  rw [Shifted, Piece.later_zero, List.map_id] at first second
  rw [same] at first grown
  exact ⟨first.symm.trans second, grown.symm.trans grown'⟩

theorem names_parameters (c : Command) :
    (c.parameters d).map (·.name) = (List.range' 1 c.params.length).map d.placeholder := by
  rw [Command.parameters, List.map_map, List.range'_eq_map_range, List.range_eq_range']
  rw [List.map_map, ← List.zipIdx_map_snd 0 c.params, List.map_map]
  refine List.map_congr_left fun p _ => ?_
  simp [Nat.add_comm]

/-- **No bound value reaches the text.** Statements that differ only in the values that they bind
add the same text to builders with equally many parameters, and end up with parameters of the
same names. -/
theorem append_eq_of_redacted_eq {s t : Statement} (same : s.redacted = t.redacted) {b c : Builder}
    (dialect : b.dialect = c.dialect) (size : b.params.size = c.params.size) :
    ∃ text, (b.append s).sql = b.sql ++ (if b.isEmpty then "" else "\n") ++ text ++ ";" ∧
      (c.append t).sql = c.sql ++ (if c.isEmpty then "" else "\n") ++ text ++ ";" ∧
      ((b.append s).build.parameters b.dialect).map (·.name) =
        ((c.append t).build.parameters c.dialect).map (·.name) ∧
      (b.append s).build.params.length = (c.append t).build.params.length := by
  obtain ⟨pieces, grown⟩ := pieces_tree_eq (d := b.dialect) same size
  have text : (t.sql c.dialect c.params).1 = (s.sql b.dialect b.params).1 := by
    rw [sql_eq_tree, sql_eq_tree, ← dialect]
    show ((t.tree b.dialect c.params).1).sql b.dialect = ((s.tree b.dialect b.params).1).sql b.dialect
    rw [Tree.sql_eq, Tree.sql_eq, pieces]
  have length : (b.append s).build.params.length = (c.append t).build.params.length := by
    show (s.sql b.dialect b.params).2.toList.length = (t.sql c.dialect c.params).2.toList.length
    rw [sql_eq_tree, sql_eq_tree, ← dialect]
    exact grown
  refine ⟨(s.sql b.dialect b.params).1, rfl, by rw [← text]; rfl, ?_, length⟩
  rw [names_parameters, names_parameters, length, dialect]

/-- A search for the documents of a tenant whose color is, or has in it, a text. -/
def colored (tenant color : String) : Statement :=
  .select {
    table := ⟨"dbo", "shirts"⟩
    projection := .documents
    filters := [.or (.compare ⟨.json ⟨["color"]⟩, .none⟩ .eq (.text color))
      (.like ⟨.json ⟨["color"]⟩, .none⟩ .contains color)]
    tenant := some tenant
  }

/-- The values may be anything: here they look like SQL. -/
theorem append_eq_of_quotes :
    (colored "acme" "blue").redacted = (colored "'; --" "%' OR 1=1; DROP TABLE shirts; --").redacted ∧
      (Builder.append { dialect := .mssql } (colored "acme" "blue")).sql =
        (Builder.append { dialect := .mssql }
          (colored "'; --" "%' OR 1=1; DROP TABLE shirts; --")).sql := by
  have same : (colored "acme" "blue").redacted =
      (colored "'; --" "%' OR 1=1; DROP TABLE shirts; --").redacted := rfl
  obtain ⟨text, first, second, -⟩ := append_eq_of_redacted_eq same
    (b := { dialect := .mssql }) (c := { dialect := .mssql }) rfl rfl
  exact ⟨same, first.trans second.symm⟩

end Statement

end Folio
