import Folio.Proofs.Relational.Effect

/-!
# Folio.Proofs.Sql.Pieces

The text of a statement as a list of `Piece`s: text that stands there as it is, and the
placeholders of parameters, by their numbers. Each form of SQL has its `pieces`, of which its
text is the spelling (`Term.sql_eq`, `Condition.sql_eq`, `Query.sql_eq`, `Change.sql_eq`).

What numbers a statement uses (`numbers`), and what becomes of its text when its parameters
get other numbers (`Piece.later`), is then a matter of lists.
-/

namespace Folio.Sql

/-- A piece of the text of a statement. -/
inductive Piece
  | text (s : String)
  /-- The placeholder of the parameter of that number. -/
  | slot (number : Nat)
  deriving Repr, DecidableEq

namespace Piece

/-- The piece in a statement. -/
def sql (d : Dialect) : Piece → String
  | .text s => s
  | .slot n => d.placeholder n

/-- The number, if it is a placeholder. -/
def number? : Piece → Option Nat
  | .text _ => none
  | .slot n => some n

/-- The piece, with parameters before its own. -/
def later (k : Nat) : Piece → Piece
  | .text s => .text s
  | .slot n => .slot (n + k)

@[simp] theorem later_text (k : Nat) (s : String) : (text s).later k = text s := rfl

@[simp] theorem later_slot (k n : Nat) : (slot n).later k = slot (n + k) := rfl

@[simp] theorem later_zero : later 0 = id := by
  funext p
  cases p <;> rfl

end Piece

/-- The text of pieces. -/
def spelled (d : Dialect) : List Piece → String
  | [] => ""
  | p :: rest => p.sql d ++ spelled d rest

/-- The numbers of the placeholders, in the order of the text. -/
def numbers (ps : List Piece) : List Nat :=
  ps.filterMap Piece.number?

section

variable (d : Dialect)

@[simp] theorem spelled_nil : spelled d [] = "" := rfl

@[simp] theorem spelled_text (s : String) (ps : List Piece) :
    spelled d (.text s :: ps) = s ++ spelled d ps := rfl

@[simp] theorem spelled_slot (n : Nat) (ps : List Piece) :
    spelled d (.slot n :: ps) = d.placeholder n ++ spelled d ps := rfl

@[simp] theorem spelled_append (ps qs : List Piece) :
    spelled d (ps ++ qs) = spelled d ps ++ spelled d qs := by
  induction ps with
  | nil => exact String.empty_append.symm
  | cons p ps ih => rw [List.cons_append, spelled, ih, spelled, String.append_assoc]

@[simp] theorem numbers_nil : numbers [] = [] := rfl

@[simp] theorem numbers_text (s : String) (ps : List Piece) :
    numbers (.text s :: ps) = numbers ps := rfl

@[simp] theorem numbers_slot (n : Nat) (ps : List Piece) :
    numbers (.slot n :: ps) = n :: numbers ps := rfl

@[simp] theorem numbers_append (ps qs : List Piece) :
    numbers (ps ++ qs) = numbers ps ++ numbers qs :=
  List.filterMap_append

theorem numbers_later (k : Nat) (ps : List Piece) :
    numbers (ps.map (Piece.later k)) = (numbers ps).map (· + k) := by
  induction ps with
  | nil => rfl
  | cons p ps ih => cases p <;> simp [ih]

theorem map_later_of_numbers {ps : List Piece} (none : numbers ps = []) (k : Nat) :
    ps.map (Piece.later k) = ps := by
  induction ps with
  | nil => rfl
  | cons p ps ih =>
    cases p with
    | text s => rw [List.map_cons, Piece.later_text, ih none]
    | slot n => cases none

/-! ### Lists of pieces -/

/-- The pieces of items with a text between them. -/
def separated (sep : String) (items : List (List Piece)) : List Piece :=
  [Piece.text sep].intercalate items

theorem separated_cons_cons (sep : String) (ps qs : List Piece) (items : List (List Piece)) :
    separated sep (ps :: qs :: items) = ps ++ .text sep :: separated sep (qs :: items) := by
  simp [separated, List.intercalate]

/-- The pieces of items with a text between them spell what the items do. -/
theorem spelled_separated {α : Type} (sep : String) {text : α → String} {pieces : α → List Piece}
    (spelling : ∀ a, text a = spelled d (pieces a)) (items : List α) :
    String.intercalate sep (items.map text) = spelled d (separated sep (items.map pieces)) := by
  induction items with
  | nil => rfl
  | cons a rest ih =>
    cases rest with
    | nil => simp [separated, List.intercalate, spelling]
    | cons b rest =>
      simp only [List.map_cons] at ih ⊢
      rw [String.intercalate_cons_cons, ih, spelling, separated_cons_cons, spelled_append,
        spelled_text, String.append_assoc]

theorem spelled_flatMap {α : Type} {text : α → String} {pieces : α → List Piece}
    (spelling : ∀ a, text a = spelled d (pieces a)) (items : List α) :
    String.join (items.map text) = spelled d (items.flatMap pieces) := by
  induction items with
  | nil => rfl
  | cons a rest ih => rw [List.map_cons, String.join_cons, ih, spelling, List.flatMap_cons, spelled_append]

theorem map_separated (k : Nat) (sep : String) (items : List (List Piece)) :
    (separated sep items).map (Piece.later k) = separated sep (items.map (List.map (Piece.later k))) := by
  induction items with
  | nil => rfl
  | cons ps rest ih =>
    cases rest with
    | nil => simp [separated, List.intercalate]
    | cons qs rest =>
      simp only [List.map_cons] at ih ⊢
      rw [separated_cons_cons, List.map_append, List.map_cons, ih, separated_cons_cons,
        Piece.later_text]

theorem numbers_separated (sep : String) (items : List (List Piece)) :
    numbers (separated sep items) = items.flatMap numbers := by
  induction items with
  | nil => rfl
  | cons ps rest ih =>
    cases rest with
    | nil => simp [separated, List.intercalate]
    | cons qs rest =>
      rw [separated_cons_cons, numbers_append, numbers_text, ih, ← List.flatMap_cons]

theorem numbers_separated_eq_nil {sep : String} {items : List (List Piece)}
    (none : ∀ ps ∈ items, numbers ps = []) : numbers (separated sep items) = [] := by
  rw [numbers_separated, List.flatMap_eq_nil_iff]
  exact none

theorem numbers_flatMap {α : Type} (pieces : α → List Piece) (items : List α) :
    numbers (items.flatMap pieces) = items.flatMap fun a => numbers (pieces a) := by
  induction items with
  | nil => rfl
  | cons a rest ih => rw [List.flatMap_cons, numbers_append, ih, List.flatMap_cons]

end

/-! ### Terms and conditions -/

/-- The pieces of a cast. -/
def Cast.pieces (d : Dialect) (c : Cast) (inner : List Piece) : List Piece :=
  match d, c with
  | .mssql, c => .text "CAST(" :: (inner ++ [.text (" AS " ++ c.mssqlType ++ ")")])
  | .sqlite, .int | .sqlite, .bigint => .text "CAST(" :: (inner ++ [.text " AS INTEGER)"])
  | .sqlite, .float | .sqlite, .decimal => .text "CAST(" :: (inner ++ [.text " AS REAL)"])
  | .sqlite, .uuid => inner
  | .sqlite, .timestamp => .text "strftime('%Y-%m-%d %H:%M:%f', " :: (inner ++ [.text ")"])

/-- The pieces of a term. -/
def Term.pieces (d : Dialect) : Term → List Piece
  | .slot n => [.slot n]
  | .cast type inner => type.pieces d (inner.pieces d)
  | .next inner => inner.pieces d ++ [.text " + 1"]
  | .byteLength inner => .text "DATALENGTH(" :: (inner.pieces d ++ [.text ")"])
  | .trimmed inner =>
    match d with
    | .mssql => .text "LTRIM(RTRIM(" :: (inner.pieces d ++ [.text "))"])
    | .sqlite => .text "TRIM(" :: (inner.pieces d ++ [.text ")"])
  | t => [.text (t.sql d)]

/-- The pieces of a part. -/
def Part.pieces (d : Dialect) : Part → List Piece
  | .text s => [.text s]
  | .term t => t.pieces d

/-- What the elements of an array are looked up with. -/
def elementsText (d : Dialect) (path : JsonPath) : String :=
  "EXISTS (SELECT 1 FROM " ++ (match d with | .mssql => "OPENJSON(" | .sqlite => "json_each(") ++
    dataColumn ++ ", " ++ path.sql ++ ") AS j WHERE "

/-- The pieces of a condition. -/
def Condition.pieces (d : Dialect) : Condition → List Piece
  | .compare left op right => left.pieces d ++ .text (" " ++ op.sql ++ " ") :: right.pieces d
  | .isNull t => t.pieces d ++ [.text " IS NULL"]
  | .isNotNull t => t.pieces d ++ [.text " IS NOT NULL"]
  | .and left right => .text "(" :: (left.pieces d ++ .text " AND " :: (right.pieces d ++ [.text ")"]))
  | .or left right => .text "(" :: (left.pieces d ++ .text " OR " :: (right.pieces d ++ [.text ")"]))
  | .not inner => .text "NOT (" :: (inner.pieces d ++ [.text ")"])
  | .literal text => [.text text]
  | .inList t items =>
    t.pieces d ++ .text " IN (" :: (separated ", " (items.map (Term.pieces d)) ++ [.text ")"])
  | .like t pattern =>
    t.pieces d ++ .text " LIKE " ::
      (pattern.pieces d ++ [.text (match d with | .mssql => "" | .sqlite => " ESCAPE '\\'")])
  | .equalFolded t other =>
    match d with
    | .mssql => t.pieces d ++ .text " COLLATE Latin1_General_CI_AS = " :: other.pieces d
    | .sqlite => t.pieces d ++ .text " = " :: (other.pieces d ++ [.text " COLLATE NOCASE"])
  | .anyElement path item other =>
    .text (elementsText d path) :: (item.pieces d ++ .text " = " :: (other.pieces d ++ [.text ")"]))
  | .template parts => parts.flatMap (Part.pieces d)

/-- The pieces of the clause for conditions. -/
def wherePieces (d : Dialect) (conditions : List Condition) : List Piece :=
  if conditions.isEmpty then []
  else .text " WHERE " :: separated " AND " (conditions.map (Condition.pieces d))

section

variable (d : Dialect)

theorem Cast.sql_eq (c : Cast) {inner : String} {ps : List Piece} (h : inner = spelled d ps) :
    c.sql d inner = spelled d (c.pieces d ps) := by
  have between (front back : String) :
      front ++ inner ++ back = spelled d (.text front :: (ps ++ [.text back])) := by
    simp [h, String.append_assoc]
  cases d with
  | mssql =>
    show "CAST(" ++ inner ++ " AS " ++ c.mssqlType ++ ")" = _
    simp only [Cast.pieces, ← between, String.append_assoc]
  | sqlite =>
    cases c with
    | int | bigint | float | decimal | timestamp => exact between _ _
    | uuid => exact h

/-- The text of a term is the spelling of its pieces. -/
theorem Term.sql_eq (t : Term) : t.sql d = spelled d (t.pieces d) := by
  induction t with
  | cast type inner ih => exact type.sql_eq d ih
  | next inner ih =>
    show inner.sql d ++ " + 1" = _
    simp [Term.pieces, ih]
  | byteLength inner ih =>
    show "DATALENGTH(" ++ inner.sql d ++ ")" = _
    simp [Term.pieces, ih, String.append_assoc]
  | trimmed inner ih =>
    cases d with
    | mssql =>
      show "LTRIM(RTRIM(" ++ inner.sql .mssql ++ "))" = _
      simp [Term.pieces, ih, String.append_assoc]
    | sqlite =>
      show "TRIM(" ++ inner.sql .sqlite ++ ")" = _
      simp [Term.pieces, ih, String.append_assoc]
  | _ => exact String.append_empty.symm

theorem Part.sql_eq (p : Part) : p.sql d = spelled d (p.pieces d) := by
  cases p with
  | text s => exact String.append_empty.symm
  | term t => exact t.sql_eq d

/-- The text of a condition is the spelling of its pieces. -/
theorem Condition.sql_eq (c : Condition) : c.sql d = spelled d (c.pieces d) := by
  induction c with
  | compare left op right =>
    show left.sql d ++ " " ++ op.sql ++ " " ++ right.sql d = _
    simp [Condition.pieces, left.sql_eq d, right.sql_eq d, String.append_assoc]
  | isNull t =>
    show t.sql d ++ " IS NULL" = _
    simp [Condition.pieces, t.sql_eq d]
  | isNotNull t =>
    show t.sql d ++ " IS NOT NULL" = _
    simp [Condition.pieces, t.sql_eq d]
  | and left right ihl ihr =>
    show "(" ++ left.sql d ++ " AND " ++ right.sql d ++ ")" = _
    simp [Condition.pieces, ihl, ihr, String.append_assoc]
  | or left right ihl ihr =>
    show "(" ++ left.sql d ++ " OR " ++ right.sql d ++ ")" = _
    simp [Condition.pieces, ihl, ihr, String.append_assoc]
  | not inner ih =>
    show "NOT (" ++ inner.sql d ++ ")" = _
    simp [Condition.pieces, ih, String.append_assoc]
  | literal text => exact String.append_empty.symm
  | inList t items =>
    show t.sql d ++ " IN (" ++ String.intercalate ", " (items.map (Term.sql d)) ++ ")" = _
    simp [Condition.pieces, t.sql_eq d, spelled_separated d ", " (Term.sql_eq d), String.append_assoc]
  | like t pattern =>
    cases d with
    | mssql =>
      show t.sql .mssql ++ " LIKE " ++ pattern.sql .mssql ++ "" = _
      simp [Condition.pieces, Term.sql_eq, String.append_assoc]
    | sqlite =>
      show t.sql .sqlite ++ " LIKE " ++ pattern.sql .sqlite ++ " ESCAPE '\\'" = _
      simp [Condition.pieces, Term.sql_eq, String.append_assoc]
  | equalFolded t other =>
    cases d with
    | mssql =>
      show t.sql .mssql ++ " COLLATE Latin1_General_CI_AS = " ++ other.sql .mssql = _
      simp [Condition.pieces, Term.sql_eq, String.append_assoc]
    | sqlite =>
      show t.sql .sqlite ++ " = " ++ other.sql .sqlite ++ " COLLATE NOCASE" = _
      simp [Condition.pieces, Term.sql_eq, String.append_assoc]
  | anyElement path item other =>
    show elementsText d path ++ item.sql d ++ " = " ++ other.sql d ++ ")" = _
    simp [Condition.pieces, Term.sql_eq, String.append_assoc]
  | template parts => exact spelled_flatMap d (Part.sql_eq d) parts

theorem whereSql_eq (conditions : List Condition) :
    whereSql d conditions = spelled d (wherePieces d conditions) := by
  rw [whereSql, wherePieces]
  split
  · rfl
  · rw [spelled_text, conjunctionSql, spelled_separated d " AND " (Condition.sql_eq d)]

end

/-! ### Queries -/

/-- The pieces of a function applied to a term. -/
def Aggregate.pieces (d : Dialect) (a : Aggregate) (t : Term) : List Piece :=
  match d, a with
  | .mssql, .average => .text "AVG(CAST(" :: (t.pieces d ++ [.text " AS float))"])
  | _, a => .text (a.name ++ "(") :: (t.pieces d ++ [.text ")"])

/-- The pieces of a column. -/
def Column.pieces (d : Dialect) : Column → List Piece
  | .term t => t.pieces d
  | .named t name => t.pieces d ++ [.text (" AS " ++ name)]
  | .count => [.text "COUNT(*)"]
  | .aggregate a t => a.pieces d t

/-- The pieces of one term of an order. -/
def orderTermPieces (d : Dialect) (t : Term × Direction) : List Piece :=
  t.1.pieces d ++ [.text (match t.2 with | .ascending => " ASC" | .descending => " DESC")]

/-- The pieces of an order's clause. -/
def Order.pieces (d : Dialect) : Order → List Piece
  | .none => []
  | .by terms => .text " ORDER BY " :: separated ", " (terms.map (orderTermPieces d))
  | .arbitrary => [.text " ORDER BY (SELECT NULL)"]

/-- The words that a query begins with. -/
def RowQuery.opening (q : RowQuery) : String :=
  "SELECT " ++ (if q.distinct then "DISTINCT " else "") ++
    (match q.top with | some n => "TOP " ++ toString n ++ " " | none => "")

/-- The pieces of a query on the rows of one table. -/
def RowQuery.pieces (d : Dialect) (q : RowQuery) : List Piece :=
  .text q.opening :: (separated ", " (q.columns.map (Column.pieces d)) ++
    .text (" FROM " ++ q.table.sql d) ::
      (wherePieces d q.conditions ++ (q.order.pieces d ++ [.text q.page.sql])))

/-- The pieces of a query. -/
def Query.pieces (d : Dialect) : Query → List Piece
  | .rows q => q.pieces d
  | .exists q => .text "SELECT CASE WHEN EXISTS (" :: (q.pieces d ++ [.text ") THEN 1 ELSE 0 END"])
  | .over column q =>
    .text "SELECT " :: (column.pieces d ++ .text " FROM (" :: (q.pieces d ++ [.text ") AS q"]))

section

variable (d : Dialect)

theorem Aggregate.sql_eq (a : Aggregate) (t : Term) : a.sql d t = spelled d (a.pieces d t) := by
  have applied : a.name ++ "(" ++ t.sql d ++ ")" =
      spelled d (.text (a.name ++ "(") :: (t.pieces d ++ [.text ")"])) := by
    simp [t.sql_eq d, String.append_assoc]
  cases d with
  | sqlite => cases a <;> exact applied
  | mssql =>
    cases a with
    | average =>
      show "AVG(CAST(" ++ t.sql .mssql ++ " AS float))" = _
      simp [Aggregate.pieces, Term.sql_eq, String.append_assoc]
    | _ => exact applied

theorem Column.sql_eq (c : Column) : c.sql d = spelled d (c.pieces d) := by
  cases c with
  | term t => exact t.sql_eq d
  | named t name =>
    show t.sql d ++ " AS " ++ name = _
    simp [Column.pieces, t.sql_eq d, String.append_assoc]
  | count => exact String.append_empty.symm
  | aggregate a t => exact a.sql_eq d t

theorem orderTermSql_eq (t : Term × Direction) : orderTermSql d t = spelled d (orderTermPieces d t) := by
  obtain ⟨t, direction⟩ := t
  cases direction <;> simp [orderTermSql, orderTermPieces, t.sql_eq d]

theorem Order.sql_eq (o : Order) : o.sql d = spelled d (o.pieces d) := by
  cases o with
  | none => rfl
  | «by» terms =>
    show " ORDER BY " ++ String.intercalate ", " (terms.map (orderTermSql d)) = _
    rw [spelled_separated d ", " (orderTermSql_eq d)]
    rfl
  | arbitrary => exact String.append_empty.symm

/-- The text of a query on rows is the spelling of its pieces. -/
theorem RowQuery.sql_eq_spelled (q : RowQuery) : q.sql d = spelled d (q.pieces d) := by
  show q.opening ++ String.intercalate ", " (q.columns.map (Column.sql d)) ++ " FROM " ++
    q.table.sql d ++ whereSql d q.conditions ++ q.order.sql d ++ q.page.sql = _
  simp [RowQuery.pieces, spelled_separated d ", " (Column.sql_eq d), whereSql_eq d, q.order.sql_eq d,
    String.append_assoc]

/-- The text of a query is the spelling of its pieces. -/
theorem Query.sql_eq (q : Query) : q.sql d = spelled d (q.pieces d) := by
  cases q with
  | rows q => exact q.sql_eq_spelled d
  | «exists» q =>
    show "SELECT CASE WHEN EXISTS (" ++ q.sql d ++ ") THEN 1 ELSE 0 END" = _
    simp [Query.pieces, q.sql_eq_spelled d, String.append_assoc]
  | «over» column q =>
    show "SELECT " ++ column.sql d ++ " FROM (" ++ q.sql d ++ ") AS q" = _
    simp [Query.pieces, column.sql_eq d, q.sql_eq_spelled d, String.append_assoc]

end

/-! ### Changes -/

/-- The pieces of an assignment. -/
def Assignment.pieces (d : Dialect) (a : Assignment) : List Piece :=
  a.column.pieces d ++ .text " = " :: a.value.pieces d

/-- The pieces of assignments. -/
def assignmentsPieces (d : Dialect) (as : List Assignment) : List Piece :=
  separated ", " (as.map (Assignment.pieces d))

/-- The pieces of values between parentheses. -/
def tuplePieces (d : Dialect) (values : List Term) : List Piece :=
  .text "(" :: (separated ", " (values.map (Term.pieces d)) ++ [.text ")"])

/-- How the given row of a merge is matched. -/
def Merge.matching (m : Merge) : String :=
  String.intercalate " AND " (m.key.map fun (_, name) => "target." ++ name ++ " = source." ++ name)

/-- The pieces of a merge. -/
def Merge.pieces (d : Dialect) (m : Merge) : List Piece :=
  .text ("MERGE " ++ m.table.sql d ++ " WITH (HOLDLOCK) AS target USING (SELECT ") ::
    (separated ", " (m.key.map fun (t, name) => t.pieces d ++ [.text (" AS " ++ name)]) ++
      .text (") AS source ON " ++ m.matching ++ " WHEN MATCHED") ::
        (m.matched.flatMap (fun c => .text " AND " :: c.pieces d) ++ .text " THEN UPDATE SET " ::
          (assignmentsPieces d m.updates ++
            .text (" WHEN NOT MATCHED THEN INSERT " ++ tupleSql m.columns ++ " VALUES ") ::
              tuplePieces d m.values)))

/-- The pieces of inserting a row. -/
def insertPieces (d : Dialect) (table : TableName) (columns : List String) (values : List Term) :
    List Piece :=
  .text ("INSERT INTO " ++ table.sql d ++ " " ++ tupleSql columns ++ " VALUES ") :: tuplePieces d values

/-- The pieces of an insert or update. -/
def InsertOrUpdate.pieces (d : Dialect) (i : InsertOrUpdate) : List Piece :=
  insertPieces d i.table i.columns i.values ++
    .text (" ON CONFLICT " ++ tupleSql i.key ++ " DO UPDATE SET ") ::
      (assignmentsPieces d i.updates ++ wherePieces d i.matched)

/-- The pieces of a change. -/
def Change.pieces (d : Dialect) : Change → List Piece
  | .insert table columns values => insertPieces d table columns values
  | .update table updates conditions =>
    .text ("UPDATE " ++ table.sql d ++ " SET ") :: (assignmentsPieces d updates ++ wherePieces d conditions)
  | .delete table conditions => .text ("DELETE FROM " ++ table.sql d) :: wherePieces d conditions
  | .merge m => m.pieces d
  | .insertOrUpdate i => i.pieces d
  | .createTable t => [.text (t.sql d)]

section

variable (d : Dialect)

theorem Assignment.sql_eq (a : Assignment) : a.sql d = spelled d (a.pieces d) := by
  show a.column.sql d ++ " = " ++ a.value.sql d = _
  simp [Assignment.pieces, Term.sql_eq d, String.append_assoc]

theorem assignmentsSql_eq (as : List Assignment) :
    assignmentsSql d as = spelled d (assignmentsPieces d as) :=
  spelled_separated d ", " (Assignment.sql_eq d) as

theorem tupleSql_eq (values : List Term) :
    tupleSql (values.map (Term.sql d)) = spelled d (tuplePieces d values) := by
  simp [tupleSql, tuplePieces, spelled_separated d ", " (Term.sql_eq d), String.append_assoc]

theorem Merge.sql_eq (m : Merge) : m.sql d = spelled d (m.pieces d) := by
  have key (k : Term × String) :
      k.1.sql d ++ " AS " ++ k.2 = spelled d (k.1.pieces d ++ [.text (" AS " ++ k.2)]) := by
    simp [Term.sql_eq d, String.append_assoc]
  have matched (c : Condition) : " AND " ++ c.sql d = spelled d (.text " AND " :: c.pieces d) := by
    rw [spelled_text, c.sql_eq d]
  show "MERGE " ++ m.table.sql d ++ " WITH (HOLDLOCK) AS target USING (SELECT " ++
    String.intercalate ", " (m.key.map fun k => k.1.sql d ++ " AS " ++ k.2) ++
    ") AS source ON " ++ m.matching ++ " WHEN MATCHED" ++
    String.join (m.matched.map fun c => " AND " ++ c.sql d) ++
    " THEN UPDATE SET " ++ assignmentsSql d m.updates ++
    " WHEN NOT MATCHED THEN INSERT " ++ tupleSql m.columns ++
    " VALUES " ++ tupleSql (m.values.map (Term.sql d)) = _
  rw [spelled_separated d ", " key, spelled_flatMap d matched]
  simp only [Merge.pieces, assignmentsSql_eq d, tupleSql_eq d, spelled_text, spelled_append,
    String.append_assoc]

theorem insertSql_eq (table : TableName) (columns : List String) (values : List Term) :
    insertSql d table columns values = spelled d (insertPieces d table columns values) := by
  show "INSERT INTO " ++ table.sql d ++ " " ++ tupleSql columns ++ " VALUES " ++
    tupleSql (values.map (Term.sql d)) = _
  simp [insertPieces, tupleSql_eq d, String.append_assoc]

theorem InsertOrUpdate.sql_eq (i : InsertOrUpdate) : i.sql d = spelled d (i.pieces d) := by
  show insertSql d i.table i.columns i.values ++ " ON CONFLICT " ++ tupleSql i.key ++
    " DO UPDATE SET " ++ assignmentsSql d i.updates ++ whereSql d i.matched = _
  simp [InsertOrUpdate.pieces, insertSql_eq d, assignmentsSql_eq d, whereSql_eq d, String.append_assoc]

/-- The text of a change is the spelling of its pieces. -/
theorem Change.sql_eq (c : Change) : c.sql d = spelled d (c.pieces d) := by
  cases c with
  | insert table columns values => exact insertSql_eq d table columns values
  | update table updates conditions =>
    show "UPDATE " ++ table.sql d ++ " SET " ++ assignmentsSql d updates ++ whereSql d conditions = _
    simp [Change.pieces, assignmentsSql_eq d, whereSql_eq d, String.append_assoc]
  | delete table conditions =>
    show "DELETE FROM " ++ table.sql d ++ whereSql d conditions = _
    simp [Change.pieces, whereSql_eq d]
  | merge m => exact m.sql_eq d
  | insertOrUpdate i => exact i.sql_eq d
  | createTable t => exact String.append_empty.symm

end

end Folio.Sql

namespace Folio.Relational

open Folio.Sql

/-- The pieces of a statement's tree. -/
def Tree.pieces (d : Dialect) : Tree → List Piece
  | .query q => q.pieces d
  | .change c => c.pieces d

/-- The text of a statement's tree is the spelling of its pieces. -/
theorem Tree.sql_eq (d : Dialect) (t : Tree) : t.sql d = spelled d (t.pieces d) := by
  cases t with
  | query q => exact q.sql_eq d
  | change c => exact c.sql_eq d

end Folio.Relational
