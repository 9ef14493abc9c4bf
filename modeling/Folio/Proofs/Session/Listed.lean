import Folio.Proofs.Predicate.Preserved
import Folio.Proofs.Session.Sent
import Folio.Proofs.Versions.Tenants

/-!
# Folio.Proofs.Session.Listed

Which reads of distinct rows SQL Server accepts: those whose columns list everything that the rows are
ordered by, written alike (`RowQuery.ListsOrder`).

`Selection.listsOrder_toRowQuery_iff` says it of one selection. A read is rejected in two cases
(`Read.Misorders`): if it skips rows that are in no order, since then an order is made up, and if it
computes with a member over a page that is ordered by another one, since of the rows of that page only
the one member is selected (`Read.listsOrder_iff`).
-/

namespace Folio

open Folio.Predicate (Compiler Located)
open Folio.Sql (Cast Column Direction Order RowQuery Term)
open Folio.Statement (Command Locator Purpose Selection)

/-! ### Queries -/

namespace Sql

variable (d : Dialect)

/-- What a column is computed by. -/
def Column.expression : Column → String
  | .named t _ => t.sql d
  | c => c.sql d

/-- The name that a column is given. -/
def Column.label : Column → String
  | .named _ name => " AS " ++ name
  | _ => ""

/-- How a direction is written. -/
def Direction.label : Direction → String
  | .ascending => " ASC"
  | .descending => " DESC"

/-- What rows are ordered by. -/
def Order.expressions : Order → List String
  | .none => []
  | .by terms => terms.map fun t => t.1.sql d
  | .arbitrary => ["(SELECT NULL)"]

/-- A column is written as its expression, then its name. -/
theorem Column.sql_eq_expression (c : Column) : c.sql d = c.expression d ++ c.label := by
  cases c <;> simp [sql, expression, label, String.append_assoc]

/-- An order is written as its expressions, each with its direction, if it has one. -/
theorem Order.sql_eq_expressions {o : Order} (ordered : o ≠ .none) :
    ∃ directions : List String, directions.length = (o.expressions d).length ∧
      o.sql d = " ORDER BY " ++
        String.intercalate ", " (List.zipWith (· ++ ·) (o.expressions d) directions) := by
  cases o with
  | none => exact absurd rfl ordered
  | «by» terms =>
    refine ⟨terms.map fun t => t.2.label, ?_, ?_⟩
    · simp [expressions]
    · rw [sql, expressions, List.zipWith_map, List.zipWith_self]
      rfl
  | arbitrary => exact ⟨[""], rfl, rfl⟩

/-- If rows are to be distinct, everything that they are ordered by is the expression of a column. -/
def RowQuery.ListsOrder (q : RowQuery) : Prop :=
  q.distinct = true → ∀ e ∈ q.order.expressions d, e ∈ q.columns.map (Column.expression d)

end Sql

/-! ### Selections -/

namespace Statement

/-- A locator in a statement for SQL Server. -/
def Locator.mssql (l : Locator) : String :=
  (l.toTerm .mssql).sql .mssql

namespace Selection

variable {s : Selection} {p : Purpose}

theorem isPaged_of_offset (offset : s.offset.isSome = true) : s.isPaged = true := by
  simp [isPaged, offset]

theorem isOrdered_eq_true :
    s.isOrdered p = true ↔ s.order ≠ [] ∧ (p = .answer ∨ s.isPaged = true) := by
  simp [isOrdered]

/-- The locators of the order in a statement. -/
def orderTexts (s : Selection) : List String :=
  s.order.map fun key => key.1.mssql

theorem expressions_orderColumns :
    (s.orderColumns .mssql).map (Column.expression .mssql) = s.orderTexts := by
  rw [orderColumns, orderTexts, List.map_map]
  conv_rhs => rw [← List.zipIdx_map_fst 0 s.order, List.map_map]
  rfl

theorem expressions_order (before : Array Value) :
    (s.toRowQuery .mssql p before).1.order.expressions .mssql =
      if s.isOrdered p then s.orderTexts
      else if s.offset.isSome then ["(SELECT NULL)"] else [] := by
  show Order.expressions .mssql (if s.isOrdered p then _ else if _ then _ else _) = _
  by_cases ordered : s.isOrdered p = true
  · simp only [ordered, if_true, Order.expressions, List.map_map, orderTexts]
    rfl
  · simp only [ordered]
    by_cases offset : s.offset.isSome = true
    · simp [offset, Order.expressions]
    · simp [offset, Order.expressions]

theorem expressions_columns (distinct : s.distinct = true) (before : Array Value) :
    (s.toRowQuery .mssql p before).1.columns.map (Column.expression .mssql) =
      (s.columnsFor .mssql p).map (Column.expression .mssql) ++
        if s.isOrdered p && s.hasWholeRows p then s.orderTexts else [] := by
  show List.map _ (_ ++ if _ then _ else _) = _
  rw [List.map_append, distinct]
  by_cases extra : (s.isOrdered p && s.hasWholeRows p) = true
  · simp [extra, expressions_orderColumns]
  · simp [extra]

/-- Where distinct rows are put in order, it is by columns, if they are whole documents or each locator
is a column anyway. An order that is made up is none of them. -/
theorem listsOrder_toRowQuery_iff (distinct : s.distinct = true)
    (known : "(SELECT NULL)" ∉ (s.columnsFor .mssql p).map (Column.expression .mssql))
    (before : Array Value) :
    (s.toRowQuery .mssql p before).1.ListsOrder .mssql ↔
      (s.offset.isSome = true → s.order ≠ []) ∧
        (s.isOrdered p = true → s.hasWholeRows p = true ∨
          ∀ e ∈ s.orderTexts, e ∈ (s.columnsFor .mssql p).map (Column.expression .mssql)) := by
  have same : (s.toRowQuery .mssql p before).1.distinct = true := distinct
  rw [RowQuery.ListsOrder, expressions_order, expressions_columns distinct]
  simp only [same, true_implies]
  by_cases ordered : s.isOrdered p = true
  · have some : s.order ≠ [] := (isOrdered_eq_true.mp ordered).1
    cases whole : s.hasWholeRows p <;> simp_all
  · simp only [ordered]
    by_cases offset : s.offset.isSome = true
    · have none : s.order = [] := by
        by_contra some
        exact ordered (isOrdered_eq_true.mpr ⟨some, .inr (isPaged_of_offset offset)⟩)
      simpa [offset, none] using known
    · simp [offset]

end Selection

end Statement

/-! ### Reads -/

/-- A made-up order starts with a parenthesis. -/
theorem ne_selectNull {start rest : String} (a : Char) (as : List Char)
    (first : start.toList = a :: as) (other : a ≠ '(') : start ++ rest ≠ "(SELECT NULL)" := by
  intro same
  have chars := congrArg String.toList same
  rw [String.toList_append, first] at chars
  exact other (List.cons.inj chars).1

theorem Statement.Locator.mssql_ne (c : Statement.Conversion) (path : Sql.JsonPath) :
    (Locator.mk (.json path) c).mssql ≠ "(SELECT NULL)" := by
  cases c with
  | none | boolText =>
    show "JSON_VALUE(" ++ Sql.dataColumn ++ ", " ++ path.sql ++ ")" ≠ _
    simp only [String.append_assoc]
    exact ne_selectNull 'J' "SON_VALUE(".toList rfl (by decide)
  | cast type =>
    show "CAST(" ++ _ ++ " AS " ++ type.mssqlType ++ ")" ≠ _
    simp only [String.append_assoc]
    exact ne_selectNull 'C' "AST(".toList rfl (by decide)

/-- What a member is located by is written in another way than an order that is made up. -/
theorem Predicate.Compiler.mssql_ne {c : Compiler} {m : Member} {l : Located}
    (h : c.locate m = .ok l) : l.typed.mssql ≠ "(SELECT NULL)" := by
  rcases Predicate.Compiler.locate_cases h with ⟨-, rfl⟩ | ⟨-, rfl⟩
  · exact (by decide : Sql.idColumn ≠ "(SELECT NULL)")
  · exact Statement.Locator.mssql_ne _ _

/-- A member as it is written in statements for SQL Server. -/
def Predicate.Compiler.memberText (c : Compiler) (m : Member) : Option String :=
  (c.locate m).toOption.map fun l => l.typed.mssql

/-- The members that a query orders by are those that its selection does. -/
theorem Query.Selects.map_memberText {q : Query} {c : Compiler} {s : Selection}
    (selects : q.Selects c s) :
    q.order.map (fun key => c.memberText key.1) = s.orderTexts.map some := by
  have each := Outcome.mapM_eq_ok.mp selects.order
  rw [Selection.orderTexts, List.map_map]
  generalize q.order = members at each ⊢
  generalize s.order = keys at each ⊢
  induction each with
  | nil => rfl
  | @cons key _ _ _ sent _ ih =>
    obtain ⟨m, direction⟩ := key
    obtain ⟨l, keyed, made⟩ := Outcome.bind_eq_ok.mp sent
    obtain ⟨found, located, typed⟩ := Outcome.bind_eq_ok.mp keyed
    obtain rfl := Except.ok.inj typed
    obtain rfl := Except.ok.inj made
    rw [List.map_cons, List.map_cons, ih, Compiler.memberText, located]
    rfl

theorem Query.Selects.order_eq_nil {q : Query} {c : Compiler} {s : Selection}
    (selects : q.Selects c s) : s.order = [] ↔ q.order = [] := by
  have same := congrArg List.length selects.map_memberText
  simp only [List.length_map, Selection.orderTexts] at same
  rw [← List.length_eq_zero_iff, ← List.length_eq_zero_iff, same]

namespace Read

/-- What the rows of a read are read for, if they are to be distinct. -/
def purpose (l : Locator) : Read → Purpose
  | .count _ => .counting
  | .any _ => .existence
  | .sum .. | .min .. | .max .. | .average .. => .values l
  | _ => .answer

/-- A read of distinct rows that SQL Server rejects. It skips rows that are in no order, or it computes
with a member over a page that is ordered by another one. -/
def Misorders (r : Read) (c : Compiler) : Prop :=
  r.distinct = true ∧
    ((r.query.offset.isSome = true ∧ r.query.order = []) ∨
      ∃ a m, r.computed? = some (a, m) ∧
        (r.query.limit.isSome = true ∨ r.query.offset.isSome = true) ∧
        ∃ key ∈ r.query.order, c.memberText key.1 ≠ c.memberText m)

variable {r : Read} {c : Compiler} {l : Locator} {base : Selection}

theorem send_purpose (selects : r.query.Selects c base) (distinct : r.distinct = true) :
    (r.send l base).purpose = r.purpose l := by
  have projection := selects.projection
  have existence := selects.existence
  have narrow : (r.send l base).distinct = true := (send_distinct selects).trans distinct
  cases r <;>
    simp_all [Selection.purpose, send, purpose, Selection.atMost, Selection.counting, Selection.computing]

/-- A read sees its rows in the order of its query, if it sees a part of them. -/
theorem send_order (paged : (r.send l base).isPaged = true) : (r.send l base).order = base.order := by
  have kept (p : Statement.Projection)
      (h : ({ base with projection := p } : Selection).unorderedUnlessPaged.isPaged = true) :
      ({ base with projection := p } : Selection).unorderedUnlessPaged.order = base.order := by
    rw [Selection.unorderedUnlessPaged_of_paged]
    simpa [Selection.isPaged] using h
  cases r with
  | count | sum | min | max | average => exact kept _ paged
  | _ => rfl

/-- The rows of a read hold whole documents, unless it is of a member. -/
theorem send_hasWholeRows (selects : r.query.Selects c base) :
    (r.send l base).hasWholeRows (r.purpose l) = r.member?.isNone := by
  have projection := selects.projection
  cases r <;>
    simp_all [Selection.hasWholeRows, send, purpose, member?, computed?, Selection.atMost]

/-- The columns of whole documents are those that each table has. -/
theorem send_columns_whole (selects : r.query.Selects c base) (whole : r.member? = none) :
    ∀ e ∈ ((r.send l base).columnsFor .mssql (r.purpose l)).map (Column.expression .mssql),
      e = "data" ∨ e = "version" := by
  have projection := selects.projection
  cases r with
  | sum | min | max | average | select => cases whole
  | _ =>
    simp_all [Selection.columnsFor, send, purpose, Selection.atMost, Selection.columns]
    all_goals decide

/-- The column of a member is the only one. -/
theorem send_columns_member {m : Member} (of : r.member? = some m) :
    ((r.send l base).columnsFor .mssql (r.purpose l)).map (Column.expression .mssql) = [l.mssql] := by
  cases r with
  | sum | min | max | average | select => rfl
  | _ => cases of

/-- A member of a document is the only thing that its read lists. -/
theorem send_known (selects : r.query.Selects c base) (of : r.IsOf c l) :
    "(SELECT NULL)" ∉
      ((r.send l base).columnsFor .mssql (r.purpose l)).map (Column.expression .mssql) := by
  cases is : r.member? with
  | none =>
    intro listed
    rcases send_columns_whole selects is _ listed with same | same
    · exact (by decide : "(SELECT NULL)" ≠ "data") same
    · exact (by decide : "(SELECT NULL)" ≠ "version") same
  | some m =>
    obtain ⟨found, located, rfl⟩ := of m is
    rw [send_columns_member is, List.mem_singleton]
    exact (Compiler.mssql_ne located).symm

/-- A read that skips rows has an order, or one is made up. -/
theorem send_order_ne_nil_iff (selects : r.query.Selects c base) :
    (r.query.offset.isSome = true → (r.send l base).order ≠ []) ↔
      ¬(r.query.offset.isSome = true ∧ r.query.order = []) := by
  rw [not_and]
  refine forall_congr' fun offset => not_congr ?_
  rw [← send_offset (l := l) selects] at offset
  rw [send_order (Selection.isPaged_of_offset offset), selects.order_eq_nil]

theorem memberText_of {m : Member} (of : r.IsOf c l) (is : r.member? = some m) :
    c.memberText m = some l.mssql := by
  obtain ⟨found, located, rfl⟩ := of m is
  rw [Compiler.memberText, located]
  rfl

theorem limit_of_computed? {a : Sql.Aggregate} {m : Member} (is : r.computed? = some (a, m)) :
    r.limit = r.query.limit := by
  cases r <;> simp_all [limit, most, computed?]

theorem purpose_of_computed? {a : Sql.Aggregate} {m : Member} (is : r.computed? = some (a, m)) :
    r.purpose l = .values l := by
  cases r <;> simp_all [purpose, computed?]

/-- The member that is computed with is the only one that its page may be ordered by. -/
theorem send_listed_computed_iff {a : Sql.Aggregate} {m : Member} (selects : r.query.Selects c base)
    (of : r.IsOf c l) (is : r.computed? = some (a, m)) :
    ((r.send l base).isOrdered (r.purpose l) = true →
        ∀ e ∈ (r.send l base).orderTexts, e = l.mssql) ↔
      (r.query.limit.isSome = true ∨ r.query.offset.isSome = true →
        ∀ key ∈ r.query.order, c.memberText key.1 = c.memberText m) := by
  have text := memberText_of of (member?_of_computed? is)
  have paged : (r.send l base).isPaged = true ↔
      r.query.limit.isSome = true ∨ r.query.offset.isSome = true := by
    rw [Selection.isPaged, send_limit selects, send_offset selects, limit_of_computed? is,
      Bool.or_eq_true]
  have texts (h : (r.send l base).isPaged = true) :
      (r.send l base).orderTexts.map some = r.query.order.map fun key => c.memberText key.1 := by
    rw [selects.map_memberText, Selection.orderTexts, Selection.orderTexts, send_order h]
  rw [← paged, text]
  constructor
  · intro listed h key mem
    obtain ⟨e, among, same⟩ := List.mem_map.mp (texts h ▸ List.mem_map_of_mem mem)
    have some : (r.send l base).order ≠ [] := by
      rw [send_order h, ne_eq, selects.order_eq_nil]
      exact List.ne_nil_of_mem mem
    rw [← same, listed (Selection.isOrdered_eq_true.mpr ⟨some, .inr h⟩) e among]
  · intro same ordered e among
    obtain ⟨-, answered | h⟩ := Selection.isOrdered_eq_true.mp ordered
    · rw [purpose_of_computed? is] at answered
      cases answered
    · obtain ⟨key, mem, is⟩ := List.mem_map.mp (texts h ▸ List.mem_map_of_mem among)
      exact Option.some.inj (is.symm.trans (same h key mem))

/-- A projection is in no order but its own, so all that it is ordered by is listed. -/
theorem send_listed_select {q : Query} {m : Member} {shape : Typed.Shape} {narrow : Bool}
    (is : r = .select q m shape narrow) (selects : r.query.Selects c base)
    (sorted : r.IsSorted l base) (distinct : r.distinct = true) :
    ∀ e ∈ (r.send l base).orderTexts, e = l.mssql := by
  subst is
  intro e among
  obtain ⟨key, mem, rfl⟩ := List.mem_map.mp among
  have narrowed : (base.distinct || narrow) = true := by
    rw [selects.distinct]
    exact distinct
  rw [sorted q m shape narrow rfl narrowed key mem]

/-- A read of distinct rows lists what they are ordered by, unless it is one of those that are
rejected. -/
theorem send_listsOrder_iff (selects : r.query.Selects c base) (of : r.IsOf c l)
    (sorted : r.IsSorted l base) (before : Array Value) :
    ((r.send l base).toRowQuery .mssql (r.send l base).purpose before).1.ListsOrder .mssql ↔
      ¬r.Misorders c := by
  by_cases distinct : r.distinct = true
  · rw [send_purpose selects distinct,
      Selection.listsOrder_toRowQuery_iff ((send_distinct selects).trans distinct) (send_known selects of),
      send_offset selects, send_hasWholeRows selects, Misorders, and_iff_right distinct, not_or,
      send_order_ne_nil_iff selects]
    refine and_congr_right fun _ => ?_
    cases is : r.computed? with
    | some computed =>
      obtain ⟨a, m⟩ := computed
      have member := member?_of_computed? is
      rw [member, send_columns_member member]
      simpa using send_listed_computed_iff selects of is
    | none =>
      refine iff_of_true (fun _ => ?_) (by simp)
      cases r with
      | sum | min | max | average => cases is
      | select q m shape narrow =>
        right
        rw [send_columns_member (m := m) rfl]
        simpa using send_listed_select rfl selects sorted distinct
      | _ => exact .inl rfl
  · have narrow : (r.send l base).distinct ≠ true := fun h => distinct ((send_distinct selects).symm.trans h)
    exact iff_of_true (fun h => absurd h narrow) fun h => distinct h.1

end Read

/-- Every read that can be planned for SQL Server lists what its distinct rows are ordered by among their
columns, unless it skips rows that are in no order, or computes with one member over a page that is
ordered by another. -/
theorem Read.listsOrder_iff (s : Session) (schema : Schema) (t : DocumentType) (r : Read)
    (mssql : schema.dialect = .mssql) :
    (∃ f, r.plan s schema t = .error f) ∨
      ∃ p, r.plan s schema t = .ok p ∧
        (Command.ofStatement schema.dialect p.statement).sql =
          (p.query schema.dialect).sql schema.dialect ++ ";" ∧
        ((p.query schema.dialect).body.ListsOrder schema.dialect ↔
          ¬r.Misorders (s.scope schema t).compiler) := by
  cases planned : r.plan s schema t with
  | error f => exact .inl ⟨f, rfl⟩
  | ok p =>
    obtain ⟨base, l, selects, of, sorted, sent⟩ := Read.plan_sends planned
    obtain ⟨body, -⟩ := p.selection.body_toQuery schema.dialect #[]
    refine .inr ⟨p, rfl, p.sql_query _, ?_⟩
    rw [Plan.query, body, sent, mssql]
    exact Read.send_listsOrder_iff selects of sorted #[]

namespace Orders

/-- The totals of the two orders that come first. -/
def firstTotals : Read :=
  .sum { order := [(⟨[.field "placed"], .int64, false⟩, .ascending)], limit := some 2, distinct := true }
    ⟨[.field "total"], .int64, false⟩ .int64

/-- To add up the first two totals, SQL Server is asked for distinct totals in the order in which the
orders were placed, and it rejects that. -/
theorem listsOrder_iff_firstTotals :
    ∃ p, firstTotals.plan { tenant := "a" } { schema with dialect := .mssql } type = .ok p ∧
      ¬(p.query .mssql).body.ListsOrder .mssql := by
  rcases Read.listsOrder_iff { tenant := "a" } { schema with dialect := .mssql } type firstTotals rfl
    with ⟨f, failed⟩ | ⟨p, planned, -, accepted⟩
  · cases failed
  · have other : (Compiler.memberText (Scope.compiler ⟨{ schema with dialect := .mssql }, type, "a"⟩)
        ⟨[.field "placed"], .int64, false⟩) ≠
      (Compiler.memberText (Scope.compiler ⟨{ schema with dialect := .mssql }, type, "a"⟩)
        ⟨[.field "total"], .int64, false⟩) := by
      decide +kernel
    exact ⟨p, planned, fun lists => accepted.mp lists
      ⟨rfl, .inr ⟨.sum, _, rfl, .inl rfl, _, List.mem_singleton_self _, other⟩⟩⟩

end Orders

end Folio
