import Folio.Proofs.Relational.Writes

/-!
# Folio.Proofs.Relational.Reads

What a selection is answered, as far as its rows are documents: each row of the answer has the
text and the version of a row of the table, one of the tenant's own, and there are no more of
them than the selection asks for. This holds of each statement of a command, since all of them
share the values that are bound (`Library.answers_eq`).
-/

namespace Folio.Relational

open Folio.Sql
open Folio.Statement

namespace Library

variable (L : Library)

/-! ### Rows of a query -/

theorem page_sublist {α : Type} (p : Page) (rows : List α) : (page p rows).Sublist rows := by
  rcases p with _ | ⟨skip, _ | n⟩ | ⟨_ | n, _ | skip⟩
  · exact List.Sublist.refl _
  · exact List.drop_sublist _ _
  · exact (List.take_sublist _ _).trans (List.drop_sublist _ _)
  · exact List.Sublist.refl _
  · exact List.drop_sublist _ _
  · exact List.take_sublist _ _
  · exact (List.take_sublist _ _).trans (List.drop_sublist _ _)

theorem mem_environments {params : List Value} {q : RowQuery} {rows : Table} {env : Env} :
    env ∈ L.environments params q rows ↔
      ∃ r ∈ rows, L.all (r.env params) q.conditions ∧ env = r.env params := by
  have arranged (r : Record) :
      r ∈ L.arrange (L.sortKeys params q.order) (L.selected params q rows) ↔
        r ∈ rows ∧ L.all (r.env params) q.conditions := by
    rw [← Multiset.mem_coe, L.arrange_coe]
    exact Multiset.mem_filter
  simp only [environments, List.mem_map, arranged]
  constructor
  · intro h
    obtain ⟨r, ⟨mem, meets⟩, rfl⟩ := h
    exact ⟨r, mem, meets, rfl⟩
  · intro h
    obtain ⟨r, mem, meets, rfl⟩ := h
    exact ⟨r, ⟨mem, meets⟩, rfl⟩

/-- A row of a query that computes nothing from all rows comes from one row of the table. -/
theorem mem_rowsOf {params : List Value} {q : RowQuery} {rows : Table} {row : Row}
    (plain : q.columns.any isTotal = false) (h : row ∈ L.rowsOf params q rows) :
    ∃ r ∈ rows, L.all (r.env params) q.conditions ∧ row = q.columns.map (L.column (r.env params)) := by
  classical
  simp only [rowsOf, plain, Bool.false_eq_true, if_false] at h
  have paged : row ∈ page q.page (if q.distinct then
      ((L.environments params q rows).map fun env => q.columns.map (L.column env)).dedup
      else (L.environments params q rows).map fun env => q.columns.map (L.column env)) := by
    cases top : q.top with
    | none => simpa only [top] using h
    | some n =>
      simp only [top] at h
      exact List.mem_of_mem_take h
  have found : row ∈ (L.environments params q rows).map fun env => q.columns.map (L.column env) := by
    have among := (page_sublist _ _).subset paged
    split at among
    · exact List.mem_dedup.mp among
    · exact among
  obtain ⟨env, mem, rfl⟩ := List.mem_map.mp found
  obtain ⟨r, there, meets, rfl⟩ := L.mem_environments.mp mem
  exact ⟨r, there, meets, rfl⟩

/-- A query takes no more rows than it is to take. -/
theorem length_rowsOf_le {params : List Value} {q : RowQuery} {n : Nat}
    (plain : q.columns.any isTotal = false)
    (limited : q.top = some n ∨ (∃ skip, q.page = .fetch skip (some n)) ∨
      ∃ skip, q.page = .limit (some n) skip) (rows : Table) :
    (L.rowsOf params q rows).length ≤ n := by
  classical
  simp only [rowsOf, plain, Bool.false_eq_true, if_false]
  generalize (if q.distinct then
      ((L.environments params q rows).map fun env => q.columns.map (L.column env)).dedup
      else (L.environments params q rows).map fun env => q.columns.map (L.column env)) = found
  -- `TOP` cuts the answer after the page was cut
  have fewer (k : Nat) : ((page q.page found).take k).length ≤ (page q.page found).length :=
    (List.take_sublist _ _).length_le
  rcases limited with top | page_eq
  · simp only [top]
    exact List.length_take_le _ _
  · have paged : (page q.page found).length ≤ n := by
      rcases page_eq with ⟨skip, fetch⟩ | ⟨_ | skip, limit⟩
      · rw [fetch]
        exact List.length_take_le _ _
      · rw [limit]
        exact List.length_take_le _ _
      · rw [limit]
        exact List.length_take_le _ _
    split
    · exact (fewer _).trans paged
    · exact paged

/-! ### Selections of documents -/

/-- A row of an answer that holds this row's document. -/
def Holds (r : Record) (row : Row) : Prop :=
  row[0]? = some (.text r.data) ∧ row[1]? = some (.int64 r.version)

/-- An answer to a selection of documents of the tenant: rows of the tenant's documents, as many as
were asked for at most. -/
structure Documents (s : Selection) (a : String) (rows : Table) (answer : List Row) : Prop where
  holds : ∀ row ∈ answer, ∃ r ∈ rows, r.tenant = a ∧ Holds r row
  length_le : ∀ n, s.limit = some n → answer.length ≤ n

/-- The columns that an order adds are computed from one row. -/
theorem orderColumns_plain (d : Dialect) (s : Selection) :
    (s.orderColumns d).any isTotal = false := by
  rw [List.any_eq_false]
  intro c mem
  obtain ⟨⟨⟨l, direction⟩, i⟩, -, rfl⟩ := List.mem_map.mp mem
  exact Bool.false_ne_true

/-- The limit of a selection is that of its query, in the dialect's words. -/
theorem limited_toRowQuery (d : Dialect) (s : Selection) (p : Purpose) (before : Array Value)
    {n : Nat} (limit : s.limit = some n) :
    let q := (s.toRowQuery d p before).1
    q.top = some n ∨ (∃ skip, q.page = .fetch skip (some n)) ∨
      ∃ skip, q.page = .limit (some n) skip := by
  obtain ⟨table, projection, filters, tenant, deletion, order, limit', offset, distinct, existence⟩ := s
  obtain rfl : limit' = some n := limit
  cases d with
  | mssql =>
    cases offset with
    | none => exact .inl rfl
    | some skip => exact .inr (.inl ⟨skip, rfl⟩)
  | sqlite => exact .inr (.inr ⟨offset, rfl⟩)

/-- The query of a selection of documents. -/
theorem toQuery_documents (d : Dialect) {s : Selection} (before : Array Value)
    (documents : s.projection = .documents) (whole : s.existence = false) :
    s.toQuery d before =
      ((.rows (s.toRowQuery d .answer before).1), (s.toRowQuery d .answer before).2) := by
  simp only [Selection.toQuery, whole, documents]
  rfl

/-- The columns of a selection of documents. -/
theorem columns_documents (d : Dialect) {s : Selection} (before : Array Value)
    (documents : s.projection = .documents) :
    ∃ extra, (s.toRowQuery d .answer before).1.columns =
      .term (.column dataColumn) :: .term (.column versionColumn) :: extra ∧
        extra.any isTotal = false := by
  refine ⟨if d = .mssql && s.distinct && s.isOrdered .answer && s.hasWholeRows .answer then
    s.orderColumns d else [], ?_, ?_⟩
  · show s.columnsFor d .answer ++ _ = _
    rw [Selection.columnsFor, documents]
    rfl
  · split
    · exact orderColumns_plain d s
    · rfl

theorem documents_answer {d : Dialect} {s : Selection} {a : String} (before : Array Value)
    {params : List Value} (documents : s.projection = .documents) (whole : s.existence = false)
    (own : s.tenant = some a) (grown : (s.toQuery d before).2.toList <+: params) (rows : Table) :
    Documents s a rows (L.answer params (s.toQuery d before).1 rows) := by
  have query := toQuery_documents d before documents whole
  obtain ⟨extra, columns, added⟩ := columns_documents d before documents
  have plain : (s.toRowQuery d .answer before).1.columns.any isTotal = false := by
    rw [columns]
    exact added
  rw [query] at grown ⊢
  have mine : TenantIn a (s.toRowQuery d .answer before).1.conditions params := by
    have own_rows := tenantIn_whereConditions d s.filters a s.deletion before
    rw [← own] at own_rows
    exact own_rows.mono grown
  refine ⟨fun row mem => ?_, fun n limit => ?_⟩
  · obtain ⟨found, selected, rfl⟩ := List.mem_map.mp mem
    obtain ⟨r, there, meets, rfl⟩ := L.mem_rowsOf plain selected
    refine ⟨r, there, L.tenant_of_all mine meets, ?_⟩
    rw [columns]
    exact ⟨rfl, rfl⟩
  · rw [answer, List.length_map]
    exact L.length_rowsOf_le plain (limited_toRowQuery d s .answer before limit) rows

/-! ### Commands of several selections -/

/-- Each statement of a command is bound on top of those before it, and all of them see what is
bound in the end. -/
theorem mapM_tree (d : Dialect) (ss : List Selection) (before : Array Value) :
    let bound := (ss.map Statement.select).mapM (Statement.tree d) before
    before.toList <+: bound.2.toList ∧
      List.Forall₂ (fun s tree => ∃ before, tree = .query (Selection.toQuery d s before).1 ∧
        (Selection.toQuery d s before).2.toList <+: bound.2.toList) ss bound.1 := by
  induction ss generalizing before with
  | nil => exact ⟨List.prefix_refl _, .nil⟩
  | cons s rest ih =>
    obtain ⟨grown, bound⟩ := ih (s.toQuery d before).2
    have first := Grows.toQuery d s before
    rw [List.map_cons, List.mapM_cons]
    exact ⟨first.trans grown, .cons ⟨before, rfl, grown⟩ bound⟩

/-- The answers to selections, one for each. -/
theorem answers_eq (d : Dialect) (ss : List Selection) (K : Content) :
    List.Forall₂ (fun s answer => ∃ before params, (s.toQuery d before).2.toList <+: params ∧
        answer = L.answer params (s.toQuery d before).1 (K (tableOfQuery (s.toQuery d before).1)))
      ss (L.answers d (ss.map .select) K) := by
  obtain ⟨-, bound⟩ := mapM_tree d ss #[]
  refine List.forall₂_map_right_iff.mpr (bound.imp ?_)
  intro s _ h
  obtain ⟨before, rfl, grown⟩ := h
  exact ⟨before, _, grown, rfl⟩

/-- A selection's query is made of the rows of the selection. -/
theorem toQuery_cases (d : Dialect) (s : Selection) (before : Array Value) :
    ∃ p, (s.toQuery d before).2 = (s.toRowQuery d p before).2 ∧
      ((s.toQuery d before).1 = .rows (s.toRowQuery d p before).1 ∨
        (s.toQuery d before).1 = .exists (s.toRowQuery d p before).1 ∨
        ∃ c, (s.toQuery d before).1 = .over c (s.toRowQuery d p before).1) := by
  rw [Selection.toQuery]
  by_cases existence : s.existence = true
  · rw [if_pos existence]
    exact ⟨.existence, rfl, .inr (.inl rfl)⟩
  · rw [if_neg existence]
    generalize s.projection = projection
    generalize (s.isPaged || s.distinct) = narrowed
    rcases projection with _ | l | _ | ⟨a, l⟩ <;> rcases narrowed with _ | _
    · exact ⟨.answer, rfl, .inl rfl⟩
    · exact ⟨.answer, rfl, .inl rfl⟩
    · exact ⟨.answer, rfl, .inl rfl⟩
    · exact ⟨.answer, rfl, .inl rfl⟩
    · exact ⟨.answer, rfl, .inl rfl⟩
    · exact ⟨.counting, rfl, .inr (.inr ⟨_, rfl⟩)⟩
    · exact ⟨.answer, rfl, .inl rfl⟩
    · exact ⟨.values l, rfl, .inr (.inr ⟨_, rfl⟩)⟩

/-- The table of a selection's query is the selection's. -/
theorem tableOfQuery_toQuery (d : Dialect) (s : Selection) (before : Array Value) :
    tableOfQuery (s.toQuery d before).1 = s.table := by
  obtain ⟨p, -, query | query | ⟨c, query⟩⟩ := toQuery_cases d s before
  · rw [query]
    rfl
  · rw [query]
    rfl
  · rw [query]
    rfl

end Library

end Folio.Relational
