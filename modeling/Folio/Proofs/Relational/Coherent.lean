import Folio.Proofs.Relational.Paged

/-!
# Folio.Proofs.Relational.Coherent

Answers to queries that take parts of the same rows.

* `Sql.Coherent`: a query that asks for fewer rows is answered by the first of them, and whether there are any
  rows is told as it is.
* `Selection.answer_atMost`, `Selection.answer_existence`: so it is with the selections that ask for fewer
  documents, and whether there are any.
* `Library.coherent`: databases that carry out queries answer in this way, whatever they do by themselves.
-/

namespace Folio

open Folio.Relational
open Folio.Relational.Library (isTotal columns_documents)
open Folio.Sql
open Folio.Statement (Purpose Selection)

namespace Sql

/-- The query without its page. -/
def RowQuery.whole (q : RowQuery) : RowQuery :=
  { q with top := none, page := .all }

/-- The queries have rows on the same tables: they are one query, or take all rows that meet the same
conditions, and differ in what they show of them and in which order at most. -/
def RowQuery.Meets (q q' : RowQuery) : Prop :=
  q = q' ∨ q = q.whole ∧ q' = q'.whole ∧ q.table = q'.table ∧ q.conditions = q'.conditions ∧
    q.columns.any isTotal = false ∧ q'.columns.any isTotal = false

/-- Queries that take parts of the rows of this one are answered as it is. -/
structure Coherent (answer : Sql.Query → List Row) (q : RowQuery) : Prop where
  /-- Asked for a smaller part of the rows, it answers the first of them. -/
  fewer : ∀ top page n,
    (∀ rows : List Row, ({ q with top, page } : RowQuery).paging.taken rows = (q.paging.taken rows).take n) →
      answer (.rows { q with top, page }) = (answer (.rows q)).take n
  /-- Asked whether there are rows, it tells. -/
  tells : ∀ q', q'.Meets q → ∃ v : Value, answer (.exists q') = [[v]] ∧
    v.whole = .ok (if (answer (.rows q)).isEmpty then 0 else 1)

end Sql

/-! ### Selections -/

namespace Statement.Selection

variable {d : Dialect} {s : Selection} {before : Array Value} {answer : Sql.Query → List Row}

theorem slice_atMost {α : Type} (n : Nat) (rows : List α) :
    slice (s.atMost n).offset (s.atMost n).limit rows = (slice s.offset s.limit rows).take n := by
  unfold slice atMost
  cases s.limit with
  | none => rfl
  | some k =>
    show (rows.drop _).take (Nat.min k n) = ((rows.drop _).take k).take n
    rw [List.take_take, Nat.min_comm]

/-- Fewer documents are the first of them. -/
theorem answer_atMost (coherent : Coherent answer (s.toRowQuery d .answer before).1) (n : Nat) :
    answer (.rows ((s.atMost n).toRowQuery d .answer before).1) =
      (answer (.rows (s.toRowQuery d .answer before).1)).take n := by
  refine coherent.fewer _ _ n fun rows => ?_
  show ((s.atMost n).toRowQuery d .answer before).1.paging.taken rows = _
  rw [paging_toRowQuery, paging_toRowQuery, taken_clauses, taken_clauses, slice_atMost]

theorem whole_of_unpaged {p : Purpose} (unpaged : s.isPaged = false) :
    (s.toRowQuery d p before).1 = (s.toRowQuery d p before).1.whole := by
  obtain ⟨table, projection, filters, tenant, deletion, order, limit, offset, distinct, existence⟩ := s
  obtain ⟨rfl, rfl⟩ : limit = none ∧ offset = none := by
    simpa [isPaged] using unpaged
  cases d <;> rfl

/-- What is looked for is found if and only if it is answered. -/
theorem meets_existence (documents : s.projection = .documents) :
    (s.toRowQuery d .existence before).1.Meets (s.toRowQuery d .answer before).1 := by
  cases paged : s.isPaged with
  | true =>
    have ordered : s.isOrdered .existence = s.isOrdered .answer := by
      simp [isOrdered, paged]
    refine .inl ?_
    unfold toRowQuery
    rw [ordered]
    rfl
  | false =>
    obtain ⟨extra, columns, plain⟩ := columns_documents d before documents
    refine .inr ⟨whole_of_unpaged paged, whole_of_unpaged paged, rfl, rfl, ?_, ?_⟩
    · have ordered : s.isOrdered .existence = false := by simp [isOrdered, paged]
      show (s.columnsFor d .existence ++
        if d = Dialect.mssql && s.distinct && s.isOrdered .existence && _ then _ else []).any isTotal = false
      rw [ordered, columnsFor, documents]
      simp [Selection.columns, isTotal]
    · rw [columns]
      exact plain

/-- Asked whether there are documents, it tells. -/
theorem answer_existence (documents : s.projection = .documents)
    (coherent : Coherent answer (s.toRowQuery d .answer before).1) :
    ∃ v : Value, answer (.exists (s.toRowQuery d .existence before).1) = [[v]] ∧
      v.whole = .ok (if (answer (.rows (s.toRowQuery d .answer before).1)).isEmpty then 0 else 1) :=
  coherent.tells _ (meets_existence documents)

end Statement.Selection

/-! ### Databases -/

namespace Relational.Library

variable (L : Library) {params : List Value} {q q' : RowQuery} {rows : Table}

/-- A query without a page has rows if rows meet its conditions. -/
theorem rowsOf_eq_nil (plain : q.columns.any isTotal = false) (whole : q = q.whole) :
    L.rowsOf params q rows = [] ↔ L.selected params q rows = 0 := by
  have all : L.rowsOf params q rows = L.found params q rows := by
    rw [L.rowsOf_eq_taken plain, whole]
    rfl
  have none (shown : List Row) : once q.distinct shown = [] ↔ shown = [] := by
    simp only [List.eq_nil_iff_forall_not_mem, mem_once]
  rw [all, found, none, List.map_eq_nil_iff, environments, List.map_eq_nil_iff, ← Multiset.coe_eq_zero,
    L.arrange_coe]

theorem isEmpty_rowsOf {q' : RowQuery} (meets : q'.Meets q) :
    (L.rowsOf params q' rows).isEmpty = (L.rowsOf params q rows).isEmpty := by
  rcases meets with rfl | ⟨whole', whole, -, conditions, plain', plain⟩
  · rfl
  · have same : L.selected params q' rows = L.selected params q rows := by
      rw [selected, conditions, selected]
    rw [Bool.eq_iff_iff, List.isEmpty_iff, List.isEmpty_iff, L.rowsOf_eq_nil plain' whole',
      L.rowsOf_eq_nil plain whole, same]

/-- A database answers in this way, whatever its tables hold. -/
theorem coherent (params : List Value) (K : Content) (plain : q.columns.any isTotal = false) :
    Coherent (fun q => L.answer params q (K (tableOfQuery q))) q where
  fewer top page n cut := by
    have narrowed : L.rowsOf params { q with top, page } (K q.table) =
        (L.rowsOf params q (K q.table)).take n := by
      rw [L.rowsOf_eq_taken plain, ← cut]
      exact L.rowsOf_eq_taken (show ({ q with top, page } : RowQuery).columns.any isTotal = false from plain) _
    show (L.rowsOf params _ (K q.table)).map _ = ((L.rowsOf params q (K q.table)).map _).take n
    rw [narrowed, List.map_take]
  tells q' meets := by
    have table : q'.table = q.table := by
      rcases meets with rfl | ⟨-, -, table, -⟩
      · rfl
      · exact table
    refine ⟨_, rfl, ?_⟩
    show Except.ok (if (L.rowsOf params q' (K q'.table)).isEmpty then 0 else 1) =
      .ok (if ((L.rowsOf params q (K q.table)).map _).isEmpty then 0 else 1)
    rw [table, L.isEmpty_rowsOf meets, List.isEmpty_map]

end Relational.Library

end Folio
