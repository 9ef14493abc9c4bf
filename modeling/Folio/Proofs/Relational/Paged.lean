import Folio.Proofs.Relational.Counted
import Folio.Proofs.Sql.Paging

/-!
# Folio.Proofs.Relational.Paged

The page of a selection. The clauses that ask for it are made of the limit and the offset alone
(`Selection.paging_toRowQuery`), they take the rows that these say (`Selection.taken_clauses`), and a query
answers those of the rows that it finds (`Library.rowsOf_toRowQuery`).
-/

namespace Folio

open Folio.Relational
open Folio.Sql
open Folio.Statement (Purpose Selection)

namespace Statement.Selection

variable (d : Dialect) (s : Selection) (p : Purpose)

/-- The clauses for a selection. -/
def clauses : Paging :=
  match d, s.limit, s.offset with
  | .mssql, limit, none => { top := limit, ordered := s.isOrdered p }
  | .mssql, limit, some n => { ordered := true, offset := some n, fetch := limit }
  | .sqlite, none, none => { ordered := s.isOrdered p }
  | .sqlite, none, some n => { ordered := s.isOrdered p, limit := some (-1), skip := some n }
  | .sqlite, some k, skip => { ordered := s.isOrdered p, limit := some k, skip }

theorem paging_toRowQuery (before : Array Value) :
    (s.toRowQuery d p before).1.paging = s.clauses d p := by
  obtain ⟨table, projection, filters, tenant, deletion, order, limit, offset, distinct, existence⟩ := s
  cases d <;> cases limit <;> cases offset <;> cases order <;> cases p <;> rfl

/-- The clauses take the page. -/
theorem taken_clauses {α : Type} (rows : List α) :
    (s.clauses d p).taken rows = slice s.offset s.limit rows := by
  unfold clauses slice
  cases d <;> cases s.limit <;> cases s.offset <;>
    simp [Paging.taken]

/-- They are accepted unless SQL Server is to fetch no row. -/
theorem clauses_legal_iff :
    (s.clauses d p).Legal (!decide (p = .answer)) d ↔
      ¬(d = .mssql ∧ s.offset.isSome = true ∧ s.limit = some 0) := by
  -- rows that are nested are put in order only if there is a page of them
  have nested (limit : s.limit = none) (offset : s.offset = none) (inside : p ≠ .answer) :
      s.isOrdered p = false := by
    simp [isOrdered, isPaged, limit, offset, inside]
  cases d with
  | sqlite =>
    cases limit : s.limit <;> cases offset : s.offset <;> simp [clauses, limit, offset, Paging.Legal]
  | mssql =>
    cases limit : s.limit with
    | none =>
      cases offset : s.offset with
      | none =>
        simpa [clauses, limit, offset, Paging.Legal] using nested limit offset
      | some n => simp [clauses, limit, offset, Paging.Legal]
    | some k =>
      cases offset : s.offset with
      | none => simp [clauses, limit, offset, Paging.Legal]
      | some n =>
        simpa [clauses, limit, offset, Paging.Legal] using Nat.one_le_iff_ne_zero

end Statement.Selection

/-! ### The rows of a query -/

namespace Relational.Library

open Classical in
/-- Each of the rows once, if they are to be distinct. -/
noncomputable def once {α : Type} (distinct : Bool) (rows : List α) : List α :=
  if distinct then rows.dedup else rows

section

variable {α β : Type} {distinct : Bool} {rows : List α}

@[simp] theorem once_false : once false rows = rows := rfl

theorem once_eq [DecidableEq α] : once distinct rows = if distinct then rows.dedup else rows := by
  unfold once
  congr!

theorem mem_once {x : α} : x ∈ once distinct rows ↔ x ∈ rows := by
  cases distinct <;> simp [once]

/-- What tells rows apart tells them apart before they are made distinct as well. -/
theorem once_map_of_inj {f : α → β} (apart : ∀ x ∈ rows, ∀ y ∈ rows, f x = f y → x = y) :
    once distinct (rows.map f) = (once distinct rows).map f := by
  classical
  cases distinct with
  | false => rfl
  | true =>
    simp only [once, if_true]
    induction rows with
    | nil => rfl
    | cons x rest ih =>
      have inner := ih fun y mem z mem' =>
        apart y (List.mem_cons_of_mem _ mem) z (List.mem_cons_of_mem _ mem')
      have same : f x ∈ rest.map f ↔ x ∈ rest := by
        constructor
        · intro h
          obtain ⟨y, mem, eq⟩ := List.mem_map.mp h
          exact apart y (List.mem_cons_of_mem _ mem) x List.mem_cons_self eq ▸ mem
        · exact List.mem_map_of_mem
      rw [List.map_cons]
      by_cases again : x ∈ rest
      · rw [List.dedup_cons_of_mem (same.mpr again), List.dedup_cons_of_mem again, inner]
      · rw [List.dedup_cons_of_notMem (same.not.mpr again), List.dedup_cons_of_notMem again,
          List.map_cons, inner]

/-- Rows that show less can be made distinct before as well. -/
theorem once_map_once (f : α → β) :
    once distinct ((once distinct rows).map f) = once distinct (rows.map f) := by
  classical
  cases distinct with
  | false => rfl
  | true =>
    simp only [once, if_true]
    induction rows with
    | nil => rfl
    | cons x rest ih =>
      rw [List.map_cons]
      by_cases again : x ∈ rest
      · rw [List.dedup_cons_of_mem again, ih, List.dedup_cons_of_mem (List.mem_map_of_mem again)]
      · have same : f x ∈ rest.dedup.map f ↔ f x ∈ rest.map f := by simp
        rw [List.dedup_cons_of_notMem again, List.map_cons]
        by_cases shown : f x ∈ rest.map f
        · rw [List.dedup_cons_of_mem (same.mpr shown), ih, List.dedup_cons_of_mem shown]
        · rw [List.dedup_cons_of_notMem (same.not.mpr shown), ih,
            List.dedup_cons_of_notMem shown]

theorem once_perm {rows' : List α} (h : rows.Perm rows') :
    (once distinct rows).Perm (once distinct rows') := by
  classical
  cases distinct with
  | false => exact h
  | true => exact h.dedup

end

variable (L : Library)

/-- The rows of a query before its page is cut: those that meet its conditions, in order, each once if
they are to be distinct. -/
noncomputable def found (params : List Value) (q : RowQuery) (rows : Table) : List Row :=
  once q.distinct ((L.environments params q rows).map fun env => q.columns.map (L.column env))

theorem cut_eq_taken {α : Type} (q : RowQuery) (rows : List α) : cut q rows = q.paging.taken rows := by
  unfold cut page RowQuery.paging Paging.taken
  cases q.top <;> rcases q.page with _ | ⟨skip, _ | n⟩ | ⟨_ | n, _ | skip⟩ <;> simp

open Classical in
/-- A query that computes nothing from all rows answers those that its clauses take. -/
theorem rowsOf_eq_taken {params : List Value} {q : RowQuery} (plain : q.columns.any isTotal = false)
    (rows : Table) : L.rowsOf params q rows = q.paging.taken (L.found params q rows) := by
  rw [← cut_eq_taken, found, once_eq]
  simp only [rowsOf, plain, Bool.false_eq_true, if_false]
  rfl

/-! ### The rows of a selection -/

section

variable {d : Dialect} {s : Selection} {p : Purpose}

/-- What the rows of a selection are put in order by. Nested rows are in no order unless there is a
page of them. -/
def sortedBy (d : Dialect) (s : Selection) (p : Purpose) : List ((Record → Value) × Direction) :=
  if p = .answer ∨ s.isPaged = true then
    s.order.map fun (l, direction) => (fun r => L.located d r.get l, direction)
  else []

/-- The rows of the table that a selection takes, in order. -/
noncomputable def inOrder (d : Dialect) (s : Selection) (p : Purpose) (rows : Table) : List Record :=
  L.arrange (L.sortedBy d s p) (L.taken d s rows)

theorem coe_inOrder (rows : Table) : (L.inOrder d s p rows : Table) = L.taken d s rows :=
  L.arrange_coe _ _

theorem sortKeys_toRowQuery (params : List Value) (before : Array Value) :
    L.sortKeys params (s.toRowQuery d p before).1.order = L.sortedBy d s p := by
  show L.sortKeys params (if s.isOrdered p then _ else if _ then _ else _) = _
  by_cases asked : p = .answer ∨ s.isPaged = true
  · by_cases some : s.order = []
    · have ordered : s.isOrdered p = false := by simp [Selection.isOrdered, some]
      simp only [ordered, Bool.false_eq_true, if_false, sortedBy, some]
      split <;> simp [sortKeys]
    · have ordered : s.isOrdered p = true := by simp [Selection.isOrdered, some, asked]
      simp only [ordered, if_true, sortKeys, sortedBy, asked, List.map_map]
      refine List.map_congr_left fun key _ => ?_
      refine Prod.ext (funext fun r => ?_) rfl
      exact term_toTerm key.1
  · have ordered : s.isOrdered p = false := by
      simpa [Selection.isOrdered] using fun _ => not_or.mp asked
    simp only [ordered, Bool.false_eq_true, if_false, sortedBy, asked]
    split <;> rfl

/-- A selection answers the page of what its rows show. -/
theorem rowsOf_toRowQuery (plain : (s.toRowQuery d p #[]).1.columns.any isTotal = false)
    (rows : Table) :
    L.rowsOf (s.toRowQuery d p #[]).2.toList (s.toRowQuery d p #[]).1 rows =
      slice s.offset s.limit (once s.distinct ((L.inOrder d s p rows).map
        (L.shows (s.toRowQuery d p #[]).2.toList (s.toRowQuery d p #[]).1))) := by
  rw [L.rowsOf_eq_taken plain, Selection.paging_toRowQuery, Selection.taken_clauses, found,
    map_environments, sortKeys_toRowQuery]
  rfl

end

end Relational.Library

end Folio
