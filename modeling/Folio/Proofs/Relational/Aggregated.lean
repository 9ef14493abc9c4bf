import Folio.Proofs.Relational.Paged
import Folio.Proofs.Session.Sent

/-!
# Folio.Proofs.Relational.Aggregated

What a selection of documents answers, and what an aggregate over the same selection is computed from.

Both take the same rows in the same order, as far as the order matters (`Library.inOrder_perm`). Then both
make them distinct and cut the page, but of different things: the one of what it shows of each document
(`Library.answers_listed`), the other of the values that it computes with (`Library.answers_computing`).
-/

namespace Folio

open Folio.Sql
open Folio.Statement

namespace Relational.Library

variable (L : Library) {d : Dialect} {s : Selection}

/-! ### The order -/

theorem inOrder_of_paged {p p' : Purpose} (paged : s.isPaged = true) (rows : Table) :
    L.inOrder d s p rows = L.inOrder d s p' rows := by
  simp only [inOrder, sortedBy, paged, or_true, if_true]

theorem inOrder_perm {p p' : Purpose} (rows : Table) :
    (L.inOrder d s p rows).Perm (L.inOrder d s p' rows) := by
  rw [← Multiset.coe_eq_coe, coe_inOrder, coe_inOrder]

/-- The page of something that is seen of rows is the same for all purposes, but for the order. -/
theorem page_perm {α : Type} {p p' : Purpose} (f : Record → α) (rows : Table) :
    (slice s.offset s.limit (once s.distinct ((L.inOrder d s p rows).map f))).Perm
      (slice s.offset s.limit (once s.distinct ((L.inOrder d s p' rows).map f))) := by
  by_cases paged : s.isPaged = true
  · rw [L.inOrder_of_paged paged]
  · have limit : s.limit = none := by simp_all [Selection.isPaged]
    have offset : s.offset = none := by simp_all [Selection.isPaged]
    rw [limit, offset, slice_none, slice_none]
    exact once_perm ((L.inOrder_perm rows).map f)

/-! ### Documents -/

/-- What a selection of documents shows of a row. -/
def listing (d : Dialect) (s : Selection) : Record → Row :=
  L.shows (s.toRowQuery d .answer #[]).2.toList (s.toRowQuery d .answer #[]).1

theorem holds_listing (documents : s.projection = .documents) (r : Record) :
    Holds r (L.listing d s r) := by
  obtain ⟨extra, columns, -⟩ := columns_documents d #[] documents
  rw [listing, shows, columns]
  exact ⟨rfl, rfl⟩

/-- A selection of documents answers the page of what it shows of its rows. -/
theorem answers_listed (K : Content) (documents : s.projection = .documents)
    (existence : s.existence = false) :
    L.answers d [.select s] K =
      [(slice s.offset s.limit (once s.distinct
        ((L.inOrder d s .answer (K s.table)).map (L.listing d s)))).map (·.map L.reply)] := by
  obtain ⟨extra, columns, added⟩ := columns_documents d #[] documents
  have plain : (s.toRowQuery d .answer #[]).1.columns.any isTotal = false := by
    rw [columns]
    exact added
  rw [answers_select, toQuery_documents d #[] documents existence, answer, rowsOf_toRowQuery L plain]
  rfl

/-! ### Values -/

/-- A value by itself is found in its row. -/
theorem term_derived (params : List Value) {q : RowQuery} {t : Term} (columns : q.columns = [.named t "v"])
    (v : Value) : L.term (derived params q [v]) (.column "v") = v := by
  rw [term, derived, columns]
  rfl

/-- The rows of a selection that are computed with show one value each. -/
theorem columns_values (l : Locator) (before : Array Value) :
    (s.toRowQuery d (.values l) before).1.columns = [.named (l.toTerm d) "v"] := by
  show [Column.named (l.toTerm d) "v"] ++ (if _ && false then _ else _) = _
  rw [Bool.and_false]
  rfl

/-- What is computed from a page or from distinct rows is computed from their values. -/
theorem answer_over (a : Aggregate) (l : Locator) (rows : Table) :
    L.answer (s.toRowQuery d (.values l) #[]).2.toList
        (.over (.aggregate a (.column "v")) (s.toRowQuery d (.values l) #[]).1) rows =
      [[L.reply (L.aggregate a ((slice s.offset s.limit (once s.distinct
        ((L.inOrder d s (.values l) rows).map fun r => L.located d r.get l))).filter (!·.isNull)))]] := by
  have columns := columns_values (s := s) (d := d) l #[]
  have plain : (s.toRowQuery d (.values l) #[]).1.columns.any isTotal = false := by
    rw [columns]
    rfl
  have shown : L.shows (s.toRowQuery d (.values l) #[]).2.toList (s.toRowQuery d (.values l) #[]).1 =
      fun r => [L.located d r.get l] := by
    funext r
    rw [shows, columns, List.map_singleton, column, term_toTerm]
    rfl
  -- a row tells its only value from others
  have alone : once s.distinct ((L.inOrder d s (.values l) rows).map fun r => [L.located d r.get l]) =
      (once s.distinct ((L.inOrder d s (.values l) rows).map fun r => L.located d r.get l)).map
        fun v => [v] := by
    rw [← once_map_of_inj fun _ _ _ _ same => List.singleton_inj.mp same, List.map_map]
    rfl
  rw [answer, List.map_singleton, List.map_singleton, total, rowsOf_toRowQuery L plain, shown, alone,
    ← map_slice, List.map_map, List.map_map]
  simp only [Function.comp_def, term_derived L _ columns, List.map_id']

/-- What is computed from all rows of a selection is computed from their values. -/
theorem answer_total (a : Aggregate) (l : Locator) (rows : Table)
    (columns : (s.toRowQuery d .answer #[]).1.columns = [.aggregate a (l.toTerm d)]) :
    L.answer (s.toRowQuery d .answer #[]).2.toList (.rows (s.toRowQuery d .answer #[]).1) rows =
      [[L.reply (L.aggregate a (((L.inOrder d s .answer rows).map fun r =>
        L.located d r.get l).filter (!·.isNull)))]] := by
  have all : L.rowsOf (s.toRowQuery d .answer #[]).2.toList (s.toRowQuery d .answer #[]).1 rows =
      [[L.aggregate a (((L.inOrder d s .answer rows).map fun r =>
        L.located d r.get l).filter (!·.isNull))]] := by
    rw [rowsOf, columns, if_pos (by rfl), List.map_singleton, total, environments,
      sortKeys_toRowQuery, List.map_map]
    simp only [Function.comp_def, term_toTerm]
    rfl
  rw [answer, all]
  rfl

theorem computing_cases (s : Selection) (a : Aggregate) (l : Locator) :
    s.isPaged = true ∧ s.computing a l = { s with projection := .aggregate a l } ∨
      s.isPaged = false ∧ s.computing a l = { s with projection := .aggregate a l, order := [] } := by
  by_cases paged : s.isPaged = true
  · exact .inl ⟨paged, if_pos paged⟩
  · exact .inr ⟨Bool.eq_false_of_not_eq_true paged, if_neg paged⟩

/-- An aggregate sees its rows in the order of its selection, if it sees a part of them. -/
theorem inOrder_computing (a : Aggregate) (l : Locator) (p : Purpose) (rows : Table)
    (seen : p = .values l ∨ s.isPaged = false) :
    L.inOrder d (s.computing a l) p rows = L.inOrder d s (.values l) rows := by
  rcases computing_cases s a l with ⟨paged, same⟩ | ⟨unpaged, same⟩
  · obtain rfl : p = .values l := seen.resolve_right (by simp [paged])
    rw [same]
    rfl
  · have none : L.sortedBy d s (.values l) = [] := by simp [sortedBy, unpaged]
    have dropped : L.sortedBy d (s.computing a l) p = [] := by simp [sortedBy, same]
    rw [inOrder, inOrder, none, dropped, same]
    rfl

/-- The query of an aggregate: over the rows of a page or distinct rows, else over those of the table. -/
theorem toQuery_computing (a : Aggregate) (l : Locator) (existence : s.existence = false) :
    (s.computing a l).toQuery d #[] =
      if s.isPaged || s.distinct then
        (.over (.aggregate a (.column "v")) ((s.computing a l).toRowQuery d (.values l) #[]).1,
          ((s.computing a l).toRowQuery d (.values l) #[]).2)
      else (.rows ((s.computing a l).toRowQuery d .answer #[]).1,
        ((s.computing a l).toRowQuery d .answer #[]).2) := by
  have projection : (s.computing a l).projection = .aggregate a l := by simp [Selection.computing]
  have narrow : ((s.computing a l).isPaged || (s.computing a l).distinct) =
      (s.isPaged || s.distinct) := by
    simp [Selection.computing, Selection.isPaged]
  have whole : (s.computing a l).existence = false := by simp [Selection.computing, existence]
  simp only [Selection.toQuery, whole, projection, narrow]
  cases s.isPaged || s.distinct with
  | true => rfl
  | false => rfl

/-- What is computed with the values of a selection. -/
theorem answers_computing (a : Aggregate) (l : Locator) (K : Content) (existence : s.existence = false) :
    L.answers d [.select (s.computing a l)] K =
      [[[L.reply (L.aggregate a ((slice s.offset s.limit (once s.distinct
        ((L.inOrder d s (.values l) (K s.table)).map fun r =>
          L.located d r.get l))).filter (!·.isNull)))]]] := by
  have limit : (s.computing a l).limit = s.limit := by simp [Selection.computing]
  have offset : (s.computing a l).offset = s.offset := by simp [Selection.computing]
  have distinct : (s.computing a l).distinct = s.distinct := by simp [Selection.computing]
  have table : (s.computing a l).table = s.table := by simp [Selection.computing]
  rw [answers_select, toQuery_computing a l existence]
  by_cases narrow : (s.isPaged || s.distinct) = true
  · rw [if_pos narrow, answer_over, L.inOrder_computing a l _ _ (.inl rfl), limit, offset, distinct,
      table]
  · obtain ⟨unpaged, alike⟩ := Bool.or_eq_false_iff.mp (Bool.eq_false_of_not_eq_true narrow)
    have columns : ((s.computing a l).toRowQuery d .answer #[]).1.columns =
        [.aggregate a (l.toTerm d)] := by
      show (s.computing a l).columnsFor d .answer ++ (if _ && (s.computing a l).distinct && _ && _
        then _ else _) = _
      rw [distinct, alike, Bool.and_false, Bool.false_and, Bool.false_and]
      simp [Selection.columnsFor, Selection.columns, Selection.computing]
    have all : s.limit = none ∧ s.offset = none := by simp_all [Selection.isPaged]
    rw [if_neg narrow, answer_total L a l _ columns, L.inOrder_computing a l _ _ (.inr unpaged), alike,
      all.1, all.2, once_false, slice_none, table]

end Relational.Library

end Folio
