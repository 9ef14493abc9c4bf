import Folio.Proofs.Relational.Answered
import Folio.Proofs.Statement.Meaning
import Folio.Session.Plan

/-!
# Folio.Proofs.Relational.Counted

How many documents a list answers and how many a count of the same query finds.

Both take the same rows of the table and cut the same page out of what they make of them. They
differ in what a row shows: a list has the text and the version of each row, a count of a page or
of distinct rows has the text alone. That matters only where rows are to be distinct. Which
columns the order adds is the dialect's affair (`Library.listedAs`, `Library.countedAs`).

* `Library.length_rowsOf`: how many rows a query has, as a function of how many it takes.
* `Library.variety_comp_eq_iff`: showing less keeps as many rows distinct exactly if no two of
  them differ in what is no longer shown.
* `Library.answers_listing`, `Library.answers_counting`: both numbers, for each dialect.
* `Library.numberOf_countedAs_eq_iff`: they are equal unless rows are to be distinct, two of them
  differ in what is listed of them alone, and the page shows it.
-/

namespace Folio

open Folio.Sql
open Folio.Statement

namespace Statement.Selection

/-- How many of `n` rows are on the page. -/
def onPage (s : Selection) (n : Nat) : Nat :=
  match s.limit with
  | some k => min k (n - s.offset.getD 0)
  | none => n - s.offset.getD 0

/-- The page is the same for any number of rows between `few` and `many`: it starts after all of
them, takes none, or is full already. -/
def Hides (s : Selection) (few many : Nat) : Prop :=
  many ≤ s.offset.getD 0 ∨ ∃ k, s.limit = some k ∧ (k = 0 ∨ s.offset.getD 0 + k ≤ few)

theorem onPage_mono (s : Selection) {few many : Nat} (le : few ≤ many) :
    s.onPage few ≤ s.onPage many := by
  rw [onPage, onPage]
  cases s.limit with
  | none => exact Nat.sub_le_sub_right le _
  | some k => exact min_le_min le_rfl (Nat.sub_le_sub_right le _)

theorem onPage_eq_iff (s : Selection) {few many : Nat} (le : few ≤ many) :
    s.onPage few = s.onPage many ↔ few = many ∨ s.Hides few many := by
  rw [onPage, onPage, Hides]
  cases s.limit with
  | none =>
    simp only [reduceCtorEq, false_and, exists_false, or_false]
    omega
  | some k =>
    simp only [Option.some.injEq, exists_eq_left']
    omega

theorem onPage_of_unpaged {s : Selection} (unpaged : s.isPaged = false) (n : Nat) : s.onPage n = n := by
  obtain ⟨all, start⟩ := Bool.or_eq_false_iff.mp unpaged
  have limit : s.limit = none := by simpa using all
  have offset : s.offset = none := by simpa using start
  rw [onPage, limit, offset]
  rfl

/-- The selection that counts what another one reads. -/
def counting (s : Selection) : Selection :=
  ({ s with projection := .count } : Selection).unorderedUnlessPaged

theorem counting_cases (s : Selection) :
    s.counting = { s with projection := .count } ∨
      s.isPaged = false ∧ s.counting = { s with projection := .count, order := [] } := by
  by_cases paged : ({ s with projection := .count } : Selection).isPaged = true
  · exact .inl (if_pos paged)
  · exact .inr ⟨Bool.eq_false_of_not_eq_true paged, if_neg paged⟩

end Statement.Selection

namespace Relational.Library

open Classical

/-! ### Pages -/

/-- The rows of a query among all that it finds. -/
def cut {α : Type} (q : RowQuery) (rows : List α) : List α :=
  match q.top with
  | some n => (page q.page rows).take n
  | none => page q.page rows

/-- The two dialects cut the same page. -/
theorem length_cut {α : Type} (d : Dialect) (s : Selection) (p : Purpose) (before : Array Value)
    (rows : List α) :
    (cut (s.toRowQuery d p before).1 rows).length = s.onPage rows.length := by
  obtain ⟨table, projection, filters, tenant, deletion, order, limit, offset, distinct, existence⟩ := s
  cases d with
  | mssql | sqlite =>
    rcases limit with _ | k <;> rcases offset with _ | skip
    · rfl
    · exact List.length_drop
    · exact List.length_take
    · exact List.length_take.trans (congrArg (min k) List.length_drop)

/-! ### Distinct rows -/

/-- How many different things rows show. -/
noncomputable def variety (f : Record → Row) (rows : Table) : Nat :=
  (rows.map f).toFinset.card

section

variable (e : Row → Row) (f : Record → Row) (rows : Table)

theorem toFinset_map_comp :
    (rows.map fun r => e (f r)).toFinset = (rows.map f).toFinset.image e := by
  rw [← Multiset.toFinset_map, Multiset.map_map]
  rfl

variable {rows} in
theorem variety_pos {r : Record} (mem : r ∈ rows) : 0 < variety f rows :=
  Finset.card_pos.mpr ⟨f r, Multiset.mem_toFinset.mpr (Multiset.mem_map_of_mem f mem)⟩

theorem variety_comp_le : variety (fun r => e (f r)) rows ≤ variety f rows := by
  rw [variety, toFinset_map_comp]
  exact Finset.card_image_le

/-- Showing less keeps as many rows distinct exactly if it tells apart those that were. -/
theorem variety_comp_eq_iff :
    variety (fun r => e (f r)) rows = variety f rows ↔
      ∀ r ∈ rows, ∀ r' ∈ rows, e (f r) = e (f r') → f r = f r' := by
  rw [variety, toFinset_map_comp, variety, Finset.card_image_iff]
  constructor
  · intro injective r mem r' mem' same
    have shown (r : Record) (mem : r ∈ rows) : f r ∈ (rows.map f).toFinset :=
      Multiset.mem_toFinset.mpr (Multiset.mem_map_of_mem f mem)
    exact injective (shown r mem) (shown r' mem') same
  · intro apart x mem x' mem' same
    obtain ⟨r, there, rfl⟩ := Multiset.mem_map.mp (Multiset.mem_toFinset.mp mem)
    obtain ⟨r', there', rfl⟩ := Multiset.mem_map.mp (Multiset.mem_toFinset.mp mem')
    exact apart r there r' there' same

end

variable (L : Library)

/-- The rows of the table that a selection takes, before they are made distinct and cut. -/
noncomputable def taken (d : Dialect) (s : Selection) (rows : Table) : Table :=
  let (conditions, params) := whereConditions d s.filters s.tenant s.deletion #[]
  rows.filter fun r => L.all (r.env params.toList) conditions

theorem of_mem_taken {d : Dialect} {s : Selection} {rows : Table} {r : Record}
    (mem : r ∈ L.taken d s rows) : r ∈ rows ∧ ∀ a, s.tenant = some a → r.tenant = a := by
  obtain ⟨there, meets⟩ := Multiset.mem_filter.mp mem
  refine ⟨there, fun a own => ?_⟩
  have mine := tenantIn_whereConditions d s.filters a s.deletion #[]
  rw [← own] at mine
  exact L.tenant_of_all mine meets

/-- How many rows a selection has whose rows show this. -/
noncomputable def numberOf (d : Dialect) (s : Selection) (f : Record → Row) (rows : Table) : Nat :=
  s.onPage (if s.distinct then variety f (L.taken d s rows) else (L.taken d s rows).card)

theorem length_environments (params : List Value) (q : RowQuery) (rows : Table) :
    (L.environments params q rows).length = (L.selected params q rows).card := by
  rw [environments, List.length_map, ← Multiset.coe_card, L.arrange_coe]

/-- How many rows there are in a query that computes nothing from all rows. -/
theorem length_rowsOf (d : Dialect) (s : Selection) (p : Purpose) (rows : Table)
    (plain : (s.toRowQuery d p #[]).1.columns.any isTotal = false) :
    (L.rowsOf (s.toRowQuery d p #[]).2.toList (s.toRowQuery d p #[]).1 rows).length =
      L.numberOf d s (L.shows (s.toRowQuery d p #[]).2.toList (s.toRowQuery d p #[]).1) rows := by
  have pages := length_cut (α := Row) d s p #[]
  have taken : L.selected (s.toRowQuery d p #[]).2.toList (s.toRowQuery d p #[]).1 rows =
    L.taken d s rows := rfl
  have distinct : (s.toRowQuery d p #[]).1.distinct = s.distinct := rfl
  -- What the query is made of does not matter any more.
  generalize s.toRowQuery d p #[] = query at *
  obtain ⟨q, params⟩ := query
  simp only at *
  obtain ⟨found, shown⟩ : ∃ found, (L.arrange (L.sortKeys params.toList q.order)
      (L.taken d s rows)).map (L.shows params.toList q) = found := ⟨_, rfl⟩
  have all : (found : Multiset Row) = (L.taken d s rows).map (L.shows params.toList q) := by
    rw [← shown, ← Multiset.map_coe, L.arrange_coe]
  have answered : L.rowsOf params.toList q rows =
      cut q (if s.distinct then found.dedup else found) := by
    simp only [rowsOf, plain, Bool.false_eq_true, if_false, map_environments, taken, distinct, shown]
    rfl
  rw [answered, pages, numberOf]
  refine congrArg s.onPage ?_
  split
  · rw [variety, ← all, Multiset.card_toFinset, Multiset.coe_dedup, Multiset.coe_card]
  · rw [← Multiset.card_map (L.shows params.toList q), ← all, Multiset.coe_card]

/-- What is shown matters only where rows are to be distinct. -/
theorem numberOf_congr {d : Dialect} {s : Selection} {f g : Record → Row} (rows : Table)
    (same : s.distinct = true → f = g) : L.numberOf d s f rows = L.numberOf d s g rows := by
  rw [numberOf, numberOf]
  by_cases distinct : s.distinct = true
  · rw [same distinct]
  · rw [if_neg distinct, if_neg distinct]

theorem answers_select (d : Dialect) (s : Selection) (K : Content) :
    L.answers d [.select s] K =
      [L.answer (s.toQuery d #[]).2.toList (s.toQuery d #[]).1 (K s.table)] := by
  rw [← tableOfQuery_toQuery d s #[]]
  rfl

/-! ### What is listed and what is counted -/

/-- What a row is put in order by. -/
def orderKeys (d : Dialect) (s : Selection) (r : Record) : Row :=
  s.order.map fun (l, _) => L.located d r.get l

/-- What a distinct list shows of a row. SQL Server has the order among the columns. -/
def listedAs (d : Dialect) (s : Selection) (r : Record) : Row :=
  .text r.data :: .int64 r.version :: (if d = .mssql then L.orderKeys d s r else [])

/-- What a distinct count shows of a row. Only a page is in order when it is counted. -/
def countedAs (d : Dialect) (s : Selection) (r : Record) : Row :=
  .text r.data :: (if d = .mssql && s.isPaged then L.orderKeys d s r else [])

/-- What is counted of a row is a part of what is listed. -/
def withoutVersion (d : Dialect) (s : Selection) (row : Row) : Row :=
  row.take 1 ++ (if d = .mssql && s.isPaged then row.drop 2 else [])

theorem withoutVersion_listedAs (d : Dialect) (s : Selection) (r : Record) :
    withoutVersion d s (L.listedAs d s r) = L.countedAs d s r := by
  cases d with
  | mssql => rfl
  | sqlite => rfl

theorem map_orderColumns (d : Dialect) (s : Selection) (params : List Value) (r : Record) :
    (s.orderColumns d).map (L.column (r.env params)) = L.orderKeys d s r := by
  rw [Selection.orderColumns, List.map_map, orderKeys]
  conv_rhs => rw [← List.zipIdx_map_fst 0 s.order, List.map_map]
  refine List.map_congr_left fun x _ => ?_
  exact term_toTerm x.1.1

/-- What a distinct query shows of whole rows: its own columns, and for SQL Server those of its order. -/
theorem shows_wholeRows {d : Dialect} {s : Selection} {p : Purpose} (before : Array Value)
    (params : List Value) (distinct : s.distinct = true) (whole : s.hasWholeRows p = true) (r : Record) :
    L.shows params (s.toRowQuery d p before).1 r =
      (s.columnsFor d p).map (L.column (r.env params)) ++
        (if d = .mssql && (p = .answer || s.isPaged) then L.orderKeys d s r else []) := by
  show (s.columnsFor d p ++ _).map _ = _
  rw [List.map_append, distinct, whole, Bool.and_true, Bool.and_true, Selection.isOrdered]
  congr 1
  cases order : s.order with
  | nil =>
    rw [orderKeys, order]
    simp
  | cons key rest =>
    rw [List.isEmpty_cons, Bool.not_false, Bool.true_and]
    split
    · exact L.map_orderColumns d s params r
    · rfl

/-- A list answers as many rows as there are documents and versions on the page. -/
theorem answers_listing (d : Dialect) {s : Selection} (K : Content)
    (documents : s.projection = .documents) (existence : s.existence = false) :
    ∃ answer, L.answers d [.select s] K = [answer] ∧
      answer.length = L.numberOf d s (L.listedAs d s) (K s.table) := by
  obtain ⟨extra, columns, added⟩ := columns_documents d #[] documents
  have plain : (s.toRowQuery d .answer #[]).1.columns.any isTotal = false := by
    rw [columns]
    exact added
  refine ⟨_, L.answers_select d s K, ?_⟩
  rw [toQuery_documents d #[] documents existence, answer, List.length_map]
  refine (L.length_rowsOf d s .answer (K s.table) plain).trans (L.numberOf_congr _ fun distinct => ?_)
  funext r
  have whole : s.hasWholeRows .answer = true := decide_eq_true documents
  rw [L.shows_wholeRows #[] _ distinct whole, Selection.columnsFor, documents, listedAs]
  cases d with
  | mssql => rfl
  | sqlite => rfl

/-- The query of a count: over the rows of a page or distinct rows, else over those of the table. -/
theorem toQuery_count (d : Dialect) {c : Selection} (before : Array Value)
    (projection : c.projection = .count) (existence : c.existence = false) :
    c.toQuery d before =
      if c.isPaged || c.distinct then
        (.over .count (c.toRowQuery d .counting before).1, (c.toRowQuery d .counting before).2)
      else (.rows (c.toRowQuery d .answer before).1, (c.toRowQuery d .answer before).2) := by
  simp only [Selection.toQuery, existence, projection]
  cases c.isPaged || c.distinct with
  | true => rfl
  | false => rfl

/-- A count tells how many texts there are on the page. -/
theorem answers_count (d : Dialect) {c : Selection} (K : Content)
    (projection : c.projection = .count) (existence : c.existence = false) :
    L.answers d [.select c] K =
      [[[.int64 (Int64.ofNat (L.numberOf d c (L.countedAs d c) (K c.table)))]]] := by
  rw [answers_select, toQuery_count d #[] projection existence]
  by_cases narrowed : (c.isPaged || c.distinct) = true
  · have plain : (c.toRowQuery d .counting #[]).1.columns.any isTotal = false := by
      show ([Column.named (.column dataColumn) "v"] ++ _).any isTotal = false
      rw [List.any_append]
      split
      · exact orderColumns_plain d c
      · rfl
    have shown (distinct : c.distinct = true) :
        L.shows (c.toRowQuery d .counting #[]).2.toList (c.toRowQuery d .counting #[]).1 =
          L.countedAs d c := by
      funext r
      exact L.shows_wholeRows #[] _ distinct rfl r
    rw [if_pos narrowed, answer, List.map_singleton, List.map_singleton, total, List.length_map,
      L.length_rowsOf d c .counting _ plain, L.numberOf_congr _ shown]
    rfl
  · obtain ⟨unpaged, alike⟩ := Bool.or_eq_false_iff.mp (Bool.eq_false_of_not_eq_true narrowed)
    have columns : (c.toRowQuery d .answer #[]).1.columns = [.count] := by
      show c.columnsFor d .answer ++ _ = _
      rw [alike, Bool.and_false, Bool.false_and, Bool.false_and, Selection.columnsFor, projection]
      rfl
    have found : L.rowsOf (c.toRowQuery d .answer #[]).2.toList (c.toRowQuery d .answer #[]).1
        (K c.table) = [[.int64 (Int64.ofNat (L.taken d c (K c.table)).card)]] := by
      rw [rowsOf, columns, if_pos (by rfl), List.map_singleton, total, L.length_environments]
      rfl
    rw [if_neg narrowed, answer, found, numberOf, alike, Selection.onPage_of_unpaged unpaged]
    rfl

/-- A count of the selection has as many rows as it: an order that it drops was not among its columns. -/
theorem numberOf_counting (d : Dialect) (s : Selection) (rows : Table) :
    L.numberOf d s.counting (L.countedAs d s.counting) rows =
      L.numberOf d s (L.countedAs d s) rows := by
  rcases s.counting_cases with same | ⟨unpaged, same⟩
  · rw [same]
    rfl
  · have shown : L.countedAs d { s with projection := .count, order := [] } = L.countedAs d s := by
      funext r
      have unpaged' : ({ s with projection := .count, order := [] } : Selection).isPaged = false := unpaged
      rw [countedAs, countedAs, unpaged, unpaged', Bool.and_false]
      rfl
    rw [same, shown]
    rfl

/-- What the count of a selection is answered. -/
theorem answers_counting (d : Dialect) {s : Selection} (K : Content) (existence : s.existence = false) :
    L.answers d [.select s.counting] K =
      [[[.int64 (Int64.ofNat (L.numberOf d s (L.countedAs d s) (K s.table)))]]] := by
  obtain ⟨table, projection, existence'⟩ : s.counting.table = s.table ∧
      s.counting.projection = .count ∧ s.counting.existence = s.existence := by
    rcases s.counting_cases with same | ⟨-, same⟩
    · rw [same]
      exact ⟨rfl, rfl, rfl⟩
    · rw [same]
      exact ⟨rfl, rfl, rfl⟩
  rw [L.answers_count d K projection (existence'.trans existence), numberOf_counting, table]

/-! ### Agreement -/

/-- A distinct count takes two of the rows for one that a distinct list answers both. -/
def Blurs (d : Dialect) (s : Selection) (rows : Table) : Prop :=
  ∃ r ∈ L.taken d s rows, ∃ r' ∈ L.taken d s rows,
    L.countedAs d s r = L.countedAs d s r' ∧ L.listedAs d s r ≠ L.listedAs d s r'

/-- The page does not show how many rows there are: as many with what is counted of each as with what
is listed. -/
def Hidden (d : Dialect) (s : Selection) (rows : Table) : Prop :=
  s.Hides (variety (L.countedAs d s) (L.taken d s rows)) (variety (L.listedAs d s) (L.taken d s rows))

theorem variety_countedAs_le (d : Dialect) (s : Selection) (rows : Table) :
    variety (L.countedAs d s) rows ≤ variety (L.listedAs d s) rows := by
  have part := variety_comp_le (withoutVersion d s) (L.listedAs d s) rows
  simpa only [withoutVersion_listedAs] using part

theorem variety_countedAs_eq_iff (d : Dialect) (s : Selection) (rows : Table) :
    variety (L.countedAs d s) (L.taken d s rows) = variety (L.listedAs d s) (L.taken d s rows) ↔
      ¬L.Blurs d s rows := by
  have part := variety_comp_eq_iff (withoutVersion d s) (L.listedAs d s) (L.taken d s rows)
  simp only [withoutVersion_listedAs] at part
  rw [part, Blurs]
  push Not
  rfl

theorem numberOf_countedAs_le (d : Dialect) (s : Selection) (rows : Table) :
    L.numberOf d s (L.countedAs d s) rows ≤ L.numberOf d s (L.listedAs d s) rows := by
  rw [numberOf, numberOf]
  refine s.onPage_mono ?_
  split
  · exact L.variety_countedAs_le d s _
  · exact le_rfl

/-- What is counted is as many rows as what is listed, unless distinct rows are blurred on the page. -/
theorem numberOf_countedAs_eq_iff (d : Dialect) (s : Selection) (rows : Table) :
    L.numberOf d s (L.countedAs d s) rows = L.numberOf d s (L.listedAs d s) rows ↔
      ¬(s.distinct = true ∧ L.Blurs d s rows ∧ ¬L.Hidden d s rows) := by
  rw [numberOf, numberOf]
  by_cases distinct : s.distinct = true
  · rw [if_pos distinct, if_pos distinct, s.onPage_eq_iff (L.variety_countedAs_le d s _),
      L.variety_countedAs_eq_iff d s rows, and_iff_right distinct, not_and, not_not, imp_iff_not_or,
      Hidden]
  · rw [if_neg distinct, if_neg distinct]
    exact iff_of_true rfl fun blurred => distinct blurred.1

end Relational.Library

end Folio
