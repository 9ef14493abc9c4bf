import Folio.Proofs.Relational.Reads

/-!
# Folio.Proofs.Relational.Answered

Which rows of the table an answer is made of. An answer tells the text and the version of a row,
but neither its key nor its tenant; `Library.sources` has the rows themselves, in the order in
which they are answered. A row of an answer has one source, unless the query asks for distinct
rows: then it has all rows that show the same.

* `Library.rowsOf_sources`: what a query answers is what the sources show.
* `Library.sourcesOf_answers`: so it is with each selection of documents of a command.
-/

namespace Folio.Relational

open Folio.Sql
open Folio.Statement

namespace Library

variable (L : Library)

/-- What a row of the table shows in the columns of a query. -/
def shows (params : List Value) (q : RowQuery) (r : Record) : Row :=
  q.columns.map (L.column (r.env params))

/-- What a query shows before rows are made distinct and the page is cut. -/
theorem map_environments (params : List Value) (q : RowQuery) (rows : Table) :
    (L.environments params q rows).map (fun env => q.columns.map (L.column env)) =
      (L.arrange (L.sortKeys params q.order) (L.selected params q rows)).map (L.shows params q) := by
  rw [environments, List.map_map]
  rfl

open Classical in
/-- For each row that a query answers, the rows of the table that it is made of. -/
noncomputable def sources (params : List Value) (q : RowQuery) (rows : Table) :
    List (List Record) :=
  let found := L.arrange (L.sortKeys params q.order) (L.selected params q rows)
  let groups := if q.distinct then
      (found.map (L.shows params q)).dedup.map fun row => found.filter (L.shows params q · = row)
    else found.map ([·])
  let groups := page q.page groups
  match q.top with
  | some n => groups.take n
  | none => groups

theorem forall₂_page {α β : Type} {R : α → β → Prop} {xs : List α} {ys : List β}
    (h : List.Forall₂ R xs ys) (p : Page) : List.Forall₂ R (page p xs) (page p ys) := by
  rcases p with _ | ⟨skip, _ | n⟩ | ⟨_ | n, _ | skip⟩
  · exact h
  · exact List.forall₂_drop skip h
  · exact List.forall₂_take n (List.forall₂_drop skip h)
  · exact h
  · exact List.forall₂_drop skip h
  · exact List.forall₂_take n h
  · exact List.forall₂_take n (List.forall₂_drop skip h)

/-- The rows of an answer, each with its sources: there is at least one, and all of them show
what is answered. -/
theorem rowsOf_sources {params : List Value} {q : RowQuery} (plain : q.columns.any isTotal = false)
    (rows : Table) :
    List.Forall₂ (fun group row => group ≠ [] ∧ ∀ r ∈ group, L.shows params q r = row)
      (L.sources params q rows) (L.rowsOf params q rows) := by
  classical
  simp only [rowsOf, sources, plain, Bool.false_eq_true, if_false, map_environments]
  generalize L.arrange (L.sortKeys params q.order) (L.selected params q rows) = found
  have grouped : List.Forall₂ (fun group row => group ≠ [] ∧ ∀ r ∈ group, L.shows params q r = row)
      (if q.distinct then
        (found.map (L.shows params q)).dedup.map fun row => found.filter (L.shows params q · = row)
      else found.map ([·]))
      (if q.distinct then (found.map (L.shows params q)).dedup else found.map (L.shows params q)) := by
    split
    · rw [List.forall₂_map_left_iff, List.forall₂_same]
      intro row answered
      obtain ⟨r, mem, same⟩ := List.mem_map.mp (List.mem_dedup.mp answered)
      refine ⟨List.ne_nil_of_mem (List.mem_filter.mpr ⟨mem, decide_eq_true same⟩), fun r among => ?_⟩
      exact of_decide_eq_true (List.mem_filter.mp among).2
    · rw [List.forall₂_map_left_iff, List.forall₂_map_right_iff, List.forall₂_same]
      intro r _
      refine ⟨List.cons_ne_nil r [], fun s only => ?_⟩
      rw [List.mem_singleton.mp only]
  cases q.top with
  | none => exact forall₂_page grouped q.page
  | some n => exact List.forall₂_take n (forall₂_page grouped q.page)

theorem mem_sources {params : List Value} {q : RowQuery} {rows : Table} {group : List Record}
    {r : Record} (listed : group ∈ L.sources params q rows) (mem : r ∈ group) :
    r ∈ rows ∧ L.all (r.env params) q.conditions := by
  classical
  simp only [sources] at listed
  have paged : group ∈ page q.page (if q.distinct then
      ((L.arrange (L.sortKeys params q.order) (L.selected params q rows)).map
        (L.shows params q)).dedup.map fun row =>
          (L.arrange (L.sortKeys params q.order) (L.selected params q rows)).filter
            (L.shows params q · = row)
      else (L.arrange (L.sortKeys params q.order) (L.selected params q rows)).map ([·])) := by
    cases top : q.top with
    | none => simpa only [top] using listed
    | some n =>
      simp only [top] at listed
      exact List.mem_of_mem_take listed
  have found : r ∈ L.arrange (L.sortKeys params q.order) (L.selected params q rows) := by
    have among := (page_sublist _ _).subset paged
    split at among
    · obtain ⟨row, -, rfl⟩ := List.mem_map.mp among
      exact (List.mem_filter.mp mem).1
    · obtain ⟨s, there, rfl⟩ := List.mem_map.mp among
      rwa [List.mem_singleton.mp mem]
  rw [← Multiset.mem_coe, L.arrange_coe] at found
  exact Multiset.mem_filter.mp found

/-! ### Commands -/

/-- The sources of the rows that a statement of a command answers. -/
noncomputable def sourcesIn (params : List Value) (K : Content) : Tree → List (List Record)
  | .query (.rows q) => L.sources params q (K q.table)
  | _ => []

/-- The rows that a statement of a command answers. -/
noncomputable def answerIn (params : List Value) (K : Content) : Tree → List Row
  | .query q => L.answer params q (K (tableOfQuery q))
  | .change _ => []

/-- The sources of the rows that the selections of a command answer. -/
noncomputable def sourcesOf (d : Dialect) (ss : List Selection) (K : Content) :
    List (List (List Record)) :=
  let (trees, params) := (ss.map Statement.select).mapM (Statement.tree d) #[]
  trees.map (L.sourcesIn params.toList K)

/-- The answer to a selection, if it is one of documents, and its sources: rows of the table, and of
the tenant if the selection keeps to one. -/
def Showing (s : Selection) (rows : Table) (groups : List (List Record)) (answer : List Row) : Prop :=
  s.projection = .documents → s.existence = false →
    List.Forall₂ (fun group row => group ≠ [] ∧ ∀ r ∈ group, Holds r row) groups answer ∧
      ∀ group ∈ groups, ∀ r ∈ group, r ∈ rows ∧ ∀ a, s.tenant = some a → r.tenant = a

theorem showing {d : Dialect} {s : Selection} (before : Array Value) {params : List Value}
    (grown : (s.toQuery d before).2.toList <+: params) (K : Content) :
    Showing s (K s.table) (L.sourcesIn params K (.query (s.toQuery d before).1))
      (L.answer params (s.toQuery d before).1 (K s.table)) := by
  intro documents whole
  have query := toQuery_documents d before documents whole
  obtain ⟨extra, columns, added⟩ := columns_documents d before documents
  have plain : (s.toRowQuery d .answer before).1.columns.any isTotal = false := by
    rw [columns]
    exact added
  have table := tableOfQuery_toQuery d s before
  rw [query] at grown table ⊢
  have here : (s.toRowQuery d .answer before).1.table = s.table := table
  have sources : L.sourcesIn params K (.query (.rows (s.toRowQuery d .answer before).1)) =
      L.sources params (s.toRowQuery d .answer before).1 (K s.table) := by
    rw [sourcesIn, here]
  simp only [sources, answer]
  refine ⟨List.forall₂_map_right_iff.mpr ((L.rowsOf_sources plain _).imp fun group row h => ?_),
    fun group listed r mem => ?_⟩
  · refine ⟨h.1, fun r mem => ?_⟩
    rw [← h.2 r mem, shows, columns]
    exact ⟨rfl, rfl⟩
  · obtain ⟨there, meets⟩ := L.mem_sources listed mem
    refine ⟨there, fun a own => ?_⟩
    have mine : TenantIn a (s.toRowQuery d .answer before).1.conditions params := by
      have own_rows := tenantIn_whereConditions d s.filters a s.deletion before
      rw [← own] at own_rows
      exact own_rows.mono grown
    exact L.tenant_of_all mine meets

/-- What the selections of a command are answered, with the sources of their answers. -/
theorem sourcesOf_answers (d : Dialect) (ss : List Selection) (K : Content) :
    ∃ pairs : List (List (List Record) × List Row), L.sourcesOf d ss K = pairs.map Prod.fst ∧
      L.answers d (ss.map .select) K = pairs.map Prod.snd ∧
      List.Forall₂ (fun s x => Showing s (K s.table) x.1 x.2) ss pairs := by
  obtain ⟨-, bound⟩ := mapM_tree d ss #[]
  generalize there : (ss.map Statement.select).mapM (Statement.tree d) #[] = command at bound
  obtain ⟨trees, params⟩ := command
  refine ⟨trees.map fun tree => (L.sourcesIn params.toList K tree, L.answerIn params.toList K tree),
    ?_, ?_, ?_⟩
  · rw [List.map_map]
    simp only [Library.sourcesOf, there]
    rfl
  · rw [List.map_map]
    simp only [Library.answers, there]
    rfl
  · refine List.forall₂_map_right_iff.mpr (bound.imp ?_)
    intro s _ h
    obtain ⟨before, rfl, grown⟩ := h
    show Showing s (K s.table) _
      (L.answer params.toList (s.toQuery d before).1 (K (tableOfQuery (s.toQuery d before).1)))
    rw [tableOfQuery_toQuery]
    exact L.showing before grown K

end Library

end Folio.Relational
