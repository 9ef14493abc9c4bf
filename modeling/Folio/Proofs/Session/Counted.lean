import Folio.Proofs.Relational.Counted
import Folio.Proofs.Versions.Tenants

/-!
# Folio.Proofs.Session.Counted

Whether a query counts as many documents as it lists.

* `Query.count_agrees_iff`: it does, unless it asks for distinct rows and two of them have one text.
* `Query.count_agrees`: a query that keeps to its tenant always does, since a text tells the identity
  of its document and a tenant has one row for each.
-/

namespace Folio

open Folio.Relational
open Folio.Statement (Projection Selection)

namespace Query

variable (L : Library) (q : Query) (s : Scope)

/-- A query stands for the same rows whatever is read of them. -/
theorem toSelection_eq_map (p : Projection) :
    q.toSelection s p =
      (q.toSelection s .documents).map fun selection => { selection with projection := p } := by
  rw [toSelection, toSelection]
  cases q.filters.mapM s.compiler.compile with
  | error f => rfl
  | ok filters =>
    simp only
    generalize List.mapM (m := Outcome) _ q.order = order
    cases order with
    | error f => rfl
    | ok order => rfl

/-- The list and the count of a query both fail, or are of one selection. -/
theorem list_count_cases :
    (∃ f, q.list s = .error f ∧ q.count s = .error f) ∨
      ∃ listing counting, q.list s = .ok listing ∧ q.count s = .ok counting ∧
        q.toSelection s .documents = .ok listing.selection ∧
        counting.selection = listing.selection.counting := by
  cases compiled : q.toSelection s .documents with
  | error f =>
    refine .inl ⟨f, ?_, ?_⟩
    · rw [list, compiled]
      rfl
    · rw [count, toSelection_eq_map, compiled]
      rfl
  | ok selection =>
    have counts : q.count s = .ok (.ofRows s.mapping selection.counting fun rows =>
        readCount (firstValue rows)) := by
      rw [count, toSelection_eq_map, compiled]
      rfl
    refine .inr ⟨.ofDocuments s.mapping selection, _, ?_, counts, rfl, rfl⟩
    rw [list, compiled]
    rfl

theorem toSelection_distinct {q : Query} {s : Scope} {p : Projection} {selection : Selection}
    (compiled : q.toSelection s p = .ok selection) : selection.distinct = q.distinct := by
  obtain ⟨filters, -, compiled⟩ := Outcome.bind_eq_ok.mp compiled
  obtain ⟨order, -, compiled⟩ := Outcome.bind_eq_ok.mp compiled
  obtain rfl := Except.ok.inj compiled
  rfl

/-- What the list and the count of a query are answered. -/
theorem list_count_answers (K : Content) :
    (∃ f, q.list s = .error f ∧ q.count s = .error f) ∨
      ∃ listing counting answer, q.list s = .ok listing ∧ q.count s = .ok counting ∧
        q.toSelection s .documents = .ok listing.selection ∧
        L.answers s.schema.dialect [listing.statement] K = [answer] ∧
        L.answers s.schema.dialect [counting.statement] K =
          [[[.int64 (Int64.ofNat (L.numberOf s.schema.dialect listing.selection
            (L.countedAs s.schema.dialect listing.selection) (K listing.selection.table)))]]] ∧
        answer.length = L.numberOf s.schema.dialect listing.selection
          (L.listedAs s.schema.dialect listing.selection) (K listing.selection.table) := by
  rcases q.list_count_cases s with failed | ⟨listing, counting, listed, counted, compiled, same⟩
  · exact .inl failed
  obtain ⟨-, -, documents, existence⟩ := toSelection_scope compiled
  obtain ⟨answer, answered, length⟩ := L.answers_listing s.schema.dialect K documents existence
  have number := L.answers_counting s.schema.dialect K existence
  rw [← same] at number
  exact .inr ⟨listing, counting, answer, listed, counted, compiled, answered, number, length⟩

/-- A query that can be compiled counts the documents that it lists, unless it asks for distinct rows,
two of the rows that it takes are one to the count and two to the list, and the page does not hide it. -/
theorem count_agrees_iff (K : Content) :
    (∃ f, q.list s = .error f ∧ q.count s = .error f) ∨
      ∃ listing counting answer n, q.list s = .ok listing ∧ q.count s = .ok counting ∧
        L.answers s.schema.dialect [listing.statement] K = [answer] ∧
        L.answers s.schema.dialect [counting.statement] K = [[[.int64 (Int64.ofNat n)]]] ∧
        n ≤ answer.length ∧
        (n = answer.length ↔
          ¬(q.distinct = true ∧
            L.Blurs s.schema.dialect listing.selection (K listing.selection.table) ∧
            ¬L.Hidden s.schema.dialect listing.selection (K listing.selection.table))) := by
  rcases list_count_answers L q s K with
    failed | ⟨listing, counting, answer, listed, counted, compiled, answered, number, length⟩
  · exact .inl failed
  refine .inr ⟨listing, counting, answer, _, listed, counted, answered, number, ?_, ?_⟩
  · rw [length]
    exact L.numberOf_countedAs_le ..
  · rw [length, L.numberOf_countedAs_eq_iff, toSelection_distinct compiled]

/-! ### One tenant -/

/-- A key leads to one row. -/
theorem eq_of_key {rows : Table} (keyed : (versionsAt rows).Keyed) {r r' : Record} (mem : r ∈ rows)
    (mem' : r' ∈ rows) (same : r.key = r'.key) : r = r' := by
  obtain ⟨only, alone, -, -⟩ := filter_of_versionsAt (versionsAt_of_mem keyed mem)
  have here : r ∈ rows.filter (·.key = r.key) := Multiset.mem_filter.mpr ⟨mem, rfl⟩
  have here' : r' ∈ rows.filter (·.key = r.key) := Multiset.mem_filter.mpr ⟨mem', same.symm⟩
  rw [alone] at here here'
  rw [Multiset.mem_singleton.mp here, Multiset.mem_singleton.mp here']

/-- A text tells the identity of its document, and a tenant has one row for it. -/
theorem not_blurs_of_own {d : Sql.Dialect} {selection : Selection} {m : Mapping} {rows : Table} {a : String}
    (own : selection.tenant = some a) (keyed : (versionsAt rows).Keyed)
    (faithful : ∀ r ∈ rows, r.Faithful m ∧ m.reads r = true) : ¬L.Blurs d selection rows := by
  intro blurred
  obtain ⟨r, taken, r', taken', counted, differ⟩ := blurred
  obtain ⟨there, mine⟩ := L.of_mem_taken taken
  obtain ⟨there', mine'⟩ := L.of_mem_taken taken'
  have text : r.data = r'.data := Value.text.inj (List.cons.inj counted).1
  obtain ⟨holds, reads⟩ := faithful r there
  obtain ⟨holds', -⟩ := faithful r' there'
  have identity : r.id = r'.id := by
    cases read : Document.read m.idKind r.data with
    | error f =>
      rw [Mapping.reads, read] at reads
      cases reads
    | ok doc => exact (holds doc read).symm.trans (holds' doc (text ▸ read))
  have key : r.key = r'.key := congrArg₂ Prod.mk ((mine a own).trans (mine' a own).symm) identity
  exact differ (congrArg (L.listedAs d selection) (eq_of_key keyed there there' key))

/-- A query that keeps to its tenant counts the documents that it lists. -/
theorem count_agrees {K : Content} (own : q.anyTenant = false)
    (keyed : (versionsAt (K s.mapping.table)).Keyed)
    (faithful : ∀ r ∈ K s.mapping.table, r.Faithful s.mapping ∧ s.mapping.reads r = true) :
    (∃ f, q.list s = .error f ∧ q.count s = .error f) ∨
      ∃ listing counting answer, q.list s = .ok listing ∧ q.count s = .ok counting ∧
        L.answers s.schema.dialect [listing.statement] K = [answer] ∧
        L.answers s.schema.dialect [counting.statement] K =
          [[[.int64 (Int64.ofNat answer.length)]]] := by
  rcases list_count_answers L q s K with
    failed | ⟨listing, counting, answer, listed, counted, compiled, answered, number, length⟩
  · exact .inl failed
  obtain ⟨table, tenant, -, -⟩ := toSelection_scope compiled
  rw [tenant?, own] at tenant
  rw [← table] at keyed faithful
  have clear := not_blurs_of_own L (d := s.schema.dialect) tenant keyed faithful
  have same := (L.numberOf_countedAs_eq_iff s.schema.dialect listing.selection _).mpr fun blurred =>
    clear blurred.2.1
  refine .inr ⟨listing, counting, answer, listed, counted, answered, ?_⟩
  rw [number, same, length]

end Query

namespace Orders

/-- Documents of all tenants, each once. -/
def everyone : Query :=
  { anyTenant := true, distinct := true }

/-- The rows of two tenants for one order. -/
def twoRows : Table :=
  {rowOf "a" 3, rowOf "b" 9}

/-- Two tenants have the order, at different versions: it is listed twice and counted once. -/
theorem count_agrees_iff_everyone :
    ∃ listing counting answer n, everyone.list ⟨schema, type, "a"⟩ = .ok listing ∧
      everyone.count ⟨schema, type, "a"⟩ = .ok counting ∧
      sorting.answers .sqlite [listing.statement] (fun _ => twoRows) = [answer] ∧
      sorting.answers .sqlite [counting.statement] (fun _ => twoRows) =
        [[[.int64 (Int64.ofNat n)]]] ∧ n < answer.length := by
  rcases Query.count_agrees_iff sorting everyone ⟨schema, type, "a"⟩ fun _ => twoRows with
    ⟨f, failed, -⟩ | ⟨listing, counting, answer, n, listed, counted, answered, number, le, agrees⟩
  · cases failed
  obtain rfl := Except.ok.inj listed
  refine ⟨_, counting, answer, n, rfl, counted, answered, number, lt_of_le_of_ne le fun same => ?_⟩
  -- there is nothing that the rows have to meet
  have taken {r : Record} (mem : r ∈ twoRows) : r ∈ sorting.taken .sqlite
      { table := mapping.table, projection := .documents, distinct := true } twoRows := by
    rw [Library.taken]
    exact Multiset.mem_filter.mpr ⟨mem, by rfl⟩
  have own := taken (r := rowOf "a" 3) (by decide)
  have other := taken (r := rowOf "b" 9) (by decide)
  refine agrees.mp same ⟨rfl, ⟨_, own, _, other, rfl, fun shown => ?_⟩, fun hidden => ?_⟩
  · exact absurd (Value.int64.inj (List.cons.inj (List.cons.inj shown).2).1) (by decide)
  · rcases hidden with none | ⟨k, limit, -⟩
    · exact (Library.variety_pos _ own).not_ge none
    · cases limit

end Orders

end Folio
