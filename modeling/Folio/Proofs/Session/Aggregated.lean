import Folio.Proofs.Predicate.Whole
import Folio.Proofs.Relational.Aggregated
import Folio.Proofs.Session.Counted

/-!
# Folio.Proofs.Session.Aggregated

Whether a query computes with the documents that it lists.

Both read the same rows. The list makes them distinct as documents, the aggregate as values, and each cuts
its page after that. So with distinct documents a number that two of them share is computed with once, and
the page holds other documents than the list's (`Query.aggregates_iff`). Without, there is no difference
(`Query.aggregates_agree`).
-/

namespace Folio

open Folio.Predicate (Compiler Located)
open Folio.Relational
open Folio.Relational.Library (Holds once)
open Folio.Sql (Aggregate slice)
open Folio.Statement (Purpose Selection)
open Folio.Typed (Shape)

/-! ### What is told -/

namespace Query

variable (L : Library) (K : Content) (versions : Versions) (s : Scope) (m : Member)

/-- A query lists documents in which the member is these numbers, in this order. -/
def Lists (q : Query) (ns : List Int) : Prop :=
  ∃ p rows docs, q.list s = .ok p ∧ L.answers s.schema.dialect [p.statement] K = [rows] ∧
    (p.read rows versions).1 = .ok docs ∧ docs.map (s.compiler.number? m) = ns.map some

/-- A query tells of the member what there is to compute with these numbers. A sum has to fit the type
of the member. -/
structure Computes (q : Query) (shape : Shape) (ns : List Int) : Prop where
  sum : ∃ p rows, q.sum m shape s = .ok p ∧ L.answers s.schema.dialect [p.statement] K = [rows] ∧
    (ns = [] → (p.read rows versions).1 = .ok shape.default) ∧
    (ns ≠ [] → m.type.Fits ns.sum →
      ∃ v, (p.read rows versions).1 = .ok v ∧ v.number? = some ns.sum)
  min : ∃ p rows v?, q.min m shape s = .ok p ∧ L.answers s.schema.dialect [p.statement] K = [rows] ∧
    (p.read rows versions).1 = .ok v? ∧ v?.map Value.number? = ns.min?.map some
  max : ∃ p rows v?, q.max m shape s = .ok p ∧ L.answers s.schema.dialect [p.statement] K = [rows] ∧
    (p.read rows versions).1 = .ok v? ∧ v?.map Value.number? = ns.max?.map some
  average : ∃ p rows vs, q.average m s = .ok p ∧
    L.answers s.schema.dialect [p.statement] K = [rows] ∧
    rows = [[L.reply (L.aggregate .average vs)]] ∧ vs.map Value.number? = ns.map some ∧
    (ns = [] → (p.read rows versions).1 = .ok none)

variable {L K versions s m} in
/-- A query lists the same numbers whenever it is asked. -/
theorem Lists.unique {q : Query} {ns ns' : List Int} (h : q.Lists L K versions s m ns)
    (h' : q.Lists L K versions s m ns') : ns = ns' := by
  obtain ⟨p, rows, docs, planned, answered, read, same⟩ := h
  obtain ⟨p', rows', docs', planned', answered', read', same'⟩ := h'
  obtain rfl := Except.ok.inj (planned.symm.trans planned')
  obtain rfl := (List.cons.inj (answered.symm.trans answered')).1
  obtain rfl := Except.ok.inj (read.symm.trans read')
  exact List.map_injective_iff.mpr (Option.some_injective Int) (same.symm.trans same')

/-- The query without its page. -/
def unpaged (q : Query) : Query :=
  { q with limit := none, offset := none }

/-- On the page, the numbers of distinct documents are others than the distinct numbers. -/
def Conflates (q : Query) (ns : List Int) : Prop :=
  ¬(slice q.offset q.limit (once true ns)).Perm (slice q.offset q.limit ns)

end Query

/-- Each row has its own document, and the member is a number in it. -/
def Predicate.Compiler.Numbers (c : Compiler) (m : Member) (rows : Table) : Prop :=
  ∀ r ∈ rows, ∃ doc n, Document.read c.mapping.idKind r.data = .ok doc ∧ doc.id = r.id ∧
    c.number? m doc = some n

/-! ### What is sent -/

/-- The plan of a value that is computed from all rows. -/
def Plan.ofValue (m : Mapping) (s : Selection) : Plan Value :=
  .ofRows m s fun rows => .ok (firstValue rows)

namespace Query

variable {L : Library} {K : Content} {versions : Versions} {q : Query} {s : Scope} {m : Member}
  {l : Located} {base : Selection}

/-- The list and the aggregates of a query all fail alike, or are of one selection. -/
theorem list_aggregate_cases (located : s.compiler.locate m = .ok l) :
    (∃ f, q.list s = .error f ∧ ∀ a, q.aggregate a m s = .error f) ∨
      ∃ base, q.toSelection s .documents = .ok base ∧
        q.list s = .ok (.ofDocuments s.mapping base) ∧
        ∀ a, q.aggregate a m s = .ok (.ofValue s.mapping (base.computing a l.typed)) := by
  cases compiled : q.toSelection s .documents with
  | error f =>
    refine .inl ⟨f, ?_, fun a => ?_⟩
    · rw [list, compiled]
      rfl
    · rw [aggregate, located]
      show (q.toSelection s _ >>= _) = _
      rw [toSelection_eq_map, compiled]
      rfl
  | ok base =>
    refine .inr ⟨base, rfl, ?_, fun a => ?_⟩
    · rw [list, compiled]
      rfl
    · rw [aggregate, located]
      show (q.toSelection s _ >>= _) = _
      rw [toSelection_eq_map, compiled]
      rfl

theorem toSelection_unpaged (compiled : q.toSelection s .documents = .ok base) :
    q.unpaged.toSelection s .documents = .ok { base with limit := none, offset := none } := by
  obtain ⟨filters, filtered, compiled⟩ := Outcome.bind_eq_ok.mp compiled
  obtain ⟨order, ordered, compiled⟩ := Outcome.bind_eq_ok.mp compiled
  obtain rfl := Except.ok.inj compiled
  refine Outcome.bind_eq_ok.mpr ⟨filters, filtered, ?_⟩
  exact Outcome.bind_eq_ok.mpr ⟨order, ordered, rfl⟩

end Query

/-! ### The numbers of rows -/

namespace Predicate.Compiler

variable (c : Compiler) (m : Member)

/-- The number that the member is in the document of a text; zero if there is none. -/
def numberIn (text : String) : Int :=
  ((Document.read c.mapping.idKind text).toOption.bind (c.number? m)).getD 0

/-- The number in the document of a row that is listed. -/
def numberOf (row : Row) : Int :=
  match row with
  | .text text :: _ => c.numberIn m text
  | _ => 0

variable {c m} {L : Library} {rows : Table} {r : Record}

theorem numberOf_of_holds {row : Row} (holds : Holds r row) : c.numberOf m row = c.numberIn m r.data := by
  cases row with
  | nil => cases holds.1
  | cons v rest =>
    obtain rfl := Option.some.inj holds.1
    rfl

/-- The number of a row is that of its document. -/
theorem Numbers.read (numbers : c.Numbers m rows) (mem : r ∈ rows) :
    ∃ doc, Document.read c.mapping.idKind r.data = .ok doc ∧ doc.id = r.id ∧
      c.number? m doc = some (c.numberIn m r.data) := by
  obtain ⟨doc, n, read, own, number⟩ := numbers r mem
  refine ⟨doc, read, own, ?_⟩
  rw [numberIn, read]
  show _ = some (((some doc).bind (c.number? m)).getD 0)
  rw [Option.bind_some, number]
  rfl

/-- The number of a row is what a database finds in it. -/
theorem Numbers.located {l : Located} (numbers : c.Numbers m rows) (speaks : L.Speaks c.dialect)
    (whole : m.type.IsWhole) (located : c.locate m = .ok l) (mem : r ∈ rows) :
    L.located c.dialect r.get l.typed = c.numberAs m (c.numberIn m r.data) ∧
      m.type.Fits (c.numberIn m r.data) := by
  obtain ⟨doc, read, own, number⟩ := numbers.read mem
  exact located_number speaks whole located read own number

end Predicate.Compiler

/-! ### Documents -/

/-- Rows of documents are read, each as its own. -/
theorem readDocuments_numbers {mapping : Mapping} {reply : Row → Row} {number : Document → Option Int}
    {f : Row → Int} {rows : List Row}
    (each : ∀ row ∈ rows, ∃ doc v, readRow mapping (reply row) = .ok (doc, v) ∧
      number doc = some (f row)) (versions : Versions) :
    ∃ docs, (readDocuments mapping (rows.map reply) versions).1 = .ok docs ∧
      docs.map number = (rows.map f).map some := by
  induction rows generalizing versions with
  | nil => exact ⟨[], rfl, rfl⟩
  | cons row rest ih =>
    obtain ⟨doc, v, read, same⟩ := each row List.mem_cons_self
    obtain ⟨docs, others, alike⟩ := ih (fun row mem => each row (List.mem_cons_of_mem _ mem))
      (versions.set ⟨mapping.typeName, doc.id⟩ v)
    refine ⟨doc :: docs, ?_, ?_⟩
    · simp only [List.map_cons, readDocuments, read, others]
      rfl
    · rw [List.map_cons, same, alike]
      rfl

namespace Query

variable {L : Library} {K : Content} {versions : Versions} {q : Query} {s : Scope} {m : Member}
  {l : Located} {base : Selection}

/-- The numbers of the documents that a selection finds, in order, before its page is cut. -/
noncomputable def numbers (L : Library) (K : Content) (s : Scope) (m : Member) (base : Selection) :
    List Int :=
  (once base.distinct ((L.inOrder s.schema.dialect base .answer (K base.table)).map
    (L.listing s.schema.dialect base))).map (s.compiler.numberOf m)

/-- The rows that a selection of documents finds are read, each with its number. -/
theorem readRow_found (documents : base.projection = .documents)
    (numbered : s.compiler.Numbers m (K base.table)) {row : Row}
    (mem : row ∈ once base.distinct ((L.inOrder s.schema.dialect base .answer (K base.table)).map
      (L.listing s.schema.dialect base))) :
    ∃ doc v, readRow s.mapping (row.map L.reply) = .ok (doc, v) ∧
      s.compiler.number? m doc = some (s.compiler.numberOf m row) := by
  obtain ⟨r, found, rfl⟩ := List.mem_map.mp (Library.mem_once.mp mem)
  have holds := L.holds_listing (d := s.schema.dialect) documents r
  have taken : r ∈ L.taken s.schema.dialect base (K base.table) := by
    rw [← L.coe_inOrder (p := .answer)]
    exact found
  obtain ⟨doc, read, -, number⟩ := numbered.read (L.of_mem_taken taken).1
  have replied : Holds r ((L.listing s.schema.dialect base r).map L.reply) := by
    constructor
    · rw [List.getElem?_map, holds.1]
      rfl
    · rw [List.getElem?_map, holds.2]
      rfl
  refine ⟨doc, r.version, ?_, ?_⟩
  · have read : Document.read s.mapping.idKind r.data = .ok doc := read
    rw [readRow_eq replied, read]
    rfl
  · rw [Compiler.numberOf_of_holds holds, number]

/-- A list has the numbers of its page. -/
theorem lists_numbers (compiled : q.toSelection s .documents = .ok base)
    (numbered : s.compiler.Numbers m (K s.mapping.table)) :
    q.Lists L K versions s m (slice q.offset q.limit (numbers L K s m base)) := by
  obtain ⟨table, -, documents, existence⟩ := toSelection_scope compiled
  obtain ⟨limit, offset, -, -, -, -⟩ := selects_of_toSelection compiled
  have listed : q.list s = .ok (.ofDocuments s.mapping base) := by
    rw [list, compiled]
    rfl
  rw [← table] at numbered
  obtain ⟨docs, read, same⟩ := readDocuments_numbers
    (fun row mem => readRow_found (L := L) documents numbered
      ((Sql.slice_sublist base.offset base.limit _).subset mem)) versions
  refine ⟨_, _, docs, listed, L.answers_listed K documents existence, read, ?_⟩
  rw [same, Sql.map_slice, limit, offset, numbers]

/-! ### Values -/

/-- The numbers that are computed with. -/
noncomputable def seen (L : Library) (K : Content) (s : Scope) (m : Member) (l : Located)
    (base : Selection) : List Int :=
  slice base.offset base.limit (once base.distinct
    ((L.inOrder s.schema.dialect base (.values l.typed) (K base.table)).map fun r =>
      s.compiler.numberIn m r.data))

/-- They are the distinct ones of the numbers of the documents, on the page. -/
theorem seen_perm (documents : base.projection = .documents) :
    (seen L K s m l base).Perm
      (slice base.offset base.limit (once base.distinct (numbers L K s m base))) := by
  have shown : (fun r : Record => s.compiler.numberIn m r.data) =
      s.compiler.numberOf m ∘ L.listing s.schema.dialect base := by
    funext r
    exact (Compiler.numberOf_of_holds (L.holds_listing documents r)).symm
  rw [numbers, Library.once_map_once, List.map_map, ← shown]
  exact L.page_perm _ _

section

variable (speaks : L.Speaks s.schema.dialect) (whole : m.type.IsWhole)
  (located : s.compiler.locate m = .ok l) (numbered : s.compiler.Numbers m (K base.table))

include speaks whole located numbered

/-- A row in which the database looks has its number. -/
theorem located_of_mem {p : Purpose} {r : Record}
    (mem : r ∈ L.inOrder s.schema.dialect base p (K base.table)) :
    L.located s.schema.dialect r.get l.typed = s.compiler.numberAs m (s.compiler.numberIn m r.data) ∧
      m.type.Fits (s.compiler.numberIn m r.data) := by
  rw [← Multiset.mem_coe, L.coe_inOrder] at mem
  exact numbered.located speaks whole located (L.of_mem_taken mem).1

theorem fits_of_mem_seen {n : Int} (mem : n ∈ seen L K s m l base) : m.type.Fits n := by
  have among := Library.mem_once.mp ((Sql.slice_sublist _ _ _).subset mem)
  obtain ⟨r, there, rfl⟩ := List.mem_map.mp among
  exact (located_of_mem speaks whole located numbered there).2

/-- The values that the database computes with are those of the numbers. -/
theorem answers_seen (existence : base.existence = false) (a : Aggregate) :
    L.answers s.schema.dialect [.select (base.computing a l.typed)] K =
      [[[L.reply (L.aggregate a ((seen L K s m l base).map (s.compiler.numberAs m)))]]] := by
  have there := fun r mem => located_of_mem (L := L) (p := .values l.typed) (r := r) speaks whole located
    numbered mem
  -- numbers are found as different values
  have apart : ∀ x ∈ (L.inOrder s.schema.dialect base (.values l.typed) (K base.table)).map
        (fun r => s.compiler.numberIn m r.data),
      ∀ y ∈ (L.inOrder s.schema.dialect base (.values l.typed) (K base.table)).map
        (fun r => s.compiler.numberIn m r.data),
      s.compiler.numberAs m x = s.compiler.numberAs m y → x = y := by
    intro x memx y memy same
    obtain ⟨r, mem, rfl⟩ := List.mem_map.mp memx
    obtain ⟨r', mem', rfl⟩ := List.mem_map.mp memy
    have number := Compiler.number?_numberAs (c := s.compiler) whole (there r mem).2
    rw [same, Compiler.number?_numberAs whole (there r' mem').2] at number
    exact (Option.some.inj number).symm
  have values : (L.inOrder s.schema.dialect base (.values l.typed) (K base.table)).map
        (fun r => L.located s.schema.dialect r.get l.typed) =
      ((L.inOrder s.schema.dialect base (.values l.typed) (K base.table)).map
        fun r => s.compiler.numberIn m r.data).map (s.compiler.numberAs m) := by
    rw [List.map_map]
    exact List.map_congr_left fun r mem => (there r mem).1
  have present : ((seen L K s m l base).map (s.compiler.numberAs m)).filter (!·.isNull) =
      (seen L K s m l base).map (s.compiler.numberAs m) := by
    refine List.filter_eq_self.mpr fun v mem => ?_
    obtain ⟨n, is, rfl⟩ := List.mem_map.mp mem
    have fits := fits_of_mem_seen speaks whole located numbered is
    rw [Value.isNull_of_number? (Compiler.number?_numberAs whole fits)]
    rfl
  rw [L.answers_computing a l.typed K existence, values, Library.once_map_of_inj apart, ← Sql.map_slice,
    ← seen, present]

theorem map_number?_seen :
    ((seen L K s m l base).map (s.compiler.numberAs m)).map Value.number? =
      (seen L K s m l base).map some := by
  rw [List.map_map]
  refine List.map_congr_left fun n mem => ?_
  exact Compiler.number?_numberAs whole (fits_of_mem_seen speaks whole located numbered mem)

end

/-! ### Results -/

/-- A result that may be missing is read as the number that it is. -/
theorem loadIfThere_number {shape : Shape} {v : Value} {found : Option Int} (whole : shape.type.IsWhole)
    (missing : found = none → v = .null)
    (number : ∀ n, found = some n → v.number? = some n ∧ shape.type.Fits n) :
    ∃ v?, loadIfThere shape v = .ok v? ∧ v?.map Value.number? = found.map some := by
  cases found with
  | none =>
    rw [missing rfl]
    exact ⟨none, rfl, rfl⟩
  | some n =>
    obtain ⟨is, fits⟩ := number n rfl
    obtain ⟨w, loaded, same⟩ := Shape.load_number whole is fits
    refine ⟨some w, ?_, congrArg some same⟩
    rw [loadIfThere, Value.isNull_of_number? is, loaded]
    rfl

/-- What the aggregates of a query tell. -/
theorem computes_seen {shape : Shape} (speaks : L.Speaks s.schema.dialect) (totals : L.Totals)
    (whole : m.type.IsWhole) (shaped : shape.type = m.type) (located : s.compiler.locate m = .ok l)
    (numbered : s.compiler.Numbers m (K base.table)) (existence : base.existence = false)
    (planned : ∀ a, q.aggregate a m s = .ok (.ofValue s.mapping (base.computing a l.typed))) :
    q.Computes L K versions s m shape (seen L K s m l base) := by
  have answers := answers_seen speaks whole located numbered existence
  have fits := fun n mem => fits_of_mem_seen (n := n) speaks whole located numbered mem
  have same := map_number?_seen speaks whole located numbered
  have nothing (a : Aggregate) (none : seen L K s m l base = []) :
      L.reply (L.aggregate a ((seen L K s m l base).map (s.compiler.numberAs m))) = .null := by
    rw [none]
    exact totals.nothing a
  have readable : shape.type.IsWhole := shaped ▸ whole
  refine ⟨?sum, ?min, ?max, ?average⟩
  case sum =>
    have sums : q.sum m shape s = .ok ((Plan.ofValue s.mapping (base.computing .sum l.typed)).map
        fun v => if v.isNull then .ok shape.default else shape.load v) := by
      rw [Query.sum, planned]
      rfl
    refine ⟨_, _, sums, answers .sum, fun none => ?_, fun some fit => ?_⟩
    · show (if Value.isNull (L.reply _) then Except.ok shape.default else shape.load _) = _
      rw [nothing .sum none]
      rfl
    · have number := totals.sum same some ?_
      · obtain ⟨w, loaded, is⟩ := Shape.load_number readable number (shaped ▸ fit)
        refine ⟨w, ?_, is⟩
        show (if Value.isNull (L.reply _) then Except.ok shape.default else shape.load _) = _
        rw [Value.isNull_of_number? number]
        exact loaded
      · rcases whole with type | type
        · exact .inl (type ▸ fit)
        · refine .inr ⟨type ▸ fit, fun v mem => ?_⟩
          obtain ⟨n, -, rfl⟩ := List.mem_map.mp mem
          exact ⟨Int64.ofInt n, if_neg (by simp [type])⟩
  case min =>
    have mins : q.min m shape s = .ok ((Plan.ofValue s.mapping (base.computing .min l.typed)).map
        (loadIfThere shape)) := by
      rw [Query.min, planned]
      rfl
    obtain ⟨v?, loaded, is⟩ := loadIfThere_number readable
      (fun none => nothing .min (List.min?_eq_none_iff.mp none))
      fun n least => ⟨totals.min same least, shaped ▸ fits n (List.min?_mem least)⟩
    exact ⟨_, _, v?, mins, answers .min, loaded, is⟩
  case max =>
    have maxs : q.max m shape s = .ok ((Plan.ofValue s.mapping (base.computing .max l.typed)).map
        (loadIfThere shape)) := by
      rw [Query.max, planned]
      rfl
    obtain ⟨v?, loaded, is⟩ := loadIfThere_number readable
      (fun none => nothing .max (List.max?_eq_none_iff.mp none))
      fun n greatest => ⟨totals.max same greatest, shaped ▸ fits n (List.max?_mem greatest)⟩
    exact ⟨_, _, v?, maxs, answers .max, loaded, is⟩
  case average =>
    have averages : q.average m s = .ok ((Plan.ofValue s.mapping
        (base.computing .average l.typed)).map (loadIfThere .float)) := by
      rw [Query.average, planned]
      rfl
    refine ⟨_, _, _, averages, answers .average, rfl, same, fun none => ?_⟩
    show loadIfThere .float (L.reply _) = _
    rw [nothing .average none]
    rfl

/-! ### Agreement -/

/-- Without a page, it is enough that two documents share a number. -/
theorem conflates_iff_of_unpaged (unpaged : q.limit = none ∧ q.offset = none) (ns : List Int) :
    q.Conflates ns ↔ ¬ns.Nodup := by
  rw [Conflates, unpaged.1, unpaged.2, Sql.slice_none, Sql.slice_none, Library.once_eq, if_pos rfl]
  refine not_congr ⟨fun same => ?_, fun nodup => ?_⟩
  · exact same.nodup_iff.mp (List.nodup_dedup ns)
  · rw [List.dedup_eq_self.mpr nodup]

/-- What a query computes with and what it lists. -/
theorem computes_cases (versions : Versions) {shape : Shape} (speaks : L.Speaks s.schema.dialect)
    (totals : L.Totals) (whole : m.type.IsWhole) (shaped : shape.type = m.type)
    (located : s.compiler.locate m = .ok l) (numbered : s.compiler.Numbers m (K s.mapping.table)) :
    (∃ f, q.list s = .error f ∧ ∀ a, q.aggregate a m s = .error f) ∨
      ∃ all seen, q.unpaged.Lists L K versions s m all ∧
        q.Lists L K versions s m (slice q.offset q.limit all) ∧
        q.Computes L K versions s m shape seen ∧
        seen.Perm (slice q.offset q.limit (once q.distinct all)) := by
  rcases list_aggregate_cases (q := q) located with failed | ⟨base, compiled, -, planned⟩
  · exact .inl failed
  obtain ⟨table, -, documents, existence⟩ := toSelection_scope compiled
  obtain ⟨limit, offset, distinct, -, -, -⟩ := selects_of_toSelection compiled
  have everything : q.unpaged.Lists L K versions s m _ :=
    lists_numbers (toSelection_unpaged compiled) numbered
  refine .inr ⟨numbers L K s m base, seen L K s m l base, everything, lists_numbers compiled numbered,
    computes_seen speaks totals whole shaped located (table ▸ numbered) existence planned, ?_⟩
  rw [← limit, ← offset, ← distinct]
  exact seen_perm documents

/-- A query that does not ask for distinct documents computes with those that it lists. -/
theorem aggregates_agree {shape : Shape} (versions : Versions) (speaks : L.Speaks s.schema.dialect)
    (totals : L.Totals) (whole : m.type.IsWhole) (shaped : shape.type = m.type)
    (located : s.compiler.locate m = .ok l) (numbered : s.compiler.Numbers m (K s.mapping.table))
    (alike : q.distinct = false) :
    (∃ f, q.list s = .error f ∧ ∀ a, q.aggregate a m s = .error f) ∨
      ∃ listed seen, q.Lists L K versions s m listed ∧ q.Computes L K versions s m shape seen ∧
        seen.Perm listed := by
  rcases computes_cases (q := q) versions speaks totals whole shaped located numbered with
    failed | ⟨all, seen, -, listed, computed, same⟩
  · exact .inl failed
  · rw [alike, Library.once_false] at same
    exact .inr ⟨_, seen, listed, computed, same⟩

/-- The least and the greatest number of a query without a page are those of the documents that it lists,
be they distinct or not. -/
theorem extremes_agree {shape : Shape} (versions : Versions) (speaks : L.Speaks s.schema.dialect)
    (totals : L.Totals) (whole : m.type.IsWhole) (shaped : shape.type = m.type)
    (located : s.compiler.locate m = .ok l) (numbered : s.compiler.Numbers m (K s.mapping.table))
    (unpaged : q.limit = none ∧ q.offset = none) :
    (∃ f, q.list s = .error f ∧ ∀ a, q.aggregate a m s = .error f) ∨
      ∃ listed seen, q.Lists L K versions s m listed ∧ q.Computes L K versions s m shape seen ∧
        seen.min? = listed.min? ∧ seen.max? = listed.max? := by
  rcases computes_cases (q := q) versions speaks totals whole shaped located numbered with
    failed | ⟨all, seen, -, listed, computed, same⟩
  · exact .inl failed
  rw [unpaged.1, unpaged.2, Sql.slice_none] at listed same
  have among (n : Int) : n ∈ seen ↔ n ∈ all := same.mem_iff.trans Library.mem_once
  refine .inr ⟨all, seen, listed, computed, ?_, ?_⟩
  · refine Option.ext fun n => ?_
    simp only [List.min?_eq_some_iff, among]
  · refine Option.ext fun n => ?_
    simp only [List.max?_eq_some_iff, among]

end Query

namespace Orders

/-! ### Two orders of one total -/

/-- An order with its total. -/
def totalling (id : Int32) (text : String) : Record :=
  ⟨.int32 id, text, 1, .epoch, "order", "a", false, none⟩

def seventh : Record :=
  totalling 7 "\x7b\"id\":7,\"total\":1\x7d"

def eighth : Record :=
  totalling 8 "\x7b\"id\":8,\"total\":1\x7d"

/-- What a database computes, as far as orders need it. -/
def computed (a : Aggregate) (vs : List Value) : Value :=
  let ns := vs.filterMap Value.number?
  let found : Option Int :=
    match a with
    | .sum => if ns = [] then none else some ns.sum
    | .min => ns.min?
    | .max => ns.max?
    | .average => none
  match found with
  | some n => .int64 (Int64.ofInt n)
  | none => .null

/-- SQLite as far as orders need it, answering the seventh order first. -/
noncomputable def adding : Library where
  __ := sqlite
  aggregate := computed
  arrange _ rows := (rows.filter (· = seventh)).toList ++ (rows.filter (· ≠ seventh)).toList
  arrange_coe _ rows := by
    rw [← Multiset.coe_add, Multiset.coe_toList, Multiset.coe_toList]
    exact Multiset.filter_add_not _ rows

/-- What is found in documents does not depend on what is computed of it, nor on the order of rows. -/
theorem speaks_adding {L : Library} {d : Sql.Dialect} (speaks : L.Speaks d)
    {aggregate : Aggregate → List Value → Value}
    {arrange : List ((Record → Value) × Sql.Direction) → Table → List Record}
    {arrange_coe : ∀ keys rows, (arrange keys rows : Table) = rows} :
    ({ L with aggregate, arrange, arrange_coe } : Library).Speaks d :=
  { speaks with }

theorem adding_speaks : adding.Speaks .sqlite :=
  speaks_adding sqlite_speaks

theorem filterMap_number? {vs : List Value} {ns : List Int}
    (numbers : vs.map Value.number? = ns.map some) : vs.filterMap Value.number? = ns := by
  rw [← Function.id_comp Value.number?, ← List.filterMap_map, numbers, List.filterMap_map,
    Function.id_comp, List.filterMap_some]

theorem number?_reply {n : Int} (wide : ValueType.int64.Fits n) :
    (adding.reply (.int64 (Int64.ofInt n))).number? = some n := by
  obtain ⟨k, is⟩ := Option.isSome_iff_exists.mp wide
  obtain rfl := toInt_of_int64? is
  rw [Int64.ofInt_toInt]
  rfl

theorem wide_of_mem {vs : List Value} {ns : List Int} (numbers : vs.map Value.number? = ns.map some)
    {n : Int} (mem : n ∈ ns) : ValueType.int64.Fits n := by
  have among : some n ∈ vs.map Value.number? := numbers ▸ List.mem_map_of_mem mem
  obtain ⟨v, -, is⟩ := List.mem_map.mp among
  exact Value.fits_of_number? is

theorem adding_totals : adding.Totals where
  nothing a := by cases a <;> rfl
  sum {vs ns} numbers some fits := by
    have wide : ValueType.int64.Fits ns.sum := fits.elim ValueType.Fits.wider And.left
    show (adding.reply (computed .sum vs)).number? = _
    simp only [computed, filterMap_number? numbers, some, if_false]
    exact number?_reply wide
  min {vs ns n} numbers least := by
    show (adding.reply (computed .min vs)).number? = _
    simp only [computed, filterMap_number? numbers, least]
    exact number?_reply (wide_of_mem numbers (List.min?_mem least))
  max {vs ns n} numbers greatest := by
    show (adding.reply (computed .max vs)).number? = _
    simp only [computed, filterMap_number? numbers, greatest]
    exact number?_reply (wide_of_mem numbers (List.max?_mem greatest))

/-- The two orders. -/
def twoTotals : Table :=
  {seventh, eighth}

/-- Orders whose members are named in documents as they are in programs. -/
def named : Scope :=
  ⟨{ dialect := .sqlite, options := { casing := .asIs } }, type, "a"⟩

def total : Member :=
  ⟨[.field "total"], .int64, false⟩

/-- Distinct orders of all tenants. -/
def distinctOrders : Query :=
  { anyTenant := true, distinct := true }

theorem seventh_read : Document.read .int32 seventh.data =
    .ok ⟨.int32 7, .object [("id", .whole 7), ("total", .whole 1)]⟩ := by cbv

theorem eighth_read : Document.read .int32 eighth.data =
    .ok ⟨.int32 8, .object [("id", .whole 8), ("total", .whole 1)]⟩ := by cbv

/-- The total of an order is the number in its document. -/
theorem total_of_body {doc : Document} (there : doc.body.at? ["total"] = some (.whole 1)) :
    named.compiler.number? total doc = some 1 := by
  have inside : named.compiler.isIdentity total = false := by rfl
  have path : named.compiler.pathOf total = ["total"] := by rfl
  rw [Compiler.number?, inside, path, there]
  rfl

theorem adding_both (keys : List ((Record → Value) × Sql.Direction)) :
    adding.arrange keys twoTotals = [seventh, eighth] := by
  have other : eighth ≠ seventh := fun same => absurd (congrArg Record.id same) (by decide)
  simp [adding, twoTotals, Multiset.insert_eq_cons, Multiset.filter_singleton, other]

/-- What the query stands for. -/
def distinctSelection : Selection :=
  { table := mapping.table, projection := .documents, distinct := true }

theorem distinctOrders_compiled :
    distinctOrders.toSelection named .documents = .ok distinctSelection := rfl

theorem of_mem_twoTotals {r : Record} (mem : r ∈ twoTotals) : r = seventh ∨ r = eighth := by
  have both : r ∈ ({seventh, eighth} : Table) := mem
  rcases Multiset.mem_cons.mp both with here | other
  · exact .inl here
  · exact .inr (Multiset.mem_singleton.mp other)

theorem numbered_twoTotals :
    named.compiler.Numbers total twoTotals := by
  intro r mem
  rcases of_mem_twoTotals mem with rfl | rfl
  · exact ⟨_, 1, seventh_read, rfl, total_of_body rfl⟩
  · exact ⟨_, 1, eighth_read, rfl, total_of_body rfl⟩

theorem total_twoTotals {r : Record} (mem : r ∈ twoTotals) :
    named.compiler.numberIn total r.data = 1 := by
  obtain ⟨doc, read, own, number⟩ := numbered_twoTotals.read mem
  have one : named.compiler.number? total doc = some 1 := by
    rcases of_mem_twoTotals mem with rfl | rfl
    · obtain rfl := Except.ok.inj (read.symm.trans seventh_read)
      exact total_of_body rfl
    · obtain rfl := Except.ok.inj (read.symm.trans eighth_read)
      exact total_of_body rfl
  exact Option.some.inj (number.symm.trans one)

/-- Both orders are found, with one total. -/
theorem numbers_twoTotals : Query.numbers adding (fun _ => twoTotals) named total
    distinctSelection = [1, 1] := by
  have taken : adding.taken .sqlite distinctSelection twoTotals = twoTotals := by
    rw [Library.taken]
    exact Multiset.filter_eq_self.mpr fun r _ => rfl
  have order : adding.inOrder .sqlite distinctSelection .answer twoTotals = [seventh, eighth] := by
    rw [Library.inOrder, taken, adding_both]
  have apart : adding.listing .sqlite distinctSelection seventh ≠
      adding.listing .sqlite distinctSelection eighth := by
    intro same
    have texts := Value.text.inj (List.cons.inj same).1
    exact absurd texts (by decide)
  have one (r : Record) (mem : r ∈ twoTotals) :
      named.compiler.numberOf total
        (adding.listing .sqlite distinctSelection r) = 1 := by
    rw [Compiler.numberOf_of_holds (adding.holds_listing rfl r), total_twoTotals mem]
  classical
  show (once true ((adding.inOrder .sqlite distinctSelection .answer twoTotals).map
    (adding.listing .sqlite distinctSelection))).map _ = _
  rw [order, List.map_cons, List.map_singleton, Library.once_eq, if_pos rfl,
    List.dedup_eq_self.mpr (by simpa using apart), List.map_cons, List.map_singleton,
    one seventh (by decide), one eighth (by decide)]

end Orders

end Folio
