import Folio.Proofs.Relational.Answered
import Folio.Proofs.Versions.Moves

/-!
# Folio.Proofs.Versions.Sighted

Which rows a session sees when it reads, those of other tenants included, and which versions it
knows then.

* `Session.sighted`: the rows that the reads of a call make documents of, in order.
* `Read.plan_sees`, `Session.perform_sighted`: a read notes the versions of these, and no others.
* `Session.of_mem_sighted`: these are rows of the tables that are read, and the tenant's own unless a
  query asks for all tenants.
-/

namespace Folio

open Folio.Database
open Folio.Relational
open Folio.Relational.Library (Showing)
open Folio.Statement

/-! ### Rows -/

/-- A row that holds its document: whoever reads it reads its identity. -/
def Relational.Record.Faithful (m : Mapping) (r : Record) : Prop :=
  ∀ doc, Document.read m.idKind r.data = .ok doc → doc.id = r.id

/-- A row that was seen, with the name of the type that it was read as. -/
structure Sighting where
  type : String
  record : Record

/-- Where the version of the row is filed. -/
def Sighting.key (e : Sighting) : DocumentKey :=
  ⟨e.type, e.record.id⟩

/-- Notes the version of a row. -/
def Versions.note (vs : Versions) (e : Sighting) : Versions :=
  vs.set e.key e.record.version

/-- Can a document be made of the row? -/
def Mapping.reads (m : Mapping) (r : Record) : Bool :=
  (Document.read m.idKind r.data).isOk

/-- The rows seen by reading the documents in answers, whose sources are given. The first that
cannot be read ends the reading. -/
def Mapping.sightings (m : Mapping) (groups : List (List Record)) : List Sighting :=
  ((groups.takeWhile (·.all m.reads)).flatten).map (⟨m.typeName, ·⟩)

@[simp] theorem Mapping.sightings_nil (m : Mapping) : m.sightings [] = [] := rfl

theorem Mapping.sightings_cons (m : Mapping) (group : List Record) (rest : List (List Record)) :
    m.sightings (group :: rest) =
      if group.all m.reads then group.map (⟨m.typeName, ·⟩) ++ m.sightings rest else [] := by
  rw [sightings, List.takeWhile_cons]
  split
  · rw [List.flatten_cons, List.map_append]
    rfl
  · rfl

/-- What is seen is in one of the sources. -/
theorem Mapping.of_mem_sightings {m : Mapping} {groups : List (List Record)} {e : Sighting}
    (h : e ∈ m.sightings groups) : e.type = m.typeName ∧ ∃ group ∈ groups, e.record ∈ group := by
  obtain ⟨r, mem, rfl⟩ := List.mem_map.mp h
  obtain ⟨group, listed, there⟩ := List.mem_flatten.mp mem
  exact ⟨rfl, group, (List.takeWhile_sublist _).subset listed, there⟩

theorem readRow_eq {m : Mapping} {r : Record} {row : Row} (holds : Library.Holds r row) :
    readRow m row = (Document.read m.idKind r.data).map (·, r.version) := by
  obtain ⟨text, version⟩ := holds
  rw [readRow, payload, Row.takeColumn, Row.takeColumn, text, version]
  show (Document.read m.idKind r.data >>= fun doc => .ok (doc, r.version)) = _
  cases Document.read m.idKind r.data <;> rfl

@[simp] theorem Versions.set_set (vs : Versions) (key : DocumentKey) (v w : Int64) :
    (vs.set key v).set key w = vs.set key w := by
  refine congrArg Versions.mk (funext fun k => ?_)
  by_cases same : k = key
  · rw [if_pos same, if_pos same]
  · rw [if_neg same, if_neg same]
    exact Versions.get?_put_of_ne _ same

/-- Sources of one row of an answer are filed in one place, at one version. -/
theorem foldl_note_group {type : String} {id : DocumentId} {v : Int64} {group : List Record}
    (some : group ≠ []) (same : ∀ r ∈ group, r.id = id ∧ r.version = v) (vs : Versions) :
    (group.map (Sighting.mk type)).foldl Versions.note vs = vs.set ⟨type, id⟩ v := by
  induction group generalizing vs with
  | nil => exact absurd rfl some
  | cons r rest ih =>
    obtain ⟨rfl, rfl⟩ := same r List.mem_cons_self
    rw [List.map_cons, List.foldl_cons]
    by_cases last : rest = []
    · rw [last]
      rfl
    · rw [ih last fun s mem => same s (List.mem_cons_of_mem _ mem)]
      exact Versions.set_set ..

/-- Reading documents notes the versions of the rows seen. -/
theorem readDocuments_sighted {m : Mapping} {groups : List (List Record)} {answer : List Row}
    (shown : List.Forall₂ (fun group row => group ≠ [] ∧ ∀ r ∈ group, Library.Holds r row)
      groups answer)
    (faithful : ∀ group ∈ groups, ∀ r ∈ group, r.Faithful m) (vs : Versions) :
    (readDocuments m answer vs).2 = (m.sightings groups).foldl Versions.note vs := by
  induction shown generalizing vs with
  | nil => rfl
  | @cons group row groups answer first _ ih =>
    obtain ⟨some, holds⟩ := first
    obtain ⟨r, mem⟩ := List.exists_mem_of_ne_nil group some
    -- all sources of the row have the same text
    have same : ∀ s ∈ group, s.data = r.data ∧ s.version = r.version := by
      intro s other
      obtain ⟨text, version⟩ := holds s other
      obtain ⟨text', version'⟩ := holds r mem
      exact ⟨Value.text.inj (Option.some.inj (text.symm.trans text')),
        Value.int64.inj (Option.some.inj (version.symm.trans version'))⟩
    have reads : group.all m.reads = (Document.read m.idKind r.data).isOk := by
      rw [Bool.eq_iff_iff, List.all_eq_true]
      refine ⟨fun all => all r mem, fun ok s other => ?_⟩
      rw [Mapping.reads, (same s other).1]
      exact ok
    rw [readDocuments, readRow_eq (holds r mem), m.sightings_cons, reads]
    cases read : Document.read m.idKind r.data with
    | error f => rfl
    | ok doc =>
      have here : ∀ s ∈ group, s.id = doc.id ∧ s.version = r.version := by
        intro s other
        obtain ⟨text, version⟩ := same s other
        exact ⟨(faithful group List.mem_cons_self s other doc (by rw [text, read])).symm, version⟩
      show (readDocuments m answer (vs.set ⟨m.typeName, doc.id⟩ r.version)).2 =
        (group.map (Sighting.mk m.typeName) ++ m.sightings groups).foldl Versions.note vs
      rw [List.foldl_append, foldl_note_group some here]
      exact ih (fun other listed => faithful other (List.mem_cons_of_mem _ listed)) _

/-! ### Plans -/

/-- A row of the table that was seen, and one of the tenant if there is one. -/
structure Sighting.Of (m : Mapping) (rows : Table) (tenant : Option String) (e : Sighting) : Prop where
  type : e.type = m.typeName
  mem : e.record ∈ rows
  own : ∀ a, tenant = some a → e.record.tenant = a

/-- A plan on the table of the mapping, for the tenant if there is one, that notes the versions of the
rows that it sees. -/
structure Plan.Sees {α : Type} (m : Mapping) (tenant : Option String)
    (look : List (List Record) → List Sighting) (p : Plan α) : Prop where
  mapping : p.mapping = m
  table : p.selection.table = m.table
  keeps : p.selection.tenant = tenant
  notes : ∀ {rows : Table} {groups : List (List Record)} {answer : List Row},
    (∀ r ∈ rows, r.Faithful m) → Showing p.selection rows groups answer →
      ∀ vs, (p.read answer vs).2 = (look groups).foldl Versions.note vs
  seen : ∀ {rows : Table} {groups : List (List Record)} {answer : List Row},
    Showing p.selection rows groups answer → ∀ e ∈ look groups, e.Of m rows tenant

namespace Plan.Sees

variable {α β : Type} {m : Mapping} {tenant : Option String}
  {look : List (List Record) → List Sighting}

/-- What is made of the answer does not matter. -/
theorem map {p : Plan α} (h : p.Sees m tenant look) (f : α → Outcome β) :
    (p.map f).Sees m tenant look :=
  ⟨h.mapping, h.table, h.keeps, h.notes, h.seen⟩

/-- Nor does it if the plan could only just be made. -/
theorem of_map {x : Outcome (Plan α)} {f : α → Outcome β} {p : Plan β}
    (made : (do return (← x).map f) = Except.ok p) (h : ∀ p', x = .ok p' → p'.Sees m tenant look) :
    p.Sees m tenant look := by
  obtain ⟨p', there, made⟩ := Outcome.bind_eq_ok.mp made
  obtain rfl := Except.ok.inj made
  exact (h p' there).map f

theorem ofRows {s : Selection} (table : s.table = m.table) (tenant_eq : s.tenant = tenant)
    (read : List Row → Outcome α) : (Plan.ofRows m s read).Sees m tenant fun _ => [] :=
  ⟨rfl, table, tenant_eq, fun _ _ _ => rfl, fun _ _ mem => absurd mem List.not_mem_nil⟩

/-- A plan that reads documents, in all answers or in the first few. -/
theorem of_documents {p : Plan α} (first : List (List Record) → List (List Record))
    (mapping : p.mapping = m) (table : p.selection.table = m.table)
    (tenant_eq : p.selection.tenant = tenant) (documents : p.selection.projection = .documents)
    (whole : p.selection.existence = false) (part : ∀ groups, first groups ⊆ groups)
    (reads : ∀ {groups : List (List Record)} {answer : List Row},
      List.Forall₂ (fun group row => group ≠ [] ∧ ∀ r ∈ group, Library.Holds r row) groups answer →
      (∀ group ∈ first groups, ∀ r ∈ group, r.Faithful m) →
        ∀ vs, (p.read answer vs).2 = (m.sightings (first groups)).foldl Versions.note vs) :
    p.Sees m tenant fun groups => m.sightings (first groups) := by
  refine ⟨mapping, table, tenant_eq, fun faithful showing vs => ?_, fun showing e mem => ?_⟩
  · obtain ⟨shown, there⟩ := showing documents whole
    refine reads shown (fun group listed r among => ?_) vs
    exact faithful r (there group (part _ listed) r among).1
  · obtain ⟨-, there⟩ := showing documents whole
    obtain ⟨type, group, listed, among⟩ := Mapping.of_mem_sightings mem
    obtain ⟨inTable, own⟩ := there group (part _ listed) e.record among
    exact ⟨type, inTable, fun a same => own a (tenant_eq.trans same)⟩

theorem ofDocuments {s : Selection} (table : s.table = m.table) (tenant_eq : s.tenant = tenant)
    (documents : s.projection = .documents) (whole : s.existence = false) :
    (Plan.ofDocuments m s).Sees m tenant m.sightings :=
  of_documents id rfl table tenant_eq documents whole (fun _ => List.Subset.refl _)
    readDocuments_sighted

end Plan.Sees

/-! ### Queries -/

namespace Query

variable {q : Query} {scope : Scope}

/-- The tenant that a query keeps to. -/
def tenant? (q : Query) (a : String) : Option String :=
  if q.anyTenant then none else some a

theorem toSelection_scope {p : Projection} {s : Selection} (h : q.toSelection scope p = .ok s) :
    s.table = scope.mapping.table ∧ s.tenant = q.tenant? scope.tenant ∧ s.projection = p ∧
      s.existence = false := by
  obtain ⟨filters, -, h⟩ := Outcome.bind_eq_ok.mp h
  obtain ⟨order, -, h⟩ := Outcome.bind_eq_ok.mp h
  obtain rfl := Except.ok.inj h
  exact ⟨rfl, rfl, rfl, rfl⟩

theorem list_sees {p : Plan (List Document)} (h : q.list scope = .ok p) :
    p.Sees scope.mapping (q.tenant? scope.tenant) scope.mapping.sightings := by
  obtain ⟨s, selection, h⟩ := Outcome.bind_eq_ok.mp h
  obtain rfl := Except.ok.inj h
  obtain ⟨table, tenant, documents, whole⟩ := toSelection_scope selection
  exact .ofDocuments table tenant documents whole

theorem atMost_sees {n : Nat} {p : Plan (List Document)} (h : q.atMost n scope = .ok p) :
    p.Sees scope.mapping (q.tenant? scope.tenant) scope.mapping.sightings := by
  obtain ⟨p', listed, h⟩ := Outcome.bind_eq_ok.mp h
  obtain rfl := Except.ok.inj h
  obtain ⟨s, selection, listed⟩ := Outcome.bind_eq_ok.mp listed
  obtain rfl := Except.ok.inj listed
  obtain ⟨table, tenant, documents, whole⟩ := toSelection_scope selection
  exact .ofDocuments (s := s.atMost n) table tenant documents whole

theorem firstOrDefault_sees {p : Plan (Option Document)} (h : q.firstOrDefault scope = .ok p) :
    p.Sees scope.mapping (q.tenant? scope.tenant) scope.mapping.sightings :=
  .of_map h fun _ => atMost_sees

theorem singleOrDefault_sees {p : Plan (Option Document)} (h : q.singleOrDefault scope = .ok p) :
    p.Sees scope.mapping (q.tenant? scope.tenant) scope.mapping.sightings :=
  .of_map h fun _ => atMost_sees

/-- A plan that only looks at rows sees none of the table. -/
theorem ofRows_sees {α : Type} {p : Projection} {s s' : Selection} (read : List Row → Outcome α)
    (selection : q.toSelection scope p = .ok s) (table : s'.table = s.table)
    (tenant : s'.tenant = s.tenant) :
    (Plan.ofRows scope.mapping s' read).Sees scope.mapping (q.tenant? scope.tenant) fun _ => [] := by
  obtain ⟨table', tenant', -, -⟩ := toSelection_scope selection
  exact .ofRows (table.trans table') (tenant.trans tenant') read

theorem count_sees {p : Plan Nat} (h : q.count scope = .ok p) :
    p.Sees scope.mapping (q.tenant? scope.tenant) fun _ => [] := by
  obtain ⟨s, selection, h⟩ := Outcome.bind_eq_ok.mp h
  obtain rfl := Except.ok.inj h
  obtain ⟨table, tenant⟩ := unorderedUnlessPaged_scope s
  exact ofRows_sees _ selection table tenant

theorem any_sees {p : Plan Bool} (h : q.any scope = .ok p) :
    p.Sees scope.mapping (q.tenant? scope.tenant) fun _ => [] := by
  obtain ⟨s, selection, h⟩ := Outcome.bind_eq_ok.mp h
  obtain rfl := Except.ok.inj h
  exact ofRows_sees _ selection rfl rfl

theorem aggregate_sees {f : Sql.Aggregate} {m : Member} {p : Plan Value}
    (h : q.aggregate f m scope = .ok p) :
    p.Sees scope.mapping (q.tenant? scope.tenant) fun _ => [] := by
  obtain ⟨l, -, h⟩ := Outcome.bind_eq_ok.mp h
  obtain ⟨s, selection, h⟩ := Outcome.bind_eq_ok.mp h
  obtain rfl := Except.ok.inj h
  obtain ⟨table, tenant⟩ := unorderedUnlessPaged_scope s
  exact ofRows_sees _ selection table tenant

theorem select_sees {m : Member} {shape : Typed.Shape} {distinct : Bool} {p : Plan (List Value)}
    (h : q.select m shape distinct scope = .ok p) :
    p.Sees scope.mapping (q.tenant? scope.tenant) fun _ => [] := by
  obtain ⟨l, -, h⟩ := Outcome.bind_eq_ok.mp h
  obtain ⟨s, selection, h⟩ := Outcome.bind_eq_ok.mp h
  dsimp only at h
  split at h
  · cases h
  · obtain rfl := Except.ok.inj h
    exact ofRows_sees _ selection rfl rfl

end Query

/-! ### Reads -/

/-- What a read sees of the rows that answer it. -/
def Read.sightings (m : Mapping) (r : Read) (groups : List (List Record)) : List Sighting :=
  match r with
  | .load _ => m.sightings (groups.take 1)
  | .loadMany _ | .list _ | .first _ | .firstOrDefault _ | .single _ | .singleOrDefault _ =>
    m.sightings groups
  | .count _ | .any _ | .sum .. | .min .. | .max .. | .average .. | .select .. => []

section

variable {s : Session} {schema : Schema} {t : DocumentType}

theorem loadPlan_sees (id : DocumentId) :
    (s.loadPlan schema t id).Sees (schema.mapping t) (some s.tenant)
      fun groups => (schema.mapping t).sightings (groups.take 1) := by
  refine .of_documents (List.take 1) rfl rfl rfl rfl rfl (fun groups => List.take_subset 1 groups) ?_
  intro groups answer shown faithful vs
  exact readDocuments_sighted (List.forall₂_take 1 shown) faithful vs

theorem loadManyPlan_sees (ids : List DocumentId) :
    (s.loadManyPlan schema t ids).Sees (schema.mapping t) (some s.tenant)
      (schema.mapping t).sightings :=
  .ofDocuments rfl rfl rfl rfl

/-- Every read notes the versions of the rows that it sees. -/
theorem Read.plan_sees {r : Read} {p : Plan Found} (h : r.plan s schema t = .ok p) :
    p.Sees (schema.mapping t) (r.query.tenant? s.tenant) (r.sightings (schema.mapping t)) := by
  cases r with
  | load id =>
    obtain rfl := Except.ok.inj h
    exact (loadPlan_sees id).map _
  | loadMany ids =>
    obtain rfl := Except.ok.inj h
    exact (loadManyPlan_sees ids).map _
  | list q => exact .of_map h fun _ => Query.list_sees
  | first q => exact .of_map h fun _ made => .of_map made fun _ => Query.firstOrDefault_sees
  | firstOrDefault q => exact .of_map h fun _ => Query.firstOrDefault_sees
  | single q => exact .of_map h fun _ made => .of_map made fun _ => Query.singleOrDefault_sees
  | singleOrDefault q => exact .of_map h fun _ => Query.singleOrDefault_sees
  | count q => exact .of_map h fun _ => Query.count_sees
  | any q => exact .of_map h fun _ => Query.any_sees
  | sum q m shape => exact .of_map h fun _ made => .of_map made fun _ => Query.aggregate_sees
  | min q m shape => exact .of_map h fun _ made => .of_map made fun _ => Query.aggregate_sees
  | max q m shape => exact .of_map h fun _ made => .of_map made fun _ => Query.aggregate_sees
  | average q m => exact .of_map h fun _ made => .of_map made fun _ => Query.aggregate_sees
  | select q m shape distinct => exact .of_map h fun _ => Query.select_sees

end

/-! ### Calls -/

/-- The reads of a call that are sent. -/
def Call.reads : Call → List (DocumentType × Read)
  | .read _ (.loadMany []) => []
  | .read t r => [(t, r)]
  | .batch items => items
  | _ => []

theorem Call.reads_read {t : DocumentType} {r : Read} (asks : r ≠ .loadMany []) :
    (Call.read t r).reads = [(t, r)] := by
  cases r with
  | loadMany ids =>
    cases ids with
    | nil => exact absurd rfl asks
    | cons id ids => rfl
  | _ => rfl

/-- A read that could be planned. -/
structure Planned where
  type : DocumentType
  read : Read
  plan : Plan Found

namespace Session

/-- The reads that could be planned, in order. -/
def planned (s : Session) (schema : Schema) (items : List (DocumentType × Read)) : List Planned :=
  items.filterMap fun (t, r) => (r.plan s schema t).toOption.map (⟨t, r, ·⟩)

theorem planned_error {s : Session} {schema : Schema} {t : DocumentType} {r : Read} {f : Failure}
    (made : r.plan s schema t = .error f) : s.planned schema [(t, r)] = [] := by
  simp [planned, made, Except.toOption]

theorem planned_ok {s : Session} {schema : Schema} {t : DocumentType} {r : Read} {p : Plan Found}
    (made : r.plan s schema t = .ok p) : s.planned schema [(t, r)] = [⟨t, r, p⟩] := by
  simp [planned, made, Except.toOption]

theorem batchOf_eq (s : Session) (schema : Schema) (items : List (DocumentType × Read)) :
    s.batchOf schema items = ⟨(s.planned schema items).map (·.plan)⟩ := by
  rw [batchOf, plansOf, planned, List.filterMap_map, List.map_filterMap]
  congr 1
  refine List.filterMap_congr fun item _ => ?_
  obtain ⟨t, r⟩ := item
  show (r.plan s schema t).toOption =
    ((r.plan s schema t).toOption.map (Planned.mk t r)).map (·.plan)
  rw [Option.map_map]
  exact Option.map_id.symm ▸ rfl

theorem of_mem_planned {s : Session} {schema : Schema} {items : List (DocumentType × Read)}
    {x : Planned} (mem : x ∈ s.planned schema items) :
    (x.type, x.read) ∈ items ∧ x.read.plan s schema x.type = .ok x.plan := by
  obtain ⟨⟨t, r⟩, listed, made⟩ := List.mem_filterMap.mp mem
  obtain ⟨p, planned, rfl⟩ := Option.map_eq_some_iff.mp made
  refine ⟨listed, ?_⟩
  show r.plan s schema t = .ok p
  cases there : r.plan s schema t with
  | ok q =>
    rw [there] at planned
    exact congrArg _ (Option.some.inj planned)
  | error f =>
    rw [there] at planned
    cases planned

end Session

variable {σ : Type} (db : Database σ)

namespace Session

/-- The rows that reads sent together see, if they are answered. -/
noncomputable def sightedBy (s : Session) (w : World σ) (items : List (DocumentType × Read)) :
    List Sighting :=
  let planned := s.planned db.store.schema items
  let plans := planned.map (·.plan)
  match (db.store.fetch (plans.map (·.mapping))
      (.ofStatements db.dialect (plans.map (·.statement))) w).1 with
  | .ok _ =>
    let sources := db.library.sourcesOf db.dialect (plans.map (·.selection)) (db.committed w)
    (planned.zip sources).flatMap fun (x, groups) =>
      x.read.sightings (db.store.schema.mapping x.type) groups
  | .error _ => []

theorem sightedBy_of_unplanned {s : Session} {w : World σ} {items : List (DocumentType × Read)}
    (none : s.planned db.store.schema items = []) : s.sightedBy db w items = [] := by
  simp only [sightedBy, none]
  split <;> rfl

/-- The rows that a call sees. -/
noncomputable def sighted (s : Session) (w : World σ) (call : Call) : List Sighting :=
  s.sightedBy db w call.reads

end Session

variable {db}

theorem readSets_sighted {s : Session} {schema : Schema} {K : Content}
    {planned : List Planned} {pairs : List (List (List Record) × List Row)}
    (faithful : ∀ x ∈ planned, ∀ r ∈ K (schema.mapping x.type).table,
      r.Faithful (schema.mapping x.type))
    (made : ∀ x ∈ planned, x.read.plan s schema x.type = .ok x.plan)
    (shown : List.Forall₂ (fun x y => Showing x.plan.selection (K x.plan.selection.table) y.1 y.2)
      planned pairs) (vs : Versions) :
    (Batch.readSets (planned.map (·.plan)) (.ofList (pairs.map Prod.snd)) vs).2 =
      ((planned.zip (pairs.map Prod.fst)).flatMap fun (x, groups) =>
        x.read.sightings (schema.mapping x.type) groups).foldl Versions.note vs := by
  induction shown generalizing vs with
  | nil => rfl
  | @cons x pair planned pairs first _ ih =>
    have sees := Read.plan_sees (made x List.mem_cons_self)
    rw [sees.table] at first
    rw [List.map_cons, List.map_cons, List.map_cons, List.zip_cons_cons, List.flatMap_cons,
      List.foldl_append, ← sees.notes (faithful x List.mem_cons_self) first]
    exact ih (fun y mem => faithful y (List.mem_cons_of_mem _ mem))
      (fun y mem => made y (List.mem_cons_of_mem _ mem)) _

/-- A plan by itself is carried out as a batch of one. -/
theorem Session.run_session {α : Type} (store : Store σ) (p : Plan α) (s : Session) (w : World σ) :
    (s.run store p w).session = ((⟨[p]⟩ : Batch α).execute store s w).session := by
  have one : (⟨[p]⟩ : Batch α).command store.schema =
      Command.ofStatement store.driver.capability.dialect p.statement := rfl
  simp only [Session.run, Batch.execute, List.isEmpty_cons, Bool.false_eq_true, if_false, one,
    List.map_cons, List.map_nil]
  rcases store.fetch [p.mapping] (.ofStatement store.driver.capability.dialect p.statement) w with
    ⟨(f | _) | cursor, w'⟩
  · rfl
  · rfl
  · rfl

namespace Session

/-- Reads that are sent together note the versions of the rows that they see. -/
theorem execute_sighted {s : Session} {w : World σ} {items : List (DocumentType × Read)}
    (faithful : ∀ item ∈ items, ∀ r ∈ db.committed w (db.store.schema.mapping item.1).table,
      r.Faithful (db.store.schema.mapping item.1))
    (served : ∀ r ∈ reading (s.batchOf db.store.schema items).plans, db.Serves r) :
    ((s.batchOf db.store.schema items).execute db.store s w).session =
      { s with versions := (s.sightedBy db w items).foldl Versions.note s.versions } := by
  rw [batchOf_eq] at served ⊢
  obtain ⟨asked, created⟩ := forall_mem_reading.mp served
  have fetched := Database.Yields.fetch created asked w rfl
  have mem {x : Planned} (h : x ∈ s.planned db.store.schema items) := of_mem_planned h
  simp only [sightedBy]
  generalize s.planned db.store.schema items = planned at *
  have command : (⟨planned.map (·.plan)⟩ : Batch Found).command db.store.schema =
      .ofStatements db.dialect ((planned.map (·.plan)).map (·.statement)) := Batch.command_eq _ _
  simp only [Batch.execute, command]
  by_cases none : (planned.map (·.plan)).isEmpty
  -- nothing is sent, and nothing seen
  · obtain rfl := List.map_eq_nil_iff.mp (List.isEmpty_iff.mp none)
    rw [if_pos none]
    split <;> rfl
  · rw [if_neg none]
    rcases answered : db.store.fetch ((planned.map (·.plan)).map (·.mapping))
      (.ofStatements db.dialect ((planned.map (·.plan)).map (·.statement))) w with
      ⟨(f | _) | cursor, w'⟩
    · simp only [answered]
      rfl
    · simp only [answered]
      rfl
    · rw [answered] at fetched
      obtain rfl := fetched.2 cursor rfl
      simp only [answered]
      obtain ⟨pairs, sources, answers, shown⟩ := db.library.sourcesOf_answers db.dialect
        ((planned.map (·.plan)).map (·.selection)) (db.committed w)
      have statements : (planned.map (·.plan)).map (·.statement) =
          ((planned.map (·.plan)).map (·.selection)).map .select := by
        rw [List.map_map, List.map_map, List.map_map]
        rfl
      rw [List.map_map, List.forall₂_map_left_iff] at shown
      simp only [statements, answers, sources]
      rw [readSets_sighted (fun x h => faithful _ (mem h).1) (fun x h => (mem h).2) shown]

/-- What a call sees are rows of the tables that it reads. -/
theorem of_mem_sighted {s : Session} {w : World σ} {call : Call} {e : Sighting}
    (h : e ∈ s.sighted db w call) :
    ∃ item ∈ call.reads, e.Of (db.store.schema.mapping item.1)
      (db.committed w (db.store.schema.mapping item.1).table) (item.2.query.tenant? s.tenant) := by
  simp only [sighted, sightedBy] at h
  split at h
  · obtain ⟨⟨x, groups⟩, paired, among⟩ := List.mem_flatMap.mp h
    obtain ⟨listed, made⟩ := of_mem_planned (List.of_mem_zip paired).1
    obtain ⟨pairs, sources, -, shown⟩ := db.library.sourcesOf_answers db.dialect
      (((s.planned db.store.schema call.reads).map (·.plan)).map (·.selection)) (db.committed w)
    rw [List.map_map, List.forall₂_map_left_iff] at shown
    rw [sources, List.zip_map_right] at paired
    obtain ⟨⟨y, pair⟩, both, same⟩ := List.mem_map.mp paired
    obtain ⟨rfl, rfl⟩ : y = x ∧ pair.1 = groups := Prod.mk.inj same
    have sees := Read.plan_sees made
    have showing := (List.forall₂_iff_zip.mp shown).2 both
    rw [Function.comp_apply, sees.table] at showing
    exact ⟨_, listed, sees.seen showing e among⟩
  · cases h

/-- A call that reads does nothing to the session but note the versions of the rows that it sees. -/
theorem perform_sighted {s : Session} {w : World σ} {call : Call} (isRead : call.isRead = true)
    (faithful : ∀ item ∈ call.reads, ∀ r ∈ db.committed w (db.store.schema.mapping item.1).table,
      r.Faithful (db.store.schema.mapping item.1))
    (served : ∀ r ∈ call.requests db.store.schema s, db.Serves r) :
    (s.perform db.store call w).session =
      { s with versions := (s.sighted db w call).foldl Versions.note s.versions } := by
  cases call with
  | batch items => exact execute_sighted faithful served
  | read t r =>
    by_cases empty : r = .loadMany []
    · subst empty
      rw [sighted, Call.reads, sightedBy_of_unplanned db rfl]
      rfl
    · rw [perform_read db.store empty, sighted, Call.reads_read empty]
      rw [Call.reads_read empty] at faithful
      cases made : r.plan s db.store.schema t with
      | error f =>
        rw [sightedBy_of_unplanned db (planned_error made)]
        rfl
      | ok p =>
        have batch : s.batchOf db.store.schema [(t, r)] = ⟨[p]⟩ := by
          rw [batchOf_eq, planned_ok made]
          rfl
        simp only [Call.requests, made] at served
        have sighted := execute_sighted faithful (by rwa [batch])
        rw [batch, ← run_session] at sighted
        exact sighted
  | _ => cases isRead

end Session

end Folio
