import Folio.Proofs.Versions.Sighted

/-!
# Folio.Proofs.Versions.Tenants

Whose version a write expects.

A version is filed under the type and the identity of its document (`DocumentKey`), while a row is
found by its tenant and its identity (`Record.key`). So a session that reads all tenants files the
versions of different rows in the same place, and the row that it saw last decides
(`Session.versionOf_afterReads`).

* `Session.expects_own`: a session that keeps to its tenant expects the version of its own row.
* `Session.expects_own_iff`: any session does, unless it saw another tenant's row of that identity
  after its own, at another version.
-/

namespace Folio

open Folio.Database
open Folio.Relational
open Folio.Statement (StoredDocument)
open Folio.Time (Timestamp)

/-! ### What was seen last -/

/-- The version of the row that was seen last under the key. -/
def lastSeen (seen : List Sighting) (key : DocumentKey) : Option Int64 :=
  (seen.reverse.find? (·.key = key)).map (·.record.version)

/-- The version of the tenant's own row of that key, as it was seen last. -/
def lastOwn (seen : List Sighting) (key : DocumentKey) (a : String) : Option Int64 :=
  (seen.reverse.find? fun e => e.key = key ∧ e.record.tenant = a).map (·.record.version)

/-- The row that was seen last is another tenant's, and not at the version that is known of the
tenant's own. -/
def Overtaken (seen : List Sighting) (key : DocumentKey) (a : String) (known : Option Int64) : Prop :=
  ∃ e, seen.reverse.find? (·.key = key) = some e ∧ e.record.tenant ≠ a ∧
    some e.record.version ≠ (lastOwn seen key a).or known

/-- Of the versions that are noted under a key the last one stays. -/
theorem get?_foldl_note (seen : List Sighting) (key : DocumentKey) (vs : Versions) :
    (seen.foldl Versions.note vs).get? key = (lastSeen seen key).or (vs.get? key) := by
  induction seen using List.reverseRecOn with
  | nil => rfl
  | append_singleton seen e ih =>
    rw [List.foldl_append, lastSeen, List.reverse_append, List.reverse_singleton,
      List.singleton_append, List.find?_cons]
    by_cases here : e.key = key
    · subst here
      simp only [decide_true]
      exact Versions.get?_put_self ..
    · simp only [here, decide_false]
      exact (Versions.get?_put_of_ne _ (Ne.symm here)).trans ih

/-- Where the row that was seen last is the tenant's own, it is the own row that was seen last. -/
theorem lastOwn_of_own {seen : List Sighting} {key : DocumentKey} {e : Sighting}
    (last : seen.reverse.find? (·.key = key) = some e) :
    lastOwn seen key e.record.tenant = some e.record.version := by
  obtain ⟨here, before, after, split, none⟩ := List.find?_eq_some_iff_append.mp last
  have own : seen.reverse.find? (fun x => x.key = key ∧ x.record.tenant = e.record.tenant) =
      some e := by
    refine List.find?_eq_some_iff_append.mpr ⟨?_, before, after, split, fun x mem => ?_⟩
    · simpa using here
    · have other : ¬x.key = key := by simpa using none x mem
      simp [other]
  rw [lastOwn, own]
  rfl

/-- The last version is that of the tenant's own row, unless that was overtaken. -/
theorem lastSeen_eq_lastOwn_iff (seen : List Sighting) (key : DocumentKey) (a : String)
    (known : Option Int64) :
    (lastSeen seen key).or known = (lastOwn seen key a).or known ↔ ¬Overtaken seen key a known := by
  cases last : seen.reverse.find? (·.key = key) with
  | none =>
    have unseen : lastOwn seen key a = none := by
      rw [lastOwn, Option.map_eq_none_iff, List.find?_eq_none]
      intro x mem
      have other : ¬x.key = key := by simpa using List.find?_eq_none.mp last x mem
      simp [other]
    rw [lastSeen, last, unseen]
    refine iff_of_true rfl fun h => ?_
    obtain ⟨e, found, -⟩ := h
    rw [last] at found
    cases found
  | some e =>
    have here : lastSeen seen key = some e.record.version := by
      rw [lastSeen, last]
      rfl
    rw [here, Option.some_or]
    constructor
    · intro same h
      obtain ⟨e', found, -, differs⟩ := h
      rw [last] at found
      obtain rfl := Option.some.inj found
      exact differs same
    · intro kept
      by_cases own : e.record.tenant = a
      · subst own
        rw [lastOwn_of_own last, Option.some_or]
      · by_contra differs
        exact kept ⟨e, last, own, differs⟩

/-! ### Sessions that read -/

variable {σ : Type}

namespace Session

/-- The session after calls, each of which finds the world that is given with it. -/
def afterReads (store : Store σ) (s : Session) : List (World σ × Call) → Session
  | [] => s
  | (w, call) :: rest => (s.perform store call w).session.afterReads store rest

variable (db : Database σ)

/-- The rows that calls see, one after the other. Which they are does not depend on the versions that
the session knows. -/
noncomputable def sightings (s : Session) (reads : List (World σ × Call)) : List Sighting :=
  reads.flatMap fun (w, call) => s.sighted db w call

/-- A call that only reads, is served, and reads tables whose rows hold their documents. -/
structure Observes (s : Session) (read : World σ × Call) : Prop where
  isRead : read.2.isRead = true
  served : ∀ r ∈ read.2.requests db.store.schema s, db.Serves r
  faithful : ∀ item ∈ read.2.reads,
    ∀ r ∈ db.committed read.1 (db.store.schema.mapping item.1).table,
      r.Faithful (db.store.schema.mapping item.1)

variable {db} {s : Session} {reads : List (World σ × Call)} {t : DocumentType}

/-- What a call asks does not depend on the versions known. -/
theorem requests_with (schema : Schema) (vs : Versions) (call : Call) :
    call.requests schema { s with versions := vs } = call.requests schema s := by
  cases call <;> rfl

/-- Reads note the versions of the rows that they see, and change nothing else. -/
theorem afterReads_eq (observes : ∀ read ∈ reads, s.Observes db read) :
    s.afterReads db.store reads =
      { s with versions := (s.sightings db reads).foldl Versions.note s.versions } := by
  induction reads generalizing s with
  | nil => rfl
  | cons read rest ih =>
    obtain ⟨isRead, served, faithful⟩ := observes read List.mem_cons_self
    rw [afterReads, perform_sighted isRead faithful served, ih, sightings, sightings,
      List.flatMap_cons, List.foldl_append]
    · rfl
    · intro later mem
      obtain ⟨isRead, served, faithful⟩ := observes later (List.mem_cons_of_mem _ mem)
      refine ⟨isRead, ?_, faithful⟩
      rwa [requests_with]

theorem pending_afterReads (observes : ∀ read ∈ reads, s.Observes db read) :
    (s.afterReads db.store reads).pending = s.pending := by
  rw [afterReads_eq observes]

/-- The version that the session knows is that of the row that it saw last. -/
theorem versionOf_afterReads (observes : ∀ read ∈ reads, s.Observes db read) (id : DocumentId) :
    (s.afterReads db.store reads).versionOf t id =
      (lastSeen (s.sightings db reads) ⟨t.name, id⟩).or (s.versionOf t id) := by
  rw [afterReads_eq observes]
  exact get?_foldl_note ..

/-- Rows of other tenants are seen by queries only that ask for all tenants. -/
theorem tenant_of_mem_sightings
    (own : ∀ read ∈ reads, ∀ item ∈ read.2.reads, item.2.query.anyTenant = false) {e : Sighting}
    (h : e ∈ s.sightings db reads) : e.record.tenant = s.tenant := by
  obtain ⟨read, listed, mem⟩ := List.mem_flatMap.mp h
  obtain ⟨item, among, seen⟩ := of_mem_sighted mem
  refine seen.own s.tenant ?_
  rw [Query.tenant?, own read listed item among]
  rfl

end Session

/-! ### Writes -/

/-- A write of the document that expects its row to be at a version, if it expects one. -/
inductive PendingWrite.Expects (id : DocumentId) (expected : Option Int64) : PendingWrite → Prop
  | update {m : Mapping} {stored : StoredDocument} :
      Expects id expected ⟨m, .update id expected, .update ⟨m.table, stored, expected⟩⟩
  | store {m : Mapping} {stored : StoredDocument} {revive : Bool} :
      Expects id expected ⟨m, .upsert id expected, .upsert ⟨m.table, stored, expected, revive⟩⟩

namespace Session

variable {db : Database σ} {s queued : Session} {reads : List (World σ × Call)} {t : DocumentType}
  {now : Timestamp} {doc : Document}

/-- What an update or a store queues, where no write of the document is queued yet. -/
theorem expects_versionOf {schema : Schema} (optimistic : (schema.mapping t).optimistic = true)
    (unwritten : ∀ p ∈ s.pending, ¬isWriteOf (schema.mapping t) doc.id p = true)
    (written : s.update schema t now doc = .ok queued ∨ s.store schema t now doc = .ok queued) :
    ∃ p, queued = s.push p ∧ p.Expects doc.id (s.versionOf t doc.id) := by
  have expected : s.expectedVersion (schema.mapping t) doc.id = s.versionOf t doc.id := by
    have none : s.pending.reverse.find? (isWriteOf (schema.mapping t) doc.id) = none :=
      List.find?_eq_none.mpr fun p mem => unwritten p (List.mem_reverse.mp mem)
    rw [expectedVersion, if_pos optimistic, none, schema.mapping_typeName t]
    rfl
  rcases written with updated | stored
  · obtain ⟨stored, -, made⟩ := Outcome.bind_eq_ok.mp updated
    obtain rfl := Except.ok.inj made
    rw [← expected]
    exact ⟨_, rfl, .update⟩
  · obtain ⟨stored, -, made⟩ := Outcome.bind_eq_ok.mp stored
    obtain rfl := Except.ok.inj made
    rw [← expected]
    exact ⟨_, rfl, .store⟩

/-- While all queries keep to the tenant, the version that a write of a document expects is that of
the tenant's own row as it was read last, or else known before. -/
theorem expects_own (optimistic : (db.store.schema.mapping t).optimistic = true)
    (unwritten : ∀ p ∈ s.pending, ¬isWriteOf (db.store.schema.mapping t) doc.id p = true)
    (observes : ∀ read ∈ reads, s.Observes db read)
    (own : ∀ read ∈ reads, ∀ item ∈ read.2.reads, item.2.query.anyTenant = false)
    (written : (s.afterReads db.store reads).update db.store.schema t now doc = .ok queued ∨
      (s.afterReads db.store reads).store db.store.schema t now doc = .ok queued) :
    ∃ p, queued = (s.afterReads db.store reads).push p ∧
      p.Expects doc.id ((lastOwn (s.sightings db reads) ⟨t.name, doc.id⟩ s.tenant).or
        (s.versionOf t doc.id)) := by
  obtain ⟨p, pushed, expects⟩ := expects_versionOf optimistic (by rwa [pending_afterReads observes]) written
  have kept : ¬Overtaken (s.sightings db reads) ⟨t.name, doc.id⟩ s.tenant (s.versionOf t doc.id) := by
    intro h
    obtain ⟨e, last, foreign, -⟩ := h
    exact foreign (tenant_of_mem_sightings own (List.mem_reverse.mp (List.mem_of_find?_eq_some last)))
  rw [versionOf_afterReads observes, (lastSeen_eq_lastOwn_iff ..).mpr kept] at expects
  exact ⟨p, pushed, expects⟩

/-- After any reads, those of all tenants included, the version that a write of a document expects is
that of the tenant's own row as it was read last, or else known before, exactly if that row was not
overtaken by another tenant's row of the same identity. -/
theorem expects_own_iff (optimistic : (db.store.schema.mapping t).optimistic = true)
    (unwritten : ∀ p ∈ s.pending, ¬isWriteOf (db.store.schema.mapping t) doc.id p = true)
    (observes : ∀ read ∈ reads, s.Observes db read)
    (written : (s.afterReads db.store reads).update db.store.schema t now doc = .ok queued ∨
      (s.afterReads db.store reads).store db.store.schema t now doc = .ok queued) :
    ∃ p expected, queued = (s.afterReads db.store reads).push p ∧ p.Expects doc.id expected ∧
      (expected = (lastOwn (s.sightings db reads) ⟨t.name, doc.id⟩ s.tenant).or
          (s.versionOf t doc.id) ↔
        ¬Overtaken (s.sightings db reads) ⟨t.name, doc.id⟩ s.tenant (s.versionOf t doc.id)) := by
  obtain ⟨p, pushed, expects⟩ := expects_versionOf optimistic (by rwa [pending_afterReads observes]) written
  refine ⟨p, _, pushed, expects, ?_⟩
  rw [versionOf_afterReads observes]
  exact lastSeen_eq_lastOwn_iff ..

end Session

namespace Orders

/-- The order as a row of a tenant holds it. -/
def rowOf (tenant : String) (version : Int64) : Record :=
  ⟨.int32 7, stored.data, version, .epoch, "order", tenant, false, none⟩

/-- The library answers the rows of one tenant before those of others. -/
noncomputable def sorting : Library where
  __ := Library.bare
  arrange _ rows := (rows.filter (·.tenant = "a")).toList ++ (rows.filter (·.tenant ≠ "a")).toList
  arrange_coe _ rows := by
    rw [← Multiset.coe_add, Multiset.coe_toList, Multiset.coe_toList]
    exact Multiset.filter_add_not _ rows

/-- The order loaded, and the orders of all tenants listed. -/
def lookingAround : List Call :=
  [.read type (.load (.int32 7)), .read type (.list { anyTenant := true })]

def schema : Schema :=
  { dialect := .sqlite, options := {} }

def loading : Statement :=
  .select (({ tenant := "a" : Session }.loadPlan schema type (.int32 7)).selection)

def listingAll : Statement :=
  .select { table := mapping.table, projection := .documents, tenant := none }

/-- The statement of the first read binds values, that of the second none. -/
def asked? : Operation → Option Request
  | .query c => some (.read [if c.params.isEmpty then listingAll else loading])
  | .execute _ => some (creation mapping)
  | _ => none

noncomputable def shared : Database Contents :=
  sorting.database .sqlite {} asked? refused

/-- Two tenants have the order, at different versions. -/
noncomputable def contested : World Contents where
  state := ⟨fun _ => {rowOf "a" 3, rowOf "b" 9}, fun _ => {rowOf "a" 3, rowOf "b" 9}⟩

theorem shared_schema : shared.store.schema = schema := rfl

/-- All rows hold the order. -/
theorem contested_faithful : ∀ r ∈ shared.committed contested mapping.table, r.Faithful mapping := by
  intro r mem doc read
  have both : r ∈ ({rowOf "a" 3, rowOf "b" 9} : Table) := mem
  have holds : r.data = stored.data ∧ r.id = order.id := by
    rcases Multiset.mem_cons.mp both with rfl | other
    · exact ⟨rfl, rfl⟩
    · obtain rfl := Multiset.mem_singleton.mp other
      exact ⟨rfl, rfl⟩
  rw [holds.1] at read
  rw [← Except.ok.inj (stored_read.symm.trans read), holds.2]

/-- What is asked by looking around. -/
theorem lookingAround_requests :
    lookingAround.flatMap (·.requests schema { tenant := "a" }) =
      [.read [loading], creation mapping, .read [listingAll], creation mapping] := rfl

/-- It is answered. -/
theorem lookingAround_served : ∀ call ∈ lookingAround,
    ∀ r ∈ call.requests schema { tenant := "a" }, shared.Serves r := by
  intro call listed r asked
  have among := List.mem_flatMap.mpr ⟨call, listed, asked⟩
  rw [lookingAround_requests] at among
  have known : asked? (r.operation .sqlite) = some r := by
    simp only [List.mem_cons, List.not_mem_nil, or_false] at among
    rcases among with rfl | rfl | rfl | rfl <;> rfl
  have answers : shared.Answers refused r := Library.database_answers known
  exact answers.serves

theorem lookingAround_observed : ∀ read ∈ lookingAround.map (contested, ·),
    ({ tenant := "a" } : Session).Observes shared read := by
  intro read mem
  obtain ⟨call, listed, rfl⟩ := List.mem_map.mp mem
  have served := lookingAround_served call listed
  rw [← shared_schema] at served
  simp only [lookingAround, List.mem_cons, List.not_mem_nil, or_false] at listed
  rcases listed with rfl | rfl
  · exact ⟨rfl, served, List.forall_mem_singleton.mpr contested_faithful⟩
  · exact ⟨rfl, served, List.forall_mem_singleton.mpr contested_faithful⟩

theorem sorting_own (keys : List ((Record → Value) × Sql.Direction)) (v : Int64) :
    sorting.arrange keys {rowOf "a" v} = [rowOf "a" v] := by
  simp [sorting, rowOf, Multiset.filter_singleton]

theorem sorting_both (keys : List ((Record → Value) × Sql.Direction)) (v w : Int64) :
    sorting.arrange keys {rowOf "a" v, rowOf "b" w} = [rowOf "a" v, rowOf "b" w] := by
  simp [sorting, rowOf, Multiset.insert_eq_cons, Multiset.filter_singleton]

/-- The own row is seen twice, and then that of the other tenant. -/
theorem lookingAround_sightings :
    ({ tenant := "a" } : Session).sightings shared (lookingAround.map (contested, ·)) =
      [⟨"Order", rowOf "a" 3⟩, ⟨"Order", rowOf "a" 3⟩, ⟨"Order", rowOf "b" 9⟩] := by
  have loaded : ({ tenant := "a" } : Session).sighted shared contested (.read type (.load (.int32 7))) =
      mapping.sightings (((sorting.arrange [] {rowOf "a" 3}).map ([·])).take 1) ++ [] := rfl
  have listed : ({ tenant := "a" } : Session).sighted shared contested
      (.read type (.list { anyTenant := true })) =
        mapping.sightings ((sorting.arrange [] {rowOf "a" 3, rowOf "b" 9}).map ([·])) ++ [] := rfl
  have reads (a : String) (v : Int64) : mapping.reads (rowOf a v) = true :=
    congrArg Except.isOk stored_read
  rw [sorting_own] at loaded
  rw [sorting_both] at listed
  simp only [Session.sightings, lookingAround, List.map_cons, List.map_nil, List.flatMap_cons,
    List.flatMap_nil, loaded, listed, List.take_succ_cons, List.take_zero, Mapping.sightings_cons,
    Mapping.sightings_nil, List.all_cons, List.all_nil, reads]
  rfl

/-- After looking around, an update of the order does not expect the version of the own row. -/
theorem expects_own_iff_lookingAround : ∃ p : PendingWrite, ∃ expected,
    p.Expects order.id expected ∧ expected ≠ some 3 := by
  obtain ⟨p, expected, -, expects, own⟩ := @Session.expects_own_iff Contents shared { tenant := "a" } _
    (lookingAround.map (contested, ·)) type .epoch order rfl
    (fun _ mem => absurd mem List.not_mem_nil) lookingAround_observed (.inl rfl)
  rw [lookingAround_sightings] at own
  refine ⟨p, expected, expects, fun kept => own.mp kept ?_⟩
  exact ⟨⟨"Order", rowOf "b" 9⟩, rfl, by decide, by decide⟩

end Orders

end Folio
