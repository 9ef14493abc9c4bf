import Folio.Proofs.Versions.Noted

/-!
# Folio.Proofs.Versions.Moves

Everything that a call on one type of documents can do, to the session and to what is committed
(`Moves`). That it does nothing else, `Session.perform_moves` says once; what is said of runs is
said of moves.
-/

namespace Folio

open Folio.Database
open Folio.Relational
open Folio.Statement

variable {σ : Type}

/-! ### Reads -/

/-- What is committed answers the plans that are the tenant's, each with a possible answer. -/
theorem answers_of_reads {α : Type} {L : Library} {d : Sql.Dialect} {m : Mapping} {a : String}
    {K : Content} {tells : α → List DocumentId → Prop} {plans : List (Plan α)}
    (reads : ∀ p ∈ plans, p.Reads m a (K m.table) tells) :
    List.Forall₂ (fun p answer => Answers p.selection a (K m.table) answer) plans
      (L.answers d (plans.map (·.statement)) K) := by
  have answered := L.answers_eq d (plans.map (·.selection)) K
  rw [List.map_map] at answered
  have pairs := List.forall₂_map_left_iff.mp answered
  have own := (List.forall₂_and_left plans _).mpr ⟨reads, pairs⟩
  refine own.imp ?_
  intro p answer h documents whole
  obtain ⟨reading, before, params, grown, rfl⟩ := h
  rw [Library.tableOfQuery_toQuery, reading.own.table]
  exact L.documents_answer before documents whole reading.own.tenant grown _

/-- The documents in answers. -/
def documentsIn (answers : List (Outcome Found)) : List Document :=
  (Told.batch answers).documents

theorem documentsIn_cons (f : Found) (answers : List (Outcome Found)) :
    documentsIn (.ok f :: answers) = f.all ++ documentsIn answers := rfl

/-- Were all answers of a batch given? -/
def Told.Whole : Told → Prop
  | .batch answers => ∀ x ∈ answers, ∃ f, x = .ok f
  | .nothing | .found _ => True

theorem readSets_noted {m : Mapping} {a : String} {rows : Table} {plans : List (Plan Found)}
    (reads : ∀ p ∈ plans, p.Reads m a rows Found.Tells) {sets : List (List Row)}
    (possible : List.Forall₂ (fun p set => Answers p.selection a rows set) plans sets)
    (vs : Versions) :
    ∃ seen, Noted m a (versionsAt rows) seen vs (Batch.readSets plans (.ofList sets) vs).2 ∧
      (Batch.readSets plans (.ofList sets) vs).1.length = plans.length ∧
      ((Told.batch (Batch.readSets plans (.ofList sets) vs).1).Whole →
        seen = (documentsIn (Batch.readSets plans (.ofList sets) vs).1).map (·.id)) := by
  induction possible generalizing vs with
  | nil => exact ⟨[], .nil, rfl, fun _ => rfl⟩
  | @cons p set plans sets first _ ih =>
    obtain ⟨seen, noted, told⟩ := (reads p List.mem_cons_self).notes set first vs
    obtain ⟨more, later, length, rest⟩ :=
      ih (fun q mem => reads q (List.mem_cons_of_mem _ mem)) (p.read set vs).2
    refine ⟨seen ++ more, noted.trans later, congrArg (· + 1) length, fun whole => ?_⟩
    obtain ⟨f, found⟩ := whole (p.read set vs).1 List.mem_cons_self
    rw [told f found, rest fun x mem => whole x (List.mem_cons_of_mem _ mem)]
    have answers : (Batch.readSets (p :: plans) (.ofList (set :: sets)) vs).1 =
        .ok f :: (Batch.readSets plans (.ofList sets) (p.read set vs).2).1 := by
      rw [← found]
      rfl
    rw [answers, documentsIn_cons, List.map_append]

/-- Where all answers are given, none was rejected. -/
theorem withRejected_of_whole {plans : List (Outcome (Plan Found))} {answers : List (Outcome Found)}
    (length : answers.length = (plans.filterMap Except.toOption).length)
    (whole : (Told.batch (withRejected plans answers)).Whole) :
    withRejected plans answers = answers := by
  induction plans generalizing answers with
  | nil =>
    obtain rfl := List.length_eq_zero_iff.mp length
    rfl
  | cons plan rest ih =>
    cases plan with
    | error f =>
      obtain ⟨_, impossible⟩ := whole (.error f) List.mem_cons_self
      cases impossible
    | ok p =>
      cases answers with
      | nil => cases length
      | cons answer answers =>
        have tail := ih (Nat.succ.inj length) fun x mem => whole x (List.mem_cons_of_mem _ mem)
        rw [withRejected, tail]

/-! ### Calls on one type -/

/-- The stored form of the document holds its identity. -/
def Document.Faithful (doc : Document) (m : Mapping) (t : DocumentType) : Prop :=
  ∀ text, doc.write t = .ok text → Stores m doc.id text

namespace Call

/-- Is it a call about documents of this type, none of other tenants? -/
def About (schema : Schema) (t : DocumentType) : Call → Prop
  | .read t' r => t' = t ∧ r.query.anyTenant = false
  | .batch items => ∀ item ∈ items, item.1 = t ∧ item.2.query.anyTenant = false
  | .insert t' _ doc | .update t' _ doc | .store t' _ doc =>
    t' = t ∧ doc.Faithful (schema.mapping t) t
  | .delete t' _ id | .hardDelete t' id => t' = t ∧ id.kind = (schema.mapping t).idKind
  | .deleteWhere t' _ _ | .undeleteWhere t' _ => t' = t
  | .discard | .save => True

/-- Does the call read documents? -/
def isRead : Call → Bool
  | .read .. | .batch _ => true
  | _ => false

/-- What the call queues, if it queues a write. -/
def kind (m : Mapping) (s : Session) : Call → Option WriteKind
  | .insert _ _ doc => some (.insert doc.id)
  | .update _ _ doc => some (.update doc.id (s.expectedVersion m doc.id))
  | .store _ _ doc => some (.upsert doc.id (s.expectedVersion m doc.id))
  | .delete _ _ id | .hardDelete _ id => some (.delete id)
  | .deleteWhere .. | .undeleteWhere .. => some .bulk
  | .read .. | .batch _ | .discard | .save => none

end Call

/-- How a call on a session can end that is about the documents of one mapping: with which
result, session and contents. -/
inductive Moves (L : Library) (d : Sql.Dialect) (m : Mapping) (s : Session) (K : Content) :
    Call → Except Halt Told → Session → Content → Prop
  | read {call : Call} {result : Except Halt Told} {seen : List DocumentId} {vs : Versions} :
      call.isRead = true →
      Noted m s.tenant (versionsAt (K m.table)) seen s.versions vs →
      (∀ told, result = .ok told → told.Whole → seen = told.documents.map (·.id)) →
      Moves L d m s K call result { s with versions := vs } K
  | queued {call : Call} {p : PendingWrite} :
      call.kind m s = some p.kind → Written m s.tenant p →
      Moves L d m s K call (.ok .nothing) (s.push p) K
  | rejected {call : Call} {f : Failure} : (call.kind m s).isSome →
      Moves L d m s K call (.error (.failed f)) s K
  | discarded : Moves L d m s K .discard (.ok .nothing) s.discardChanges K
  | saved {K' : Content} : Carries L d s.pending K K' →
      Moves L d m s K .save (.ok .nothing) s.saved K'
  | unsaved {halt : Halt} : Moves L d m s K .save (.error halt) s K

namespace Session

variable {db : Database σ} {t : DocumentType} {s : Session} {w : World σ}

/-- A write that could be queued has been, and else nothing has happened. -/
theorem moves_of_queued {m : Mapping} {call : Call} {x : Outcome Session}
    (queues : (call.kind m s).isSome)
    (pushed : ∀ s', x = .ok s' →
      ∃ p, s' = s.push p ∧ call.kind m s = some p.kind ∧ Written m s.tenant p) :
    Moves db.library db.dialect m s (db.committed w) call (s.queued w x).result
      (s.queued w x).session (db.committed (s.queued w x).world) := by
  cases x with
  | ok s' =>
    obtain ⟨p, rfl, same, written⟩ := pushed s' rfl
    exact .queued same written
  | error f => exact .rejected queues

/-- A document that was queued has a stored form. -/
theorem pushed_of_stored {m : Mapping} {now : Time.Timestamp} {doc : Document}
    {f : StoredDocument → PendingWrite} {s' : Session} (faithful : doc.Faithful m t)
    (h : (do
      let stored ← s.storedDocument t m now doc
      return s.push (f stored)) = Except.ok s') :
    ∃ text, Stores m doc.id text ∧
      s' = s.push (f ⟨doc.id.toValue, text, m.typeAlias, s.tenant, now⟩) := by
  obtain ⟨stored, storable, h⟩ := Outcome.bind_eq_ok.mp h
  obtain ⟨text, written, storable⟩ := Outcome.bind_eq_ok.mp storable
  obtain rfl := Except.ok.inj storable
  exact ⟨text, faithful text written, (Except.ok.inj h).symm⟩

/-- What a read leaves behind: the versions that it noted, and nothing else. -/
structure Notes (db : Database σ) (m : Mapping) (s : Session) (w : World σ) {α : Type}
    (ended : Ended σ α) (tells : α → List DocumentId → Prop) : Prop where
  committed_eq : db.committed ended.world = db.committed w
  noted : ∃ seen vs, ended.session = { s with versions := vs } ∧
    Noted m s.tenant (versionsAt (db.committed w m.table)) seen s.versions vs ∧
    ∀ x, ended.result = .ok x → tells x seen

/-- A read that has no answer notes nothing. -/
theorem Notes.failed {m : Mapping} {α : Type} {tells : α → List DocumentId → Prop}
    {halt : Halt} {w' : World σ} (same : db.committed w' = db.committed w) :
    Notes db m s w (⟨.error halt, s, w'⟩ : Ended σ α) tells :=
  ⟨same, [], s.versions, rfl, .nil, nofun⟩

variable {m : Mapping}

theorem run_notes {α : Type} {p : Plan α} {tells : α → List DocumentId → Prop}
    (reads : p.Reads m s.tenant (db.committed w m.table) tells)
    (served : ∀ r ∈ reading [p], db.Serves r) :
    Notes db m s w (s.run db.store p w) tells := by
  obtain ⟨asked, created⟩ := forall_mem_reading.mp served
  have fetched := Database.Yields.fetch created asked w rfl
  rw [List.map_singleton, List.map_singleton, Command.ofStatements_singleton] at fetched
  rw [run]
  rcases answered : db.store.fetch [p.mapping] (.ofStatement db.dialect p.statement) w with
    ⟨halt | cursor, w'⟩
  · rw [answered] at fetched
    simp only [Database.dialect] at answered
    simp only [answered]
    exact .failed fetched.1
  · rw [answered] at fetched
    obtain ⟨same, yields⟩ := fetched
    have own : ∀ q ∈ [p], q.Reads m s.tenant (db.committed w m.table) tells := by
      intro q mem
      obtain rfl := List.mem_singleton.mp mem
      exact reads
    -- the only result set is the answer to the plan
    have possible := answers_of_reads (L := db.library) (d := db.dialect) own
    obtain rfl := yields cursor rfl
    obtain ⟨set, sets, first, -, answers⟩ := List.forall₂_cons_left_iff.mp possible
    obtain ⟨seen, noted, told⟩ := reads.notes set first s.versions
    have current : (Cursor.ofList (db.library.answers db.dialect [p.statement]
        (db.committed w))).takeCurrent.1 = .ok set := by
      have same : db.library.answers db.dialect [p.statement] (db.committed w) = set :: sets :=
        answers
      rw [same]
      rfl
    simp only [Database.dialect] at answered current
    simp only [answered, current, Plan.readSet]
    refine ⟨same, seen, _, rfl, noted, fun x read => told x ?_⟩
    cases result : (p.read set s.versions).1 with
    | error f => simp [result, Except.mapError] at read
    | ok y => simpa [result, Except.mapError] using read

/-- A batch notes what all of its plans note. -/
theorem execute_notes {b : Batch Found}
    (reads : ∀ p ∈ b.plans, p.Reads m s.tenant (db.committed w m.table) Found.Tells)
    (served : ∀ r ∈ reading b.plans, db.Serves r) :
    let ended := b.execute db.store s w
    Notes db m s w ⟨ended.result, ended.session, ended.world⟩ fun _ seen =>
      ended.answers.length = b.plans.length ∧
        ((Told.batch ended.answers).Whole → seen = (documentsIn ended.answers).map (·.id)) := by
  by_cases none : b.plans.isEmpty
  · have length : b.plans = [] := List.isEmpty_iff.mp none
    simp only [Batch.execute, none, if_true]
    exact ⟨rfl, [], s.versions, rfl, .nil, fun _ _ => ⟨by rw [length]; rfl, fun _ => rfl⟩⟩
  · obtain ⟨asked, created⟩ := forall_mem_reading.mp served
    have fetched := Database.Yields.fetch created asked w rfl
    have command : b.command db.store.schema =
        .ofStatements db.dialect (b.plans.map (·.statement)) := b.command_eq _
    simp only [Batch.execute, none, Bool.false_eq_true, if_false, command]
    rcases answered : db.store.fetch (b.plans.map (·.mapping))
      (.ofStatements db.dialect (b.plans.map (·.statement))) w with ⟨(f | _) | cursor, w'⟩
    · rw [answered] at fetched
      simp only [answered]
      exact .failed fetched.1
    · rw [answered] at fetched
      simp only [answered]
      exact .failed fetched.1
    · rw [answered] at fetched
      obtain rfl := fetched.2 cursor rfl
      simp only [answered]
      have possible := answers_of_reads (L := db.library) (d := db.dialect) reads
      obtain ⟨seen, noted, length, told⟩ := readSets_noted reads possible s.versions
      exact ⟨fetched.1, seen, _, rfl, noted, fun _ _ => ⟨length, told⟩⟩

/-- A read does nothing but note versions, those of the documents that it tells. -/
theorem Notes.moves {α : Type} {ended : Ended σ α} {tells : α → List DocumentId → Prop}
    {call : Call} {result : Except Halt Told} (notes : Notes db m s w ended tells)
    (isRead : call.isRead = true)
    (told : ∀ x, result = .ok x → x.Whole → ∃ y, ended.result = .ok y ∧
      ∀ seen, tells y seen → seen = x.documents.map (·.id)) :
    Moves db.library db.dialect m s (db.committed w) call result ended.session
      (db.committed ended.world) := by
  obtain ⟨same, seen, vs, session, noted, tells⟩ := notes
  rw [same, session]
  refine .read isRead noted fun x ended whole => ?_
  obtain ⟨y, there, all⟩ := told x ended whole
  exact all seen (tells y there)

section

variable (sound : ∀ r ∈ db.committed w (db.store.schema.mapping t).table,
    Sound (db.store.schema.mapping t) s.tenant r)
  (keyed : (versionsAt (db.committed w (db.store.schema.mapping t).table)).Keyed)
include sound keyed

theorem read_moves {r : Read} (own : r.query.anyTenant = false)
    (served : ∀ q ∈ (Call.read t r).requests db.store.schema s, db.Serves q) :
    Moves db.library db.dialect (db.store.schema.mapping t) s (db.committed w) (.read t r)
      (s.perform db.store (.read t r) w).result (s.perform db.store (.read t r) w).session
      (db.committed (s.perform db.store (.read t r) w).world) := by
  by_cases empty : r = .loadMany []
  -- nothing is read, and nothing told
  · subst empty
    refine .read rfl .nil fun told same _ => ?_
    obtain rfl := Except.ok.inj same
    rfl
  · rw [perform_read db.store empty]
    cases planned : r.plan s db.store.schema t with
    | error f => exact .read rfl .nil nofun
    | ok p =>
      simp only [Call.requests, planned] at served
      refine (run_notes (Read.plan_reads sound keyed planned own) served).moves rfl ?_
      intro told found _
      cases result : (s.run db.store p w).result with
      | error halt => simp [runPlanned, result, Except.map] at found
      | ok f =>
        simp only [runPlanned, result, Except.map, Except.ok.injEq] at found
        subst found
        exact ⟨f, rfl, fun seen tells => tells⟩

theorem batch_moves {items : List (DocumentType × Read)}
    (about : (Call.batch items).About db.store.schema t)
    (served : ∀ q ∈ (Call.batch items).requests db.store.schema s, db.Serves q) :
    Moves db.library db.dialect (db.store.schema.mapping t) s (db.committed w) (.batch items)
      (s.perform db.store (.batch items) w).result (s.perform db.store (.batch items) w).session
      (db.committed (s.perform db.store (.batch items) w).world) := by
  have reads : ∀ p ∈ (s.batchOf db.store.schema items).plans,
      p.Reads (db.store.schema.mapping t) s.tenant
        (db.committed w (db.store.schema.mapping t).table) Found.Tells := by
    intro p mem
    obtain ⟨⟨t', r⟩, listed, planned⟩ := s.exists_of_mem_batchOf mem
    obtain ⟨same, own⟩ := about _ listed
    obtain rfl : t' = t := same
    exact Read.plan_reads sound keyed planned own
  refine (execute_notes reads served).moves rfl fun told found whole => ?_
  cases result : ((s.batchOf db.store.schema items).execute db.store s w).result with
  | error halt => simp [perform, result, Except.map] at found
  | ok u =>
    simp only [perform, result, Except.map, Except.ok.injEq] at found
    subst found
    refine ⟨u, rfl, fun seen tells => ?_⟩
    -- If no plan was rejected or unreadable, the answers are those of the plans that were sent.
    obtain ⟨length, tells⟩ := tells
    have all := withRejected_of_whole length whole
    rw [all] at whole ⊢
    exact tells whole

end

theorem save_moves {m : Mapping} (served : ∀ r ∈ saving s.pending, db.Serves r) :
    Moves db.library db.dialect m s (db.committed w) .save
      (s.perform db.store .save w).result (s.perform db.store .save w).session
      (db.committed (s.perform db.store .save w).world) := by
  obtain ⟨settled, session⟩ := saveChanges_served (.of_saving served) w
  show Moves _ _ _ _ _ _ ((s.saveChanges db.store w).result.map fun _ => Told.nothing)
    (s.saveChanges db.store w).session (db.committed (s.saveChanges db.store w).world)
  cases result : (s.saveChanges db.store w).result with
  | ok u =>
    rw [result] at settled session
    rw [session]
    exact .saved settled
  | error halt =>
    rw [result] at settled session
    rw [session, settled]
    exact .unsaved

/-- A call does what it can do, and nothing else. -/
theorem perform_moves {call : Call} (about : call.About db.store.schema t)
    (served : ∀ r ∈ call.requests db.store.schema s, db.Serves r)
    (sound : ∀ r ∈ db.committed w (db.store.schema.mapping t).table,
      Sound (db.store.schema.mapping t) s.tenant r)
    (keyed : (versionsAt (db.committed w (db.store.schema.mapping t).table)).Keyed) :
    Moves db.library db.dialect (db.store.schema.mapping t) s (db.committed w) call
      (s.perform db.store call w).result (s.perform db.store call w).session
      (db.committed (s.perform db.store call w).world) := by
  cases call with
  | read t' r =>
    obtain ⟨rfl, own⟩ := about
    exact read_moves sound keyed own served
  | batch items => exact batch_moves sound keyed about served
  | insert t' now doc =>
    obtain ⟨rfl, faithful⟩ := about
    refine moves_of_queued rfl fun s' pushed => ?_
    obtain ⟨text, stores, rfl⟩ := pushed_of_stored faithful pushed
    exact ⟨_, rfl, rfl, .insert stores⟩
  | update t' now doc =>
    obtain ⟨rfl, faithful⟩ := about
    refine moves_of_queued rfl fun s' pushed => ?_
    obtain ⟨text, stores, rfl⟩ := pushed_of_stored faithful pushed
    exact ⟨_, rfl, rfl, .update _ stores⟩
  | store t' now doc =>
    obtain ⟨rfl, faithful⟩ := about
    refine moves_of_queued rfl fun s' pushed => ?_
    obtain ⟨text, stores, rfl⟩ := pushed_of_stored faithful pushed
    exact ⟨_, rfl, rfl, .store _ _ stores⟩
  | delete | hardDelete =>
    obtain ⟨rfl, kind⟩ := about
    refine moves_of_queued rfl fun s' pushed => ?_
    obtain rfl := Except.ok.inj pushed
    exact ⟨_, rfl, rfl, .delete _ kind⟩
  | deleteWhere t' now e =>
    obtain rfl := about
    refine moves_of_queued rfl fun s' pushed => ?_
    obtain ⟨filter, -, pushed⟩ := Outcome.bind_eq_ok.mp pushed
    obtain rfl := Except.ok.inj pushed
    refine ⟨_, rfl, rfl, .deleteWhere _ _ ?_⟩
    rw [softTime]
    split <;> simp_all
  | undeleteWhere t' e =>
    obtain rfl := about
    refine moves_of_queued rfl fun s' pushed => ?_
    simp only [undeleteWhere] at pushed
    split at pushed
    · cases pushed
    · obtain ⟨filter, -, pushed⟩ := Outcome.bind_eq_ok.mp pushed
      obtain rfl := Except.ok.inj pushed
      exact ⟨_, rfl, rfl, .undeleteWhere _⟩
  | discard => exact .discarded
  | save => exact save_moves served

end Session

/-! ### What calls keep -/

/-- Contents in which the table of a mapping is in order: every row holds its document, and no
two have the same key. -/
structure Orderly (m : Mapping) (a : String) (K : Content) : Prop where
  sound : ∀ r ∈ K m.table, Sound m a r
  keyed : (versionsAt (K m.table)).Keyed

/-- A session of a tenant with queued writes of one mapping only. -/
structure Session.WorksOn (s : Session) (m : Mapping) (a : String) : Prop where
  tenant : s.tenant = a
  queued : ∀ p ∈ s.pending, Written m a p

/-- A session that was just opened. -/
structure Session.Fresh (s : Session) (a : String) : Prop where
  tenant : s.tenant = a
  pending : s.pending = []
  versions : s.versions = .empty

section

variable {L : Library} {d : Sql.Dialect} {m : Mapping} {a : String} {K K' : Content}

theorem Session.Fresh.worksOn {s : Session} (h : s.Fresh a) (m : Mapping) : s.WorksOn m a :=
  ⟨h.tenant, fun p mem => by rw [h.pending] at mem; cases mem⟩

theorem Written.mapping {p : PendingWrite} (h : Written m a p) : p.mapping = m := by
  cases h <;> rfl

/-- A write leaves what is noted of other documents than its own. -/
theorem PendingWrite.get?_saved_of_ne {p : PendingWrite} {vs : Versions} {k : DocumentKey}
    (other : ∀ id, p.kind.id? = some id → k ≠ ⟨p.mapping.typeName, id⟩) :
    (p.saved vs).get? k = vs.get? k := by
  obtain ⟨mapping, kind, statement⟩ := p
  cases kind with
  | insert id => exact Versions.get?_put_of_ne _ (other id rfl)
  | update id expected | upsert id expected =>
    cases expected <;> exact Versions.get?_put_of_ne _ (other id rfl)
  | delete id => exact Versions.get?_put_of_ne _ (other id rfl)
  | bulk => rfl

/-- A write of one document leaves what is noted of the others. -/
theorem saved_of_other {p : PendingWrite} {id : DocumentId} {vs : Versions}
    (same : p.mapping = m) (other : p.kind.id? ≠ some id) :
    (p.saved vs).get? ⟨m.typeName, id⟩ = vs.get? ⟨m.typeName, id⟩ := by
  subst same
  refine PendingWrite.get?_saved_of_ne fun id' own k => other ?_
  exact own.trans (congrArg (fun k => some k.id) k).symm

/-- An update or a store counts up the version that it expects, or else the one that is noted. -/
theorem saved_of_rewritten {p : PendingWrite} {id : DocumentId} {expected : Option Int64}
    (kind : p.kind = .update id expected ∨ p.kind = .upsert id expected) (vs : Versions) :
    (p.saved vs).get? ⟨p.mapping.typeName, id⟩ =
      (expected.or (vs.get? ⟨p.mapping.typeName, id⟩)).map (· + 1) := by
  obtain ⟨mapping, kind', statement⟩ := p
  rcases kind with rfl | rfl
  · cases expected <;> exact Versions.get?_put_self ..
  · cases expected <;> exact Versions.get?_put_self ..

/-- A write of one document leaves the rows of the others, or removes them. -/
theorem Shift.other {soft : Bool} {kind : WriteKind} {id : DocumentId} {V V' : View}
    (shift : Shift a soft kind V V') (other : kind.id? ≠ some id) :
    V' (a, id) = V (a, id) ∨ V' (a, id) = 0 := by
  have apart {id' : DocumentId} (h : some id' ≠ some id) : (a, id) ≠ (a, id') := by
    intro k
    cases k
    exact h rfl
  cases shift with
  | inserted | updated | replaced | created | deleted => exact .inl (Function.update_of_ne (apart other) ..)
  | flagged => exact .inl rfl
  | swept less _ => exact less (a, id)

/-- Accepted writes shift the versions one after the other. -/
theorem Written.shift_orderly {p : PendingWrite} {n : Nat} (queued : Written m a p)
    (orderly : Orderly m a K) (effect : L.effect d p.statement K = .ok (n, K'))
    (accepted : p.judge (.ok n) = .ok ()) :
    Orderly m a K' ∧
      Shift a m.softDeleted p.kind (versionsAt (K m.table)) (versionsAt (K' m.table)) := by
  obtain ⟨rows, rfl, sound, shift⟩ := queued.shift orderly.sound orderly.keyed effect accepted
  have there : Function.update K m.table rows m.table = rows := Function.update_self ..
  rw [there]
  refine ⟨⟨?_, ?_⟩, shift⟩
  · rw [there]
    exact sound
  · rw [there]
    exact shift.keyed orderly.keyed

theorem Carries.cons_iff {p : PendingWrite} {ps : List PendingWrite} {K₂ : Content} :
    Carries L d (p :: ps) K K₂ ↔ ∃ n K₁, L.effect d p.statement K = .ok (n, K₁) ∧
      p.judge (.ok n) = .ok () ∧ Carries L d ps K₁ K₂ := by
  constructor
  · intro carried
    cases carried with
    | cons effect accepted later => exact ⟨_, _, effect, accepted, later⟩
  · intro h
    obtain ⟨n, K₁, effect, accepted, later⟩ := h
    exact .cons effect accepted later

theorem Carries.nil_iff : Carries L d [] K K' ↔ K' = K := by
  constructor
  · intro carried
    cases carried
    rfl
  · intro h
    subst h
    exact .nil

theorem Carries.orderly {ps : List PendingWrite} (carried : Carries L d ps K K')
    (queued : ∀ p ∈ ps, Written m a p) (orderly : Orderly m a K) : Orderly m a K' := by
  induction carried with
  | nil => exact orderly
  | cons effect accepted _ ih =>
    rw [List.forall_mem_cons] at queued
    exact ih queued.2 (queued.1.shift_orderly orderly effect accepted).1

/-- A table in order stays so, and so does the queue. -/
theorem Moves.keeps {s s' : Session} {call : Call} {result : Except Halt Told}
    (moves : Moves L d m s K call result s' K') (works : s.WorksOn m a)
    (orderly : Orderly m a K) : s'.WorksOn m a ∧ Orderly m a K' := by
  obtain ⟨rfl, queued⟩ := works
  cases moves with
  | read => exact ⟨⟨rfl, queued⟩, orderly⟩
  | queued kind written =>
    refine ⟨⟨rfl, fun p mem => ?_⟩, orderly⟩
    rcases List.mem_append.mp mem with mem | mem
    · exact queued p mem
    · obtain rfl := List.mem_singleton.mp mem
      exact written
  | rejected => exact ⟨⟨rfl, queued⟩, orderly⟩
  | discarded => exact ⟨⟨rfl, fun p mem => absurd mem List.not_mem_nil⟩, orderly⟩
  | saved carried =>
    exact ⟨⟨rfl, fun p mem => absurd mem List.not_mem_nil⟩, carried.orderly queued orderly⟩
  | unsaved => exact ⟨⟨rfl, queued⟩, orderly⟩

end

/-! ### Orders -/

namespace Orders

/-- The order is read back with its identity. -/
theorem order_faithful : order.Faithful mapping type := by
  intro text written
  have stored : order.write type = .ok "\x7b\"id\":7\x7d" := rfl
  obtain rfl := Except.ok.inj (stored.symm.trans written)
  refine ⟨rfl, fun doc read => ?_⟩
  have same : Document.read .int32 "\x7b\"id\":7\x7d" = .ok order := by cbv
  rw [← Except.ok.inj (same.symm.trans read)]

/-- A table without rows is in order. -/
theorem orderly : Orderly mapping "a" (database.committed system.world) :=
  ⟨fun r mem => absurd mem (Multiset.notMem_zero r), fun _ => Nat.zero_le 1⟩

end Orders

end Folio
