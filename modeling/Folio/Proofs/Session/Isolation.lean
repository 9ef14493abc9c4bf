import Folio.Proofs.Relational.Frame
import Folio.Proofs.Versions.Noted

/-!
# Folio.Proofs.Session.Isolation

Tenants are isolated: sessions of one tenant cannot tell from their answers what rows others
have, and leave those rows as they are.

Two worlds are `Alike` for a tenant if they differ only in what rows others have. A task
`Respects` the tenant if it ends in the same way in worlds that are alike, and leaves them alike
and the rows of others untouched. All that a session does is put together from tasks that do.

* `Database.Respects`: such tasks, and what they are made of.
* `Session.perform_respects`: a call on a session of the tenant.
* `System.tenant_isolation`: any number of calls on any number of sessions of the tenant.
-/

namespace Folio

open Folio.Database
open Folio.Relational
open Folio.Statement (Command Selection)

variable {σ α β : Type}

namespace Relational

/-- A request that is about the rows of one tenant. -/
def Request.Of (a : String) : Request → Prop
  | .write s => s.Of a
  | .read ss => ∃ selections : List Selection,
      ss = selections.map .select ∧ ∀ s ∈ selections, s.tenant = some a
  | .start | .commit | .rollback => True

/-- What a database holds twice over, with the same rows of the tenant. -/
structure Apart (a : String) (O₁ O₂ : Content) (k₁ k₂ : Contents) : Prop where
  committed : Shares a O₁ O₂ k₁.committed k₂.committed
  working : Shares a O₁ O₂ k₁.working k₂.working

variable {a : String} {O₁ O₂ : Content} {k₁ k₂ : Contents}

/-- A request of the tenant is answered the same, or refused for the same reason. -/
theorem Apart.respond (h : Apart a O₁ O₂ k₁ k₂) (L : Library) (d : Sql.Dialect) {r : Request}
    (own : r.Of a) :
    (∃ e, L.respond d r k₁ = .error e ∧ L.respond d r k₂ = .error e) ∨
      ∃ reply k₁' k₂', L.respond d r k₁ = .ok (reply, k₁') ∧ L.respond d r k₂ = .ok (reply, k₂') ∧
        Apart a O₁ O₂ k₁' k₂' := by
  unfold Library.respond
  cases r with
  | write s =>
    rcases h.working.effect L d own with ⟨e, left, right⟩ | ⟨n, K₁, K₂, left, right, shares⟩
    · dsimp only
      rw [left, right]
      exact .inl ⟨e, rfl, rfl⟩
    · dsimp only
      rw [left, right]
      exact .inr ⟨_, _, _, rfl, rfl, h.committed, shares⟩
  | read ss =>
    obtain ⟨selections, rfl, own⟩ := own
    dsimp only
    rw [h.committed.answers L d own]
    exact .inr ⟨_, _, _, rfl, rfl, h⟩
  | start => exact .inr ⟨_, _, _, rfl, rfl, h.committed, h.committed⟩
  | commit => exact .inr ⟨_, _, _, rfl, rfl, h.working, h.working⟩
  | rollback => exact .inr ⟨_, _, _, rfl, rfl, h.committed, h.committed⟩

namespace Database

variable (db : Database σ)

/-- Whether a connection can be opened does not depend on what the tables hold. -/
def Connects : Prop :=
  ∀ c st st', (db.store.driver.connect c st).1 = (db.store.driver.connect c st').1

/-- Worlds that differ only in what rows other tenants have. -/
def Alike (a : String) (O₁ O₂ : Content) (w₁ w₂ : World σ) : Prop :=
  ∃ st, w₂ = { w₁ with state := st } ∧ Apart a O₁ O₂ (db.contents w₁.state) (db.contents st)

/-- A task that ends the same in worlds that are alike, and leaves them alike. -/
def Respects (a : String) (O₁ O₂ : Content) (t : Task σ α) : Prop :=
  ∀ w₁ w₂, db.Alike a O₁ O₂ w₁ w₂ → (t w₁).1 = (t w₂).1 ∧ db.Alike a O₁ O₂ (t w₁).2 (t w₂).2

/-- A request of the tenant's, which the database answers. -/
structure Heeds (refused : Request → Refusal → Failure) (a : String) (r : Request) : Prop where
  answers : db.Answers refused r
  own : r.Of a

variable {db}

namespace Respects

/-- The two ends of such a task. -/
theorem ends {t : Task σ α} {w₁ w₂ : World σ} (h : db.Respects a O₁ O₂ t)
    (alike : db.Alike a O₁ O₂ w₁ w₂) :
    ∃ result w₁' w₂', t w₁ = (result, w₁') ∧ t w₂ = (result, w₂') ∧ db.Alike a O₁ O₂ w₁' w₂' := by
  obtain ⟨same, alike⟩ := h w₁ w₂ alike
  exact ⟨(t w₁).1, (t w₁).2, (t w₂).2, rfl, Prod.ext same.symm rfl, alike⟩

/-- A task that has nothing to do with the driver. -/
theorem of_blind {t : Task σ α}
    (blind : ∀ w st, t { w with state := st } = ((t w).1, { (t w).2 with state := st })) :
    db.Respects a O₁ O₂ t := by
  intro w _ h
  obtain ⟨st, rfl, apart⟩ := h
  have same : (t w).2.state = w.state := by
    have once := congrArg (·.2.state) (blind w w.state)
    exact once
  rw [blind w st]
  refine ⟨rfl, st, rfl, ?_⟩
  rw [same]
  exact apart

theorem pure (x : α) : db.Respects a O₁ O₂ (pure x) :=
  .of_blind fun _ _ => rfl

theorem throw (h : Halt) : db.Respects a O₁ O₂ (throw h : Task σ α) :=
  .of_blind fun _ _ => rfl

theorem ofOutcome (x : Outcome α) : db.Respects a O₁ O₂ (Task.ofOutcome x) := by
  cases x with
  | ok x => exact .pure x
  | error f => exact .throw _

/-- What comes after a task is the same in both worlds, since the task has ended the same. -/
theorem bind {t : Task σ α} {f : α → Task σ β} (ht : db.Respects a O₁ O₂ t)
    (hf : ∀ x, db.Respects a O₁ O₂ (f x)) : db.Respects a O₁ O₂ (t >>= f) := by
  intro w₁ w₂ alike
  obtain ⟨result, w₁', w₂', left, right, alike⟩ := ht.ends alike
  rw [Task.bind_apply, Task.bind_apply, left, right]
  cases result with
  | error h => exact ⟨rfl, alike⟩
  | ok x => exact hf x w₁' w₂' alike

theorem ending {t : Task σ α} (h : db.Respects a O₁ O₂ t) : db.Respects a O₁ O₂ t.ending := by
  intro w₁ w₂ alike
  obtain ⟨same, alike⟩ := h w₁ w₂ alike
  rw [Task.ending_apply, Task.ending_apply, same]
  exact ⟨rfl, alike⟩

theorem release (c : ConnectionId) : db.Respects a O₁ O₂ (Store.release c) :=
  .of_blind fun _ _ => rfl

theorem discard : db.Respects a O₁ O₂ Store.discard :=
  .of_blind fun _ _ => rfl

theorem releasing {c : ConnectionId} {t : Task σ α} (h : db.Respects a O₁ O₂ t) :
    db.Respects a O₁ O₂ (Store.releasing c t) := by
  intro w₁ w₂ alike
  obtain ⟨result, w₁', w₂', left, right, alike⟩ := h.ends alike
  rw [Store.releasing_apply, Store.releasing_apply, left, right]
  -- after a failure the connection is given back, in both worlds
  cases result with
  | ok x => exact ⟨rfl, alike⟩
  | error halt =>
    cases halt with
    | stalled => exact ⟨rfl, alike⟩
    | failed f =>
      obtain ⟨st, rfl, apart⟩ := alike
      exact ⟨rfl, st, rfl, apart⟩

/-- Taking a connection. -/
theorem acquire (connects : db.Connects) : db.Respects a O₁ O₂ db.store.acquire := by
  rintro ⟨st₁, attempts, idle, tables, log⟩ _ ⟨st₂, rfl, apart⟩
  unfold Store.acquire
  cases idle with
  | cons c rest => exact ⟨rfl, st₂, rfl, apart⟩
  | nil =>
    -- a connection has to be opened, which shows nothing of the tables
    have same := connects attempts st₁ st₂
    have left := db.connect_contents attempts st₁
    have right := db.connect_contents attempts st₂
    dsimp only at apart
    rw [← left, ← right] at apart
    cases opened : db.store.driver.connect attempts st₁ with
    | mk answer st₁' =>
      cases opened' : db.store.driver.connect attempts st₂ with
      | mk answer' st₂' =>
        rw [opened, opened'] at same apart
        obtain rfl : answer = answer' := same
        simp only [Store.openConnection, opened, opened']
        cases answer with
        | reply _ => exact ⟨rfl, st₂', rfl, apart⟩
        | failure f => exact ⟨rfl, st₂', rfl, apart⟩
        | never =>
          dsimp only
          split
          · exact ⟨rfl, st₂', rfl, apart⟩
          · exact ⟨rfl, st₂', rfl, apart⟩

theorem withConnection (connects : db.Connects) {t : ConnectionId → Task σ α}
    (h : ∀ c, db.Respects a O₁ O₂ (t c)) : db.Respects a O₁ O₂ (db.store.withConnection t) := by
  refine (acquire connects).bind fun c => (h c).releasing.bind fun x => ?_
  exact (release c).bind fun _ => .pure x

/-! ### Requests -/

variable {refused : Request → Refusal → Failure}

theorem perform {r : Request} (heeds : db.Heeds refused a r) (c : ConnectionId) :
    db.Respects a O₁ O₂ (db.store.perform c (r.operation db.dialect)) := by
  intro w _ h
  obtain ⟨st, rfl, apart⟩ := h
  have left := heeds.answers c w.state
  have right := heeds.answers c st
  rw [Store.perform_apply, Store.perform_apply]
  rcases apart.respond db.library db.dialect heeds.own with
    ⟨e, refused, refused'⟩ | ⟨reply, k₁, k₂, done, done', apart'⟩
  · simp only [refused] at left
    simp only [refused'] at right
    obtain ⟨st₁, same₁, performed₁⟩ := left
    obtain ⟨st₂, same₂, performed₂⟩ := right
    rw [performed₁, performed₂]
    rw [← same₁, ← same₂] at apart
    exact ⟨rfl, st₂, rfl, apart⟩
  · simp only [done] at left
    simp only [done'] at right
    obtain ⟨st₁, rfl, performed₁⟩ := left
    obtain ⟨st₂, rfl, performed₂⟩ := right
    rw [performed₁, performed₂]
    exact ⟨rfl, st₂, rfl, apart'⟩

theorem execute {s : Statement} (heeds : db.Heeds refused a (.write s)) (c : ConnectionId) :
    db.Respects a O₁ O₂ (db.store.execute c (.ofStatement db.dialect s)) :=
  (ofOutcome _).bind fun _ => (perform heeds c).bind fun _ => .ofOutcome _

theorem query {ss : List Statement} (heeds : db.Heeds refused a (.read ss)) (c : ConnectionId) :
    db.Respects a O₁ O₂ (db.store.query c (.ofStatements db.dialect ss)) :=
  (ofOutcome _).bind fun _ => (perform heeds c).bind fun _ => .ofOutcome _

theorem createTables {ms : List Mapping} (heeds : ∀ m ∈ ms, db.Heeds refused a (creation m))
    (c : ConnectionId) : db.Respects a O₁ O₂ (db.store.createTables c ms) := by
  induction ms with
  | nil => exact .pure ()
  | cons m rest ih =>
    refine (execute (heeds m List.mem_cons_self) c).bind fun _ => ?_
    refine Respects.bind (.of_blind fun _ _ => rfl) fun _ => ?_
    exact ih fun m mem => heeds m (List.mem_cons_of_mem _ mem)

/-- Which tables are made depends on those that are known, which are the same in both worlds. -/
theorem ensureTables {ms : List Mapping} (heeds : ∀ m ∈ ms, db.Heeds refused a (creation m))
    (c : ConnectionId) : db.Respects a O₁ O₂ (db.store.ensureTables c ms) := by
  intro w _ h
  obtain ⟨st, rfl, apart⟩ := h
  refine createTables (fun m mem => heeds m ?_) c w _ ⟨st, rfl, apart⟩
  exact mem_of_mem_distinctTables (List.mem_filter.mp mem).1

theorem fetch (connects : db.Connects) {ms : List Mapping} {ss : List Statement}
    (heeds : ∀ m ∈ ms, db.Heeds refused a (creation m)) (asked : db.Heeds refused a (.read ss)) :
    db.Respects a O₁ O₂ (db.store.fetch ms (.ofStatements db.dialect ss)) :=
  withConnection connects fun c => (ensureTables heeds c).bind fun _ => query asked c

/-! ### Saves -/

theorem applyWrite {p : PendingWrite} (heeds : db.Heeds refused a (.write p.statement))
    (c : ConnectionId) : db.Respects a O₁ O₂ (db.store.applyWrite c p) := by
  refine (execute heeds c).ending.bind fun result => ?_
  cases result with
  | ok n => exact .ofOutcome _
  | error h =>
    cases h with
    | failed f => exact .ofOutcome _
    | stalled => exact .throw _

theorem applyWrites {ps : List PendingWrite}
    (heeds : ∀ p ∈ ps, db.Heeds refused a (.write p.statement)) (c : ConnectionId) :
    db.Respects a O₁ O₂ (db.store.applyWrites c ps) := by
  induction ps with
  | nil => exact .pure ()
  | cons p rest ih =>
    refine (applyWrite (heeds p List.mem_cons_self) c).bind fun _ => ?_
    exact ih fun p mem => heeds p (List.mem_cons_of_mem _ mem)

theorem rollBack (heeds : db.Heeds refused a .rollback) (c : ConnectionId) :
    db.Respects a O₁ O₂ (db.store.rollBack c) := by
  refine (perform heeds c).ending.bind fun result => ?_
  cases result with
  | ok _ => exact .release c
  | error h =>
    cases h with
    | failed f => exact .discard
    | stalled => exact .throw _

theorem transact {ps : List PendingWrite} (heeds : ∀ r ∈ saving ps, db.Heeds refused a r)
    (c : ConnectionId) : db.Respects a O₁ O₂ (db.store.transact c ps) := by
  obtain ⟨⟨start, commit, rollback⟩, -, writes⟩ := forall_mem_saving.mp heeds
  refine (perform start c).releasing.bind fun _ => ?_
  refine (applyWrites writes c).ending.bind fun result => ?_
  cases result with
  | ok _ =>
    refine (perform commit c).ending.bind fun result => ?_
    cases result with
    | ok _ => exact .release c
    | error h =>
      cases h with
      | failed f => exact (rollBack rollback c).bind fun _ => .throw _
      | stalled => exact .throw _
  | error h =>
    cases h with
    | failed f => exact (rollBack rollback c).bind fun _ => .throw _
    | stalled =>
      dsimp only
      split
      · exact (rollBack rollback c).bind fun _ => .throw _
      · exact discard.bind fun _ => .throw _

theorem save (connects : db.Connects) {s : Session}
    (heeds : ∀ r ∈ saving s.pending, db.Heeds refused a r) :
    db.Respects a O₁ O₂ (s.save db.store) := by
  unfold Session.save
  split
  · exact .pure s
  · obtain ⟨-, created, -⟩ := forall_mem_saving.mp heeds
    refine (acquire connects).bind fun c => ?_
    refine (ensureTables created c).releasing.bind fun _ => ?_
    exact (transact heeds c).bind fun _ => .pure _

end Respects

end Database

end Relational

/-! ### What a tenant asks -/

/-- A session of the tenant, with its queue. -/
structure Session.Of (s : Session) (a : String) : Prop where
  tenant : s.tenant = a
  queued : ∀ p ∈ s.pending, p.statement.Of a

/-- Does the call keep to the session's tenant? -/
def Call.Scoped : Call → Prop
  | .read _ r => r.query.anyTenant = false
  | .batch items => ∀ item ∈ items, item.2.query.anyTenant = false
  | _ => True

section

variable {a : String} {s : Session} {schema : Schema}

/-- A read that keeps to the tenant selects the tenant's documents. -/
theorem Read.tenant_plan {t : DocumentType} {r : Read} {p : Plan Found}
    (planned : r.plan s schema t = .ok p) (own : r.query.anyTenant = false) :
    p.selection.tenant = some s.tenant := by
  have reads : p.Reads (schema.mapping t) s.tenant 0 Found.Tells :=
    Read.plan_reads (fun r mem => absurd mem (Multiset.notMem_zero r)) (fun _ => Nat.zero_le 1)
      planned own
  exact reads.own.tenant

theorem reading_of {plans : List (Plan α)} (own : ∀ p ∈ plans, p.selection.tenant = some a) :
    ∀ r ∈ reading plans, r.Of a := by
  refine forall_mem_reading.mpr ⟨⟨plans.map (·.selection), ?_, ?_⟩, fun _ _ => trivial⟩
  · rw [List.map_map]
    rfl
  · exact List.forall_mem_map.mpr own

theorem saving_of {ps : List PendingWrite} (own : ∀ p ∈ ps, p.statement.Of a) :
    ∀ r ∈ saving ps, r.Of a :=
  forall_mem_saving.mpr ⟨⟨trivial, trivial, trivial⟩, fun _ _ => trivial, own⟩

/-- What a call on the tenant's session asks is about the tenant's rows. -/
theorem Call.requests_of {call : Call} (own : s.Of a) (keeps : call.Scoped) :
    ∀ r ∈ call.requests schema s, r.Of a := by
  obtain ⟨rfl, queued⟩ := own
  cases call with
  | read t r =>
    cases planned : r.plan s schema t with
    | error f =>
      simp only [requests, planned]
      exact fun r mem => absurd mem List.not_mem_nil
    | ok p =>
      simp only [requests, planned]
      refine reading_of fun q mem => ?_
      obtain rfl := List.mem_singleton.mp mem
      exact Read.tenant_plan planned keeps
  | batch items =>
    refine reading_of fun p mem => ?_
    obtain ⟨⟨t, r⟩, listed, planned⟩ := s.exists_of_mem_batchOf mem
    exact Read.tenant_plan planned (keeps _ listed)
  | save => exact saving_of queued
  | _ => exact fun r mem => absurd mem List.not_mem_nil

end

namespace Session

variable {db : Database σ} {a : String} {O₁ O₂ : Content} {s : Session} {w w₁ w₂ : World σ}
  {refused : Request → Refusal → Failure}

/-! ### Calls -/

/-- Calls that ended the same, and left alike worlds. -/
structure Ends (db : Database σ) (a : String) (O₁ O₂ : Content) (e₁ e₂ : Ended σ α) : Prop where
  result : e₁.result = e₂.result
  session : e₁.session = e₂.session
  world : db.Alike a O₁ O₂ e₁.world e₂.world

theorem Ends.queued (alike : db.Alike a O₁ O₂ w₁ w₂) (x : Outcome Session) :
    Ends db a O₁ O₂ (s.queued w₁ x) (s.queued w₂ x) := by
  cases x with
  | ok s' => exact ⟨rfl, rfl, alike⟩
  | error f => exact ⟨rfl, rfl, alike⟩

theorem Ends.run (connects : db.Connects) {p : Plan α}
    (heeds : ∀ r ∈ reading [p], db.Heeds refused a r) (alike : db.Alike a O₁ O₂ w₁ w₂) :
    Ends db a O₁ O₂ (s.run db.store p w₁) (s.run db.store p w₂) := by
  obtain ⟨asked, created⟩ := forall_mem_reading.mp heeds
  obtain ⟨result, w₁', w₂', left, right, alike⟩ :=
    (Database.Respects.fetch connects created asked).ends alike
  rw [List.map_singleton, List.map_singleton, Command.ofStatements_singleton] at left right
  simp only [Database.dialect] at left right
  simp only [Session.run, left, right]
  cases result with
  | error h => exact ⟨rfl, rfl, alike⟩
  | ok cursor => exact ⟨rfl, rfl, alike⟩

/-- A batch is one command. -/
theorem Ends.execute (connects : db.Connects) {b : Batch Found}
    (heeds : ∀ r ∈ reading b.plans, db.Heeds refused a r) (alike : db.Alike a O₁ O₂ w₁ w₂) :
    (b.execute db.store s w₁).answers = (b.execute db.store s w₂).answers ∧
      Ends db a O₁ O₂
        ⟨(b.execute db.store s w₁).result, (b.execute db.store s w₁).session,
          (b.execute db.store s w₁).world⟩
        ⟨(b.execute db.store s w₂).result, (b.execute db.store s w₂).session,
          (b.execute db.store s w₂).world⟩ := by
  obtain ⟨asked, created⟩ := forall_mem_reading.mp heeds
  have command : b.command db.store.schema =
      .ofStatements db.dialect (b.plans.map (·.statement)) := b.command_eq _
  by_cases none : b.plans.isEmpty
  -- nothing is sent for a batch without plans
  · simp only [Batch.execute, none, if_true]
    exact ⟨trivial, rfl, rfl, alike⟩
  · obtain ⟨result, w₁', w₂', left, right, alike⟩ :=
      (Database.Respects.fetch connects created asked).ends alike
    rw [← command] at left right
    simp only [Batch.execute, none, left, right]
    cases result with
    | ok cursor => exact ⟨rfl, rfl, rfl, alike⟩
    | error h =>
      cases h with
      | failed f => exact ⟨rfl, rfl, rfl, alike⟩
      | stalled => exact ⟨rfl, rfl, rfl, alike⟩

theorem Ends.saveChanges (connects : db.Connects)
    (heeds : ∀ r ∈ saving s.pending, db.Heeds refused a r) (alike : db.Alike a O₁ O₂ w₁ w₂) :
    Ends db a O₁ O₂ (s.saveChanges db.store w₁) (s.saveChanges db.store w₂) := by
  obtain ⟨result, w₁', w₂', left, right, alike⟩ :=
    (Database.Respects.save connects heeds).ends alike
  simp only [Session.saveChanges, left, right]
  cases result with
  | ok s' => exact ⟨rfl, rfl, alike⟩
  | error h => exact ⟨rfl, rfl, alike⟩

/-- A call on a session of the tenant respects the tenant. -/
theorem perform_respects (connects : db.Connects) {call : Call}
    (heeds : ∀ r ∈ call.requests db.store.schema s, db.Heeds refused a r)
    (alike : db.Alike a O₁ O₂ w₁ w₂) :
    Ends db a O₁ O₂ (s.perform db.store call w₁) (s.perform db.store call w₂) := by
  cases call with
  | read t r =>
    by_cases nothing : r = .loadMany []
    · subst nothing
      exact ⟨rfl, rfl, alike⟩
    · rw [perform_read db.store nothing, perform_read db.store nothing]
      cases planned : r.plan s db.store.schema t with
      | error f => exact ⟨rfl, rfl, alike⟩
      | ok p =>
        simp only [Call.requests, planned] at heeds
        obtain ⟨result, session, world⟩ := Ends.run (s := s) connects heeds alike
        exact ⟨congrArg (Except.map Told.found) result, session, world⟩
  | batch items =>
    obtain ⟨answers, result, session, world⟩ := Ends.execute (s := s) connects heeds alike
    refine ⟨?_, session, world⟩
    simp only [perform]
    rw [answers]
    exact congrArg (Except.map _) result
  | save =>
    obtain ⟨result, session, world⟩ := Ends.saveChanges connects heeds alike
    exact ⟨congrArg (Except.map _) result, session, world⟩
  | insert t now doc => exact .queued alike _
  | update t now doc => exact .queued alike _
  | store t now doc => exact .queued alike _
  | delete t now id => exact ⟨rfl, rfl, alike⟩
  | hardDelete t id => exact ⟨rfl, rfl, alike⟩
  | deleteWhere t now e => exact .queued alike _
  | undeleteWhere t e => exact .queued alike _
  | discard => exact ⟨rfl, rfl, alike⟩

/-! ### Sessions of the tenant -/

section

variable {schema : Schema} {t : DocumentType} {m : Mapping} {now : Time.Timestamp}

theorem Of.push (own : s.Of a) {p : PendingWrite} (h : p.statement.Of a) : (s.push p).Of a := by
  refine ⟨own.tenant, fun q mem => ?_⟩
  rcases List.mem_append.mp mem with mem | mem
  · exact own.queued q mem
  · obtain rfl := List.mem_singleton.mp mem
    exact h

theorem Of.queued_call (own : s.Of a) {x : Outcome Session} (h : ∀ s', x = .ok s' → s'.Of a) :
    (s.queued w x).session.Of a := by
  cases x with
  | ok s' => exact h s' rfl
  | error f => exact own

/-- A document is stored for the session's tenant. -/
theorem Of.stored (own : s.Of a) {doc : Document} {f : Statement.StoredDocument → PendingWrite}
    {s' : Session}
    (done : (do
      let stored ← s.storedDocument t m now doc
      return s.push (f stored)) = Except.ok s')
    (h : ∀ stored, stored.tenant = a → (f stored).statement.Of a) : s'.Of a := by
  obtain ⟨stored, storable, done⟩ := Outcome.bind_eq_ok.mp done
  obtain ⟨text, -, storable⟩ := Outcome.bind_eq_ok.mp storable
  obtain rfl := Except.ok.inj storable
  obtain rfl := Except.ok.inj done
  exact own.push (h _ own.tenant)

theorem Of.deleteWhere (own : s.Of a) {e : Expr} {s' : Session}
    (done : s.deleteWhere schema t now e = .ok s') : s'.Of a := by
  obtain ⟨filter, -, done⟩ := Outcome.bind_eq_ok.mp done
  obtain rfl := Except.ok.inj done
  exact own.push own.tenant

theorem Of.undeleteWhere (own : s.Of a) {e : Expr} {s' : Session}
    (done : s.undeleteWhere schema t e = .ok s') : s'.Of a := by
  unfold Session.undeleteWhere at done
  dsimp only at done
  split at done
  · cases done
  · obtain ⟨filter, -, done⟩ := Outcome.bind_eq_ok.mp done
    obtain rfl := Except.ok.inj done
    exact own.push own.tenant

theorem Of.run (own : s.Of a) (store : Store σ) (p : Plan α) : (s.run store p w).session.Of a := by
  unfold Session.run
  dsimp only
  split
  · exact own
  · exact ⟨own.tenant, own.queued⟩

theorem Of.execute (own : s.Of a) (store : Store σ) (b : Batch α) :
    (b.execute store s w).session.Of a := by
  unfold Batch.execute
  split
  · exact own
  · split
    · exact own
    · exact own
    · exact ⟨own.tenant, own.queued⟩

/-- A session stays with its tenant. -/
theorem Of.perform (own : s.Of a) {call : Call}
    (served : ∀ r ∈ call.requests db.store.schema s, db.Serves r) :
    (s.perform db.store call w).session.Of a := by
  cases call with
  | read t r =>
    by_cases nothing : r = .loadMany []
    · subst nothing
      exact own
    · rw [perform_read db.store nothing]
      cases planned : r.plan s db.store.schema t with
      | error f => exact own
      | ok p => exact own.run db.store p
  | batch items => exact own.execute db.store _
  | insert | update | store =>
    exact own.queued_call fun s' done => own.stored done fun _ mine => mine
  | delete t now id => exact own.push own.tenant
  | hardDelete t id => exact own.push own.tenant
  | deleteWhere t now e => exact own.queued_call fun s' done => own.deleteWhere done
  | undeleteWhere t e => exact own.queued_call fun s' done => own.undeleteWhere done
  | discard => exact ⟨own.tenant, fun p mem => absurd mem List.not_mem_nil⟩
  | save =>
    -- a save that succeeds empties the queue, and any other leaves it
    obtain ⟨-, session⟩ := saveChanges_served (.of_saving served) w
    show (s.saveChanges db.store w).session.Of a
    rw [session]
    split
    · exact ⟨own.tenant, fun p mem => absurd mem List.not_mem_nil⟩
    · exact own

end

end Session

/-! ### Runs -/

namespace System

/-- The system on a driver in another state. -/
def on (sys : System σ) (st : σ) : System σ :=
  { sys with world := { sys.world with state := st } }

/-- Systems with the same sessions in worlds that are alike. -/
structure Alike (db : Database σ) (a : String) (O₁ O₂ : Content) (sys₁ sys₂ : System σ) : Prop where
  sessions : sys₁.sessions = sys₂.sessions
  world : db.Alike a O₁ O₂ sys₁.world sys₂.world

variable {db : Database σ} {a : String} {O₁ O₂ : Content} {refused : Request → Refusal → Failure}

/-- A call is the same event in systems that are alike, and leaves them alike. -/
theorem Alike.after (connects : db.Connects) {sys₁ sys₂ : System σ} {i : Nat} {call : Call}
    (alike : Alike db a O₁ O₂ sys₁ sys₂) (own : ∀ i, (sys₁.sessions i).Of a)
    (keeps : call.Scoped)
    (answers : ∀ r ∈ (sys₁.made db.store i call).requests db.store.schema, db.Answers refused r) :
    sys₁.made db.store i call = sys₂.made db.store i call ∧
      Alike db a O₁ O₂ (sys₁.after db.store i call) (sys₂.after db.store i call) ∧
      ∀ j, ((sys₁.after db.store i call).sessions j).Of a := by
  have heeds : ∀ r ∈ call.requests db.store.schema (sys₁.sessions i), db.Heeds refused a r := by
    intro r mem
    exact ⟨answers r mem, Call.requests_of (own i) keeps r mem⟩
  have ends : Session.Ends db a O₁ O₂ (sys₁.ended db.store i call) (sys₂.ended db.store i call) := by
    unfold System.ended
    rw [← alike.sessions]
    exact Session.perform_respects connects heeds alike.world
  refine ⟨?_, ⟨?_, ends.world⟩, fun j => ?_⟩
  · unfold System.made
    rw [ends.result, alike.sessions]
  · unfold System.after
    rw [ends.session, alike.sessions]
  · by_cases here : j = i
    · subst here
      simp only [System.after, Function.update_self]
      exact (own j).perform fun r mem => (answers r mem).serves
    · simp only [System.after, Function.update_of_ne here]
      exact own j

/-- So are all calls of a run. -/
theorem Alike.run (connects : db.Connects) {sys₁ sys₂ : System σ} {calls : List (Nat × Call)}
    (alike : Alike db a O₁ O₂ sys₁ sys₂) (own : ∀ i, (sys₁.sessions i).Of a)
    (keeps : ∀ c ∈ calls, c.2.Scoped)
    (answers : ∀ e ∈ (sys₁.run db.store calls).1, ∀ r ∈ e.requests db.store.schema,
      db.Answers refused r) :
    (sys₁.run db.store calls).1 = (sys₂.run db.store calls).1 ∧
      Alike db a O₁ O₂ (sys₁.run db.store calls).2 (sys₂.run db.store calls).2 := by
  induction calls generalizing sys₁ sys₂ with
  | nil => exact ⟨rfl, alike⟩
  | cons first rest ih =>
    obtain ⟨i, call⟩ := first
    obtain ⟨same, alike, own⟩ := alike.after connects own (keeps _ List.mem_cons_self)
      (answers _ List.mem_cons_self)
    obtain ⟨later, alike⟩ := ih alike own (fun c mem => keeps c (List.mem_cons_of_mem _ mem))
      fun e mem => answers e (List.mem_cons_of_mem _ mem)
    simp only [System.run]
    rw [same, later]
    exact ⟨rfl, alike⟩

end System

namespace Orders

/-- Tables in which another tenant has the order of the same identity. -/
def crowded : Content :=
  fun _ => {⟨.int32 7, "\x7b\"id\":7\x7d", 3, .epoch, "order", "b", false, none⟩}

/-- An order that is written and listed, and all orders that are deleted. -/
def browsing : List (Nat × Call) :=
  [(0, .insert type .epoch order), (0, .save), (0, .deleteWhere type .epoch (.value (.bool true))),
    (0, .save), (0, .read type (.list {}))]

end Orders

end Folio
