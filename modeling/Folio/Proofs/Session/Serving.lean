import Folio.Proofs.Session.Call

/-!
# Folio.Proofs.Session.Serving

What a session sees of a database that serves it: a read sees what is committed and commits
nothing, and a save commits either all of its writes or none.

* `Store.fetch_served`: what a command that answers rows is answered.
* `Carries`: writes that are carried out one after the other, each as it should.
* `Session.saveChanges_served`: what a save commits.
-/

namespace Folio

open Folio.Database
open Folio.Relational (Content Database Request)
open Folio.Statement (Command)

variable {σ α β : Type}

namespace Relational.Database

variable (db : Database σ)

/-- While `K` is committed, the task commits nothing, and its result is as said. -/
def Yields (K : Content) (t : Task σ α) (Q : α → Prop) : Prop :=
  ∀ w, db.committed w = K → db.committed (t w).2 = K ∧ ∀ a, (t w).1 = .ok a → Q a

variable {db} {K : Content}

theorem Yields.pure {a : α} {Q : α → Prop} (h : Q a) : db.Yields K (pure a) Q :=
  fun _ hw => ⟨hw, fun _ same => by cases same; exact h⟩

theorem Yields.bind {t : Task σ α} {f : α → Task σ β} {P : α → Prop} {Q : β → Prop}
    (ht : db.Yields K t P) (hf : ∀ a, P a → db.Yields K (f a) Q) :
    db.Yields K (t >>= f) Q := by
  intro w hw
  obtain ⟨kept, yields⟩ := ht w hw
  rw [Task.bind_apply]
  rcases ran : t w with ⟨halt | a, w'⟩
  · rw [ran] at kept
    exact ⟨kept, nofun⟩
  · rw [ran] at kept yields
    exact hf a (yields a rfl) w' kept

theorem Yields.ofOutcome {x : Outcome α} {Q : α → Prop} (h : ∀ a, x = .ok a → Q a) :
    db.Yields K (Task.ofOutcome x) Q := by
  intro w hw
  rw [Task.ofOutcome_apply]
  refine ⟨hw, fun a same => h a ?_⟩
  cases x with
  | ok b => cases same; rfl
  | error f => cases same

/-- Nothing but the driver commits anything. -/
theorem Yields.of_state {t : Task σ α} {Q : α → Prop}
    (kept : ∀ w, (t w).2.state = w.state) (h : ∀ w a, (t w).1 = .ok a → Q a) :
    db.Yields K t Q := by
  intro w hw
  rw [committed, kept w]
  exact ⟨hw, h w⟩

theorem Yields.acquire : db.Yields K db.store.acquire fun _ => True := by
  intro w hw
  refine ⟨?_, fun _ _ => trivial⟩
  rw [← hw, committed, committed]
  rcases db.store.acquire_state w with same | ⟨c, opened⟩
  · rw [same]
  · rw [opened, db.connect_contents]

theorem Yields.releasing {c : ConnectionId} {t : Task σ α} {Q : α → Prop}
    (h : db.Yields K t Q) : db.Yields K (Store.releasing c t) Q := by
  intro w hw
  obtain ⟨kept, yields⟩ := h w hw
  rw [Store.releasing_apply]
  -- giving the connection back does not concern the database
  rcases ran : t w with ⟨(f | _) | a, w'⟩
  · rw [ran] at kept
    exact ⟨kept, nofun⟩
  · rw [ran] at kept
    exact ⟨kept, nofun⟩
  · rw [ran] at kept yields
    exact ⟨kept, yields⟩

theorem Yields.withConnection {t : ConnectionId → Task σ α} {Q : α → Prop}
    (h : ∀ c, db.Yields K (t c) Q) : db.Yields K (db.store.withConnection t) Q := by
  refine Yields.acquire.bind fun c _ => (h c).releasing.bind fun a ha => ?_
  refine Yields.bind (P := fun _ => True) ?_ fun _ _ => .pure ha
  exact .of_state (fun _ => rfl) fun _ _ _ => trivial

/-- A request that is served commits nothing, unless it is the commit. -/
theorem Serves.committed_eq {r : Request} (served : db.Serves r) (h : r ≠ .commit)
    (c : ConnectionId) (st : σ) :
    (db.contents (db.store.driver.perform c (r.operation db.dialect) st).2).committed =
      (db.contents st).committed := by
  have answered := served c st
  rcases performed : db.store.driver.perform c (r.operation db.dialect) st with
    ⟨reply | f | _, st'⟩
  · simp only [performed] at answered ⊢
    cases r with
    | write s =>
      cases effect : db.library.effect db.dialect s (db.contents st).working with
      | error e => simp [Library.respond, effect, Except.map] at answered
      | ok p =>
        simp only [Library.respond, effect, Except.map, Except.ok.injEq, Prod.mk.injEq] at answered
        rw [← answered.2]
    | commit => exact absurd rfl h
    | _ =>
      simp only [Library.respond, Except.ok.injEq, Prod.mk.injEq] at answered
      rw [← answered.2]
  · simpa only [performed] using answered
  · simpa only [performed] using answered

/-- A write that is answered has been carried out. -/
theorem Serves.write_reply {s : Statement} (served : db.Serves (.write s)) {c : ConnectionId}
    {st st' : σ} {reply : Reply}
    (performed : db.store.driver.perform c (.execute (.ofStatement db.dialect s)) st =
      (.reply reply, st')) :
    ∃ n, reply = .count n ∧ db.library.effect db.dialect s (db.contents st).working =
      .ok (n, (db.contents st').working) := by
  have answered := served c st
  rw [Request.operation, performed] at answered
  cases effect : db.library.effect db.dialect s (db.contents st).working with
  | error e => simp [Library.respond, effect, Except.map] at answered
  | ok p =>
    simp only [Library.respond, effect, Except.map, Except.ok.injEq, Prod.mk.injEq] at answered
    exact ⟨p.1, answered.1.symm, by rw [← answered.2]⟩

/-- A transaction that was started sees what is committed. -/
theorem Serves.start_reply (served : db.Serves .start) {c : ConnectionId} {st st' : σ}
    {reply : Reply} (performed : db.store.driver.perform c .start st = (.reply reply, st')) :
    (db.contents st').working = (db.contents st).committed := by
  have answered := served c st
  rw [Request.operation, performed] at answered
  simp only [Library.respond, Except.ok.injEq, Prod.mk.injEq] at answered
  rw [← answered.2]

/-- A commit that is answered has happened. -/
theorem Serves.commit_reply (served : db.Serves .commit) {c : ConnectionId} {st st' : σ}
    {reply : Reply} (performed : db.store.driver.perform c .commit st = (.reply reply, st')) :
    (db.contents st').committed = (db.contents st).working := by
  have answered := served c st
  rw [Request.operation, performed] at answered
  simp only [Library.respond, Except.ok.injEq, Prod.mk.injEq] at answered
  rw [← answered.2]

/-- A commit that is not answered has not happened. -/
theorem Serves.commit_failed (served : db.Serves .commit) {c : ConnectionId} {st st' : σ}
    {answer : Answer Reply} (performed : db.store.driver.perform c .commit st = (answer, st'))
    (failed : ∀ reply, answer ≠ .reply reply) :
    (db.contents st').committed = (db.contents st).committed := by
  have answered := served c st
  rw [Request.operation, performed] at answered
  cases answer with
  | reply reply => exact absurd rfl (failed reply)
  | failure f => exact answered
  | never => exact answered

theorem Yields.perform {r : Request} (served : db.Serves r) (h : r ≠ .commit) (c : ConnectionId) :
    db.Yields K (db.store.perform c (r.operation db.dialect)) fun _ => True := by
  intro w hw
  rw [Store.perform_apply]
  refine ⟨?_, fun _ _ => trivial⟩
  rw [← hw]
  exact served.committed_eq h c w.state

/-- A command that answers rows is answered from what is committed. -/
theorem Yields.query {ss : List Statement} (served : db.Serves (.read ss)) (c : ConnectionId) :
    db.Yields K (db.store.query c (.ofStatements db.dialect ss))
      (· = .ofList (db.library.answers db.dialect ss K)) := by
  refine Yields.bind (.ofOutcome fun _ _ => trivial) fun _ _ => ?_
  refine Yields.bind (P := (· = .sets (.ofList (db.library.answers db.dialect ss K)))) ?_ ?_
  · intro w hw
    refine ⟨(Yields.perform served nofun c w hw).1, fun reply replied => ?_⟩
    have answered := served c w.state
    rw [Store.perform_apply] at replied
    rw [Request.operation] at answered
    rcases performed : db.store.driver.perform c (.query (.ofStatements db.dialect ss)) w.state with
      ⟨reply' | f | _, st'⟩
    · simp only [performed, Library.respond, Except.ok.injEq, Prod.mk.injEq] at answered replied
      have same : reply' = reply := by simpa [Answer.toExcept] using replied
      rw [← same, ← answered.1, ← hw]
      rfl
    · simp [performed, Answer.toExcept] at replied
    · simp [performed, Answer.toExcept] at replied
  · intro _ h
    subst h
    exact .pure rfl

theorem Yields.createTables {ms : List Mapping} (served : ∀ m ∈ ms, db.Serves (creation m))
    (c : ConnectionId) : db.Yields K (db.store.createTables c ms) fun _ => True := by
  induction ms with
  | nil => exact .pure trivial
  | cons m rest ih =>
    have made : db.Yields K (db.store.execute c (db.store.createCommand m)) fun _ => True := by
      refine Yields.bind (.ofOutcome fun _ _ => trivial) fun _ _ => ?_
      refine (Yields.perform (served m (by simp)) nofun c).bind fun _ _ => ?_
      exact .ofOutcome fun _ _ => trivial
    refine made.bind fun _ _ => Yields.bind (P := fun _ => True) ?_ fun _ _ => ?_
    · exact .of_state (fun _ => rfl) fun _ _ _ => trivial
    · exact ih fun m' h => served m' (by simp [h])

/-- Mappings of different tables are among those given. -/
theorem mem_of_mem_distinctTables {m : Mapping} {ms : List Mapping}
    (h : m ∈ Store.distinctTables ms) : m ∈ ms := by
  induction ms with
  | nil => exact h
  | cons n rest ih =>
    rcases List.mem_cons.mp h with rfl | h
    · exact List.mem_cons_self
    · exact List.mem_cons_of_mem _ (ih (List.mem_filter.mp h).1)

theorem Yields.ensureTables {ms : List Mapping} (served : ∀ m ∈ ms, db.Serves (creation m))
    (c : ConnectionId) : db.Yields K (db.store.ensureTables c ms) fun _ => True := by
  refine Yields.bind (.of_state (fun _ => rfl) fun _ _ _ => trivial) fun w _ => ?_
  refine Yields.createTables (fun m h => served m ?_) c
  exact mem_of_mem_distinctTables (List.mem_filter.mp h).1

/-- What a command is answered that reads tables. -/
theorem Yields.fetch {ms : List Mapping} {ss : List Statement}
    (created : ∀ m ∈ ms, db.Serves (creation m)) (served : db.Serves (.read ss)) :
    db.Yields K (db.store.fetch ms (.ofStatements db.dialect ss))
      (· = .ofList (db.library.answers db.dialect ss K)) :=
  .withConnection fun c => (Yields.ensureTables created c).bind fun _ _ => .query served c

end Relational.Database

/-! ### Saves -/

namespace Saving

/-- What a step asks. -/
def Step.request : Step → Request
  | .create m => creation m
  | .start => .start
  | .write p => .write p.statement

variable {db : Database σ} {c : ConnectionId}

/-- No step of a save commits anything. -/
theorem Progress.committed_eq {steps passed : List Step} {st st' : σ} {x : Exchange}
    {halt : Option Halt} (progress : Progress db.store c steps st x st' passed halt)
    (served : ∀ step ∈ steps, db.Serves step.request) :
    (db.contents st').committed = (db.contents st).committed := by
  have kept {step : Step} {st st₁ : σ} {answer : Answer Reply} (h : db.Serves step.request)
      (performed : db.store.driver.perform c (operation db.store step) st = (answer, st₁)) :
      (db.contents st₁).committed = (db.contents st).committed := by
    have same : operation db.store step = step.request.operation db.dialect := by
      cases step <;> rfl
    have once := h.committed_eq (by cases step <;> nofun) c st
    rw [← same, performed] at once
    exact once
  induction progress with
  | done => rfl
  | passed _ performed _ _ ih =>
    rw [ih fun step h => served step (List.mem_cons_of_mem _ h)]
    exact kept (served _ List.mem_cons_self) performed
  | failed _ performed _ => exact kept (served _ List.mem_cons_self) performed
  | refused => rfl

end Saving

/-- The writes are carried out one after the other, each with an outcome that it may have. -/
inductive Carries (L : Relational.Library) (d : Sql.Dialect) :
    List PendingWrite → Content → Content → Prop
  | nil {K : Content} : Carries L d [] K K
  | cons {p : PendingWrite} {ps : List PendingWrite} {n : Nat} {K K₁ K₂ : Content} :
      L.effect d p.statement K = .ok (n, K₁) → p.judge (.ok n) = .ok () →
      Carries L d ps K₁ K₂ → Carries L d (p :: ps) K K₂

/-- What a save with this result has committed: all of its writes, or none. -/
def Settled (L : Relational.Library) (d : Sql.Dialect) (ps : List PendingWrite) (K K' : Content) :
    Except Halt Unit → Prop
  | .ok () => Carries L d ps K K'
  | .error _ => K' = K

namespace Saving

variable {db : Database σ} {c : ConnectionId}

/-- Writes that all pass are carried out. -/
theorem Progress.carries {ps : List PendingWrite} {passed : List Step} {st st' : σ} {x : Exchange}
    (progress : Progress db.store c (ps.map .write) st x st' passed none)
    (served : ∀ p ∈ ps, db.Serves (.write p.statement)) :
    Carries db.library db.dialect ps (db.contents st).working (db.contents st').working := by
  induction ps generalizing st x passed with
  | nil =>
    cases progress
    exact .nil
  | cons p rest ih =>
    obtain ⟨answer, st₁, y, others, performed, accepted, later⟩ := progress.cons_inv
    have tail := ih later fun q h => served q (List.mem_cons_of_mem _ h)
    rcases answer with reply | f | _
    · obtain ⟨n, rfl, effect⟩ := (served p List.mem_cons_self).write_reply performed
      exact .cons effect (judge_of_verdict accepted) tail
    · exact absurd accepted (verdict_failure_ne_ok p f)
    · cases accepted

/-- Once it is prepared, the writes of a save see what is committed. -/
theorem Progress.prepared {missing : List Mapping} {passed : List Step} {st st' : σ} {x : Exchange}
    (progress : Progress db.store c (preparation missing) st x st' passed none)
    (served : ∀ step ∈ preparation missing, db.Serves step.request) :
    (db.contents st').working = (db.contents st).committed ∧
      (db.contents st').committed = (db.contents st).committed := by
  refine ⟨?_, progress.committed_eq served⟩
  obtain ⟨st₁, y, z, former, later, created, started⟩ := progress.append_inv
  have kept : (db.contents st₁).committed = (db.contents st).committed :=
    created.committed_eq fun step h => served step (List.mem_append_left _ h)
  obtain ⟨answer, st₂, _, _, performed, accepted, done⟩ := started.cons_inv
  cases done
  rcases answer with reply | f | _
  · rw [← kept]
    exact (served .start (by simp [preparation])).start_reply performed
  · cases accepted
  · cases accepted

/-- The requests of a save are served. -/
structure Served (db : Database σ) (ps : List PendingWrite) : Prop where
  create : ∀ p ∈ ps, db.Serves (creation p.mapping)
  write : ∀ p ∈ ps, db.Serves (.write p.statement)
  start : db.Serves .start
  commit : db.Serves .commit
  rollback : db.Serves .rollback

theorem Served.of_saving {ps : List PendingWrite} (h : ∀ r ∈ saving ps, db.Serves r) :
    Served db ps := by
  obtain ⟨⟨start, commit, rollback⟩, create, write⟩ := forall_mem_saving.mp h
  exact ⟨fun p mem => create _ (List.mem_map_of_mem mem), write, start, commit, rollback⟩

variable {ps : List PendingWrite}

/-- Writes that are undone were not committed. -/
theorem Undone.committed_eq {st st' : σ} {x : Exchange} {f : Failure}
    (undone : Undone db.store c ps st x st' f) (served : Served db ps) :
    (db.contents st').committed = (db.contents st).committed := by
  have writes : ∀ step ∈ ps.map Step.write, db.Serves step.request := by
    intro step mem
    obtain ⟨p, queued, rfl⟩ := List.mem_map.mp mem
    exact served.write p queued
  cases undone with
  | write progress => exact progress.committed_eq writes
  | timeout progress _ => exact progress.committed_eq writes
  | commit progress rejected =>
    exact (served.commit.commit_failed rejected nofun).trans (progress.committed_eq writes)

/-- A transaction commits all of its writes if it ends well, and else none. -/
theorem Conclusion.settled {st st' : σ} {x : Exchange} {fate : Fate} {result : Except Halt Unit}
    (conclusion : Conclusion db.store c ps st x st' fate result) (served : Served db ps)
    (sees : (db.contents st).working = (db.contents st).committed) :
    Settled db.library db.dialect ps (db.contents st).committed (db.contents st').committed
      result := by
  have writes : ∀ step ∈ ps.map Step.write, db.Serves step.request := by
    intro step mem
    obtain ⟨p, queued, rfl⟩ := List.mem_map.mp mem
    exact served.write p queued
  cases conclusion with
  | committed progress performed =>
    rw [served.commit.commit_reply performed, ← sees]
    exact progress.carries served.write
  | commitStall progress performed =>
    exact (served.commit.commit_failed performed nofun).trans (progress.committed_eq writes)
  | @rolledBack _ st₁ f answer _ undone performed =>
    have kept := served.rollback.committed_eq nofun c st₁
    rw [Request.operation, performed] at kept
    have same := kept.trans (undone.committed_eq served)
    cases answer <;> exact same
  | dropped progress _ => exact progress.committed_eq writes

/-- What comes before the writes is served. -/
theorem Served.preparation {known : List Sql.TableName} (served : Served db ps) :
    ∀ step ∈ preparation (firstUses known (ps.map (·.mapping))), db.Serves step.request := by
  intro step mem
  rcases List.mem_append.mp mem with mem | mem
  · obtain ⟨m, needed, rfl⟩ := List.mem_map.mp mem
    rw [← filter_distinctTables] at needed
    obtain ⟨p, queued, rfl⟩ := List.mem_map.mp
      (Database.mem_of_mem_distinctTables (List.mem_filter.mp needed).1)
    exact served.create p queued
  · obtain rfl := List.mem_singleton.mp mem
    exact served.start

end Saving

namespace Session

open Saving

/-- A save commits all of its writes or none, as its result says. The queue is emptied and the
versions are noted only if it commits. -/
theorem saveChanges_served {db : Database σ} {s : Session} (served : Served db s.pending)
    (w : World σ) :
    let ended := s.saveChanges db.store w
    Settled db.library db.dialect s.pending (db.committed w) (db.committed ended.world)
      ended.result ∧
    ended.session = match ended.result with | .ok () => s.saved | .error _ => s := by
  by_cases queued : s.pending = []
  · have unchanged : s.saveChanges db.store w = ⟨.ok (), s, w⟩ := by
      simp only [saveChanges, save, queued]
      rfl
    rw [unchanged]
    obtain ⟨tenant, pending, versions⟩ := s
    subst queued
    exact ⟨.nil, rfl⟩
  · have kept : db.committed (db.store.acquire w).2 = db.committed w :=
      (Database.Yields.acquire w rfl).1
    rcases acquired : db.store.acquire w with ⟨halt | c, w'⟩
    · rw [acquired] at kept
      rw [saveChanges_unconnected queued acquired]
      exact ⟨kept, rfl⟩
    · obtain ⟨x, st, made, fate, result, conversation, saved⟩ := save_conversation queued acquired
      rw [acquired] at kept
      have settled : Settled db.library db.dialect s.pending (db.committed w)
          (db.contents st).committed result := by
        rw [← kept]
        cases conversation with
        | unprepared progress => exact progress.committed_eq served.preparation
        | preparationStall progress => exact progress.committed_eq served.preparation
        | prepared progress conclusion =>
          obtain ⟨sees, same⟩ := progress.prepared served.preparation
          have carried := conclusion.settled served (sees.trans same.symm)
          rw [same] at carried
          exact carried
      rw [saveChanges, saved]
      cases result <;> cases fate <;> exact ⟨settled, rfl⟩

end Session

end Folio
