import Mathlib
import Folio.Store.Basic

/-!
# Folio.Proofs.Database.Run

Outcomes step by step, tasks as functions on the world, and what an exchange with the driver leaves behind.

A task on one connection does two things to the world: it talks to the driver, which the
log shows, and it learns which tables there are. `World.after` puts both into one value, so
that an exchange of two parts is the one after the other (`World.after_after`).
-/

namespace Folio

/-- What has come out of two steps has come out of the second, on what came out of the first. -/
theorem Outcome.bind_eq_ok {α β : Type} {x : Outcome α} {f : α → Outcome β} {b : β} :
    (x >>= f) = .ok b ↔ ∃ a, x = .ok a ∧ f a = .ok b := by
  cases x with
  | ok a => exact ⟨fun h => ⟨a, rfl, h⟩, fun ⟨_, same, h⟩ => by cases same; exact h⟩
  | error f => exact ⟨nofun, fun ⟨_, same, _⟩ => by cases same⟩

/-- What has come out of a step for each item, the first failure ending them all. -/
theorem Outcome.mapM_eq_ok {α β : Type} {f : α → Outcome β} {as : List α} {bs : List β} :
    as.mapM f = .ok bs ↔ List.Forall₂ (fun a b => f a = .ok b) as bs := by
  induction as generalizing bs with
  | nil =>
    constructor
    · intro h
      cases h
      exact .nil
    · rintro ⟨⟩
      rfl
  | cons a rest ih =>
    rw [List.mapM_cons]
    constructor
    · intro h
      obtain ⟨b, first, h⟩ := Outcome.bind_eq_ok.mp h
      obtain ⟨bs, others, h⟩ := Outcome.bind_eq_ok.mp h
      cases h
      exact .cons first (ih.mp others)
    · rintro (_ | ⟨first, others⟩)
      rw [first, ih.mpr others]
      rfl

/-- What is on the right has something on the left. -/
theorem exists_of_forall₂ {α β : Type} {R : α → β → Prop} {as : List α} {bs : List β} {b : β}
    (h : List.Forall₂ R as bs) (mem : b ∈ bs) : ∃ a ∈ as, R a b := by
  induction h with
  | nil => cases mem
  | cons first _ ih =>
    rcases List.mem_cons.mp mem with rfl | mem
    · exact ⟨_, List.mem_cons_self, first⟩
    · obtain ⟨a, there, related⟩ := ih mem
      exact ⟨a, List.mem_cons_of_mem _ there, related⟩

/-- What has come out of a step for some item. -/
theorem Outcome.exists_of_mem_mapM {α β : Type} {f : α → Outcome β} {as : List α} {bs : List β}
    (h : as.mapM f = .ok bs) {b : β} (mem : b ∈ bs) : ∃ a ∈ as, f a = .ok b := by
  have each := Outcome.mapM_eq_ok.mp h
  obtain ⟨a, there, made⟩ := exists_of_forall₂ each mem
  exact ⟨a, there, made⟩

end Folio

namespace Folio.Database

variable {σ α β : Type}

namespace Task

theorem bind_apply (t : Task σ α) (f : α → Task σ β) (w : World σ) :
    (t >>= f) w = match t w with
      | (.ok a, w) => f a w
      | (.error h, w) => (.error h, w) := by
  show ExceptT.bind t f w = _
  simp only [ExceptT.bind, ExceptT.mk, ExceptT.bindCont, bind, StateT.bind]
  rcases t w with ⟨_ | _, _⟩ <;> rfl

@[simp] theorem pure_apply (a : α) (w : World σ) : (pure a : Task σ α) w = (.ok a, w) := rfl

@[simp] theorem modify_apply (f : World σ → World σ) (w : World σ) :
    (modify f : Task σ Unit) w = (.ok (), f w) := rfl

@[simp] theorem ending_apply (t : Task σ α) (w : World σ) :
    t.ending w = (.ok (t w).1, (t w).2) := rfl

theorem ofOutcome_apply (x : Outcome α) (w : World σ) :
    (ofOutcome x : Task σ α) w = (x.mapError .failed, w) := by
  cases x <;> rfl

theorem bind_ok {t : Task σ α} {f : α → Task σ β} {w w' : World σ} {a : α}
    (h : t w = (.ok a, w')) : (t >>= f) w = f a w' := by
  rw [bind_apply, h]

theorem bind_error {t : Task σ α} {f : α → Task σ β} {w w' : World σ} {e : Halt}
    (h : t w = (.error e, w')) : (t >>= f) w = (.error e, w') := by
  rw [bind_apply, h]

/-- A task whose result does not matter. -/
theorem bind_pure_apply (t : Task σ α) (b : β) (w : World σ) :
    (t >>= fun _ => pure b) w = ((t w).1.map fun _ => b, (t w).2) := by
  rw [bind_apply]
  rcases t w with ⟨_ | _, _⟩ <;> rfl

end Task

/-- What was asked on a connection and what was answered, in order. -/
abbrev Exchange := List (Operation × Answer Reply)

/-- The world after an exchange on a connection that left the driver in a state, some
tables having been made by it. -/
def World.after (w : World σ) (c : ConnectionId) (x : Exchange) (state : σ)
    (made : List Sql.TableName) : World σ :=
  { w with
    state
    log := w.log ++ x.map fun (op, _) => .perform c op
    tables := w.tables ++ made }

@[simp] theorem World.after_nil (w : World σ) (c : ConnectionId) :
    w.after c [] w.state [] = w := by
  simp [World.after]

@[simp] theorem World.after_state (w : World σ) (c : ConnectionId) (x : Exchange) (st : σ)
    (made : List Sql.TableName) : (w.after c x st made).state = st := rfl

theorem World.after_after (w : World σ) (c : ConnectionId) (x y : Exchange) (st st' : σ)
    (made more : List Sql.TableName) :
    (w.after c x st made).after c y st' more = w.after c (x ++ y) st' (made ++ more) := by
  simp [World.after]

end Folio.Database

namespace Folio.Store

open Folio.Database
open Folio.Statement (Command)

variable {σ α : Type} (store : Store σ)

/-- Taking a connection leaves the driver as it is, unless one has to be opened. -/
theorem acquire_state (w : World σ) :
    (store.acquire w).2.state = w.state ∨
      ∃ c, (store.acquire w).2.state = (store.driver.connect c w.state).2 := by
  rw [acquire]
  split
  · exact .inl rfl
  · refine .inr ⟨w.attempts, ?_⟩
    rw [openConnection]
    rcases store.driver.connect w.attempts w.state with ⟨_ | f | _, st⟩
    · rfl
    · rfl
    · dsimp only
      split <;> rfl

theorem perform_apply (c : ConnectionId) (op : Operation) (w : World σ) :
    store.perform c op w =
      ((store.driver.perform c op w.state).1.toExcept,
        w.after c [(op, (store.driver.perform c op w.state).1)]
          (store.driver.perform c op w.state).2 []) := by
  simp [perform, World.note, World.after]

/-- A command within the limit is sent, and the number of rows is read off the answer. -/
theorem execute_apply {cmd : Command} (h : store.checkParameters cmd = .ok ()) (c : ConnectionId)
    (w : World σ) :
    store.execute c cmd w =
      ((store.driver.perform c (.execute cmd) w.state).1.toExcept.bind
          fun reply => reply.toCount.mapError .failed,
        w.after c [(.execute cmd, (store.driver.perform c (.execute cmd) w.state).1)]
          (store.driver.perform c (.execute cmd) w.state).2 []) := by
  have admitted : (Task.ofOutcome (store.checkParameters cmd) : Task σ Unit) w = (.ok (), w) := by
    rw [h]; rfl
  rw [execute, Task.bind_ok admitted, Task.bind_apply, perform_apply]
  rcases store.driver.perform c (.execute cmd) w.state with ⟨reply | f | _, st⟩
  · exact Task.ofOutcome_apply _ _
  · rfl
  · rfl

/-- A command beyond the limit is not sent. -/
theorem execute_refused {cmd : Command} {f : Failure} (h : store.checkParameters cmd = .error f)
    (c : ConnectionId) (w : World σ) : store.execute c cmd w = (.error (.failed f), w) := by
  rw [execute, Task.bind_error]
  rw [h]; rfl

theorem releasing_apply (c : ConnectionId) (t : Task σ α) (w : World σ) :
    releasing c t w =
      match t w with
      | (.error (.failed f), w) => (.error (.failed f), w.giveBack c)
      | other => other := rfl

end Folio.Store
