import Folio.Database.Driver

/-!
# Tasks

A task is carried out against a driver. It ends with a result, with a failure, or not at all if the driver never
answers. What it did to the connections and the tables stays done, however it ends.
-/

namespace Folio.Database

open Folio.Sql (TableName)

/-- Why a task has no result. -/
inductive Halt
  | failed (f : Failure)
  /-- The driver does not answer. -/
  | stalled
  deriving Repr

/-- What the tasks on a store share. -/
structure World (σ : Type) where
  /-- The state of the driver. -/
  state : σ
  /-- How many connections were asked for so far. -/
  attempts : Nat := 0
  /-- Open connections that no task holds, the one given back last at the end. -/
  idle : List ConnectionId := []
  /-- Tables known to exist. -/
  tables : List TableName := []
  /-- All that reached the driver, in order. -/
  log : List Event := []

/-- A task. -/
abbrev Task (σ : Type) := ExceptT Halt (StateM (World σ))

variable {σ α : Type}

namespace Task

/-- The task that is over with the outcome at once. -/
def ofOutcome : Outcome α → Task σ α
  | .ok a => pure a
  | .error f => throw (.failed f)

/-- The task's own end as a result. -/
def ending (t : Task σ α) : Task σ (Except Halt α) :=
  fun w =>
    let (result, w) := t w
    (.ok result, w)

end Task

/-- The result that an answer is. -/
def Answer.toExcept : Answer α → Except Halt α
  | .reply a => .ok a
  | .failure f => .error (.failed f)
  | .never => .error .stalled

namespace World

/-- The world after something reached the driver. -/
def note (w : World σ) (state : σ) (e : Event) : World σ :=
  { w with state, log := w.log ++ [e] }

/-- The world with a connection given back. -/
def giveBack (w : World σ) (c : ConnectionId) : World σ :=
  { w with idle := w.idle ++ [c] }

end World

end Folio.Database
