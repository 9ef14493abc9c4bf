import Folio.Database.Task
import Folio.Query

/-!
# Stores

A store opens connections, gives them to one task after another, and makes the tables of documents when they are
first needed. Connections are taken in the order in which they were given back. A connection whose state is not
known is closed instead, and then no table is taken for granted any more, since the next connection may lead to
another database.
-/

namespace Folio

open Folio.Database
open Folio.Sql (TableName)
open Folio.Statement (Command CreateTable)

/-- A store of documents. -/
structure Store (σ : Type) where
  driver : Driver σ
  options : Options
  translators : List Predicate.Translator := []
  /-- Is the opening of a connection given up after a time? -/
  limitsConnecting : Bool := false

namespace Store

variable {σ α : Type}

/-- What documents are compiled with. -/
def schema (s : Store σ) : Schema :=
  ⟨s.driver.capability.dialect, s.options, s.translators⟩

/-! ## Connections -/

/-- Opens a connection. -/
def openConnection (s : Store σ) : Task σ ConnectionId := fun w =>
  let c := w.attempts
  let (answer, state) := s.driver.connect c w.state
  let w := { w.note state (.connect c) with attempts := c + 1 }
  match answer with
  | .reply () => (.ok c, w)
  | .failure f => (.error (.failed ⟨.noConnection "a connection could not be opened" [f.message], []⟩), w)
  | .never =>
    if s.limitsConnecting then
      (.error (.failed ⟨.noConnection "a connection was not opened in time" [], []⟩), w)
    else (.error .stalled, w)

/-- Takes a connection that nobody holds, or else a new one. -/
def acquire (s : Store σ) : Task σ ConnectionId := fun w =>
  match w.idle with
  | c :: rest => (.ok c, { w with idle := rest })
  | [] => s.openConnection w

/-- Gives a connection back. -/
def release (c : ConnectionId) : Task σ Unit := fun w =>
  (.ok (), w.giveBack c)

/-- Closes a connection in an unknown state. -/
def discard : Task σ Unit := fun w =>
  (.ok (), { w with tables := [] })

/-- A task on a connection, which is given back if the task fails. -/
def releasing (c : ConnectionId) (t : Task σ α) : Task σ α := fun w =>
  match t w with
  | (.error (.failed f), w) => (.error (.failed f), w.giveBack c)
  | other => other

/-- A task on a connection, which is given back when the task is over. -/
def withConnection (s : Store σ) (t : ConnectionId → Task σ α) : Task σ α := do
  let c ← s.acquire
  let a ← releasing c (t c)
  release c
  return a

/-! ## Commands -/

/-- Asks something of a connection. -/
def perform (s : Store σ) (c : ConnectionId) (op : Operation) : Task σ Reply := fun w =>
  let (answer, state) := s.driver.perform c op w.state
  (answer.toExcept, w.note state (.perform c op))

/-- Rejects a command that has more parameters than the database takes. -/
def checkParameters (s : Store σ) (cmd : Command) : Outcome Unit :=
  let limit := s.driver.capability.maxParameters
  if limit < cmd.params.length then fail (.feature (.tooManyParameters cmd.params.length limit)) else .ok ()

/-- Carries out a command that changes rows, and counts them. -/
def execute (s : Store σ) (c : ConnectionId) (cmd : Command) : Task σ Nat := do
  Task.ofOutcome (s.checkParameters cmd)
  let reply ← s.perform c (.execute cmd)
  Task.ofOutcome reply.toCount

/-- Carries out a command that answers rows. -/
def query (s : Store σ) (c : ConnectionId) (cmd : Command) : Task σ Cursor := do
  Task.ofOutcome (s.checkParameters cmd)
  let reply ← s.perform c (.query cmd)
  Task.ofOutcome reply.toSets

/-! ## Tables -/

/-- The mappings of different tables, the first one of each table. -/
def distinctTables : List Mapping → List Mapping
  | [] => []
  | m :: rest => m :: (distinctTables rest).filter (·.table ≠ m.table)

/-- The command that makes the table of a mapping. -/
def createCommand (s : Store σ) (m : Mapping) : Command :=
  .ofStatement s.driver.capability.dialect (.createTable ⟨m.table, m.idKind, m.softDeleted⟩)

/-- Makes tables, one after the other. -/
def createTables (s : Store σ) (c : ConnectionId) : List Mapping → Task σ Unit
  | [] => pure ()
  | m :: rest => do
    let _ ← s.execute c (s.createCommand m)
    modify fun w => { w with tables := w.tables ++ [m.table] }
    s.createTables c rest

/-- Makes the tables that are not known to exist. -/
def ensureTables (s : Store σ) (c : ConnectionId) (ms : List Mapping) : Task σ Unit := do
  let known := (← get).tables
  s.createTables c ((distinctTables ms).filter (!known.contains ·.table))

end Store

end Folio
