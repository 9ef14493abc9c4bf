import Folio.Reply
import Folio.Statement.Command

/-!
# Drivers

What a store asks of a database: to open connections, and to carry out commands and the steps of transactions on
them. A driver is given by its answers. Each may depend on everything that was asked before, which the driver's
state stands for; some questions are never answered.
-/

namespace Folio.Database

open Folio.Sql (Dialect)
open Folio.Statement (Command)

/-- What a kind of database offers. -/
structure Capability where
  dialect : Dialect
  /-- How many parameters a command may have. -/
  maxParameters : Nat
  /-- Does the database itself answer a command of several statements? -/
  multipleResultSets : Bool
  /-- Can a connection be used further after a command on it was given up? -/
  cancelSafe : Bool
  deriving Repr, DecidableEq

namespace Capability

/-- What SQLite offers. -/
def sqlite : Capability :=
  ⟨.sqlite, 32766, false, true⟩

/-- What SQL Server offers. -/
def mssql : Capability :=
  ⟨.mssql, 2100, true, false⟩

/-- What a database of the dialect offers. -/
def ofDialect : Dialect → Capability
  | .sqlite => sqlite
  | .mssql => mssql

end Capability

/-- A connection, by the number of the attempt that opened it. -/
abbrev ConnectionId := Nat

/-- What is asked of an open connection. -/
inductive Operation
  /-- A command that changes rows. -/
  | execute (c : Command)
  /-- A command that answers rows. -/
  | query (c : Command)
  | start
  | commit
  | rollback
  deriving Repr

/-- An answer, if there ever is one. -/
inductive Answer (α : Type)
  | reply (a : α)
  | failure (f : Failure)
  | never
  deriving Repr

/-- A driver whose answers depend on a state. -/
structure Driver (σ : Type) where
  capability : Capability
  connect : ConnectionId → σ → Answer Unit × σ
  perform : ConnectionId → Operation → σ → Answer Reply × σ

/-- What reached the driver. -/
inductive Event
  | connect (c : ConnectionId)
  | perform (c : ConnectionId) (op : Operation)
  deriving Repr

end Folio.Database
