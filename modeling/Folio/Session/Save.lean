import Folio.Session.Basic
import Folio.Store.Basic

/-!
# Saving

All queued writes are carried out in one transaction, in their order. If one of them fails, or they take too
long, the transaction is rolled back and the queue stays as it is. A connection on which the transaction could
not be ended is closed, and so is one on which a command was given up that the database may still answer.
-/

namespace Folio

open Folio.Database
open Folio.Statement (Command)

/-- What the outcome of a queued write means for its document. -/
def PendingWrite.judge (p : PendingWrite) : Except Failure Nat → Outcome Unit
  | .error f =>
    match p.kind with
    | .insert id => if f.isDuplicateKey then fail (.alreadyExists p.mapping.typeAlias id) else .error f
    | _ => .error f
  | .ok 0 =>
    match p.kind with
    | .update id (some v) | .upsert id (some v) => fail (.conflict p.mapping.typeAlias id v)
    | .update id none => fail (.notFound p.mapping.typeAlias id)
    | _ => .ok ()
  | .ok _ => .ok ()

namespace Store

variable {σ : Type}

/-- Carries out a queued write. -/
def applyWrite (s : Store σ) (c : ConnectionId) (p : PendingWrite) : Task σ Unit := do
  let cmd := Command.ofStatement s.driver.capability.dialect p.statement
  match ← (s.execute c cmd).ending with
  | .ok n => Task.ofOutcome (p.judge (.ok n))
  | .error (.failed f) => Task.ofOutcome (p.judge (.error f))
  | .error .stalled => throw .stalled

/-- Carries out queued writes up to the first that fails. -/
def applyWrites (s : Store σ) (c : ConnectionId) : List PendingWrite → Task σ Unit
  | [] => pure ()
  | p :: rest => do
    s.applyWrite c p
    s.applyWrites c rest

/-- Rolls the transaction back and gives the connection back; one that cannot roll back is closed. -/
def rollBack (s : Store σ) (c : ConnectionId) : Task σ Unit := do
  match ← (s.perform c .rollback).ending with
  | .ok _ => release c
  | .error (.failed _) => discard
  | .error .stalled => throw .stalled

/-- The failure of writes that take too long. -/
def timedOut (s : Store σ) : Failure :=
  ⟨.timedOut s.options.timeout, []⟩

/-- Carries out queued writes in a transaction. -/
def transact (s : Store σ) (c : ConnectionId) (writes : List PendingWrite) : Task σ Unit := do
  let _ ← releasing c (s.perform c .start)
  match ← (s.applyWrites c writes).ending with
  | .error (.failed f) =>
    s.rollBack c
    throw (.failed f)
  | .error .stalled =>
    if s.driver.capability.cancelSafe then s.rollBack c else discard
    throw (.failed s.timedOut)
  | .ok () =>
    match ← (s.perform c .commit).ending with
    | .ok _ => release c
    | .error (.failed f) =>
      s.rollBack c
      throw (.failed f)
    | .error .stalled => throw .stalled

end Store

/-- The versions known after a write was saved. -/
def PendingWrite.saved (vs : Versions) (p : PendingWrite) : Versions :=
  let key (id : DocumentId) : DocumentKey := ⟨p.mapping.typeName, id⟩
  match p.kind with
  | .insert id => vs.set (key id) 1
  | .update id (some v) | .upsert id (some v) => vs.set (key id) (v + 1)
  | .update id none | .upsert id none => vs.bump (key id)
  | .delete id => vs.forget (key id)
  | .bulk => vs

namespace Session

variable {σ : Type}

/-- The session after its writes were saved. -/
def saved (s : Session) : Session :=
  { s with pending := [], versions := s.pending.foldl PendingWrite.saved s.versions }

/-- Saves all queued writes. -/
def save (store : Store σ) (s : Session) : Task σ Session := do
  if s.pending.isEmpty then return s
  else
    let c ← store.acquire
    Store.releasing c (store.ensureTables c (s.pending.map (·.mapping)))
    store.transact c s.pending
    return s.saved

end Session

end Folio
