import Folio.Proofs.Database.Run
import Folio.Session.Save

/-!
# Folio.Proofs.Session.Conversation

What a save says to its connection, and what comes of it.

A save is planned as a list of `Step`s: the tables that are missing are made, the
transaction is started, the queued writes are carried out. `Progress` is how far such a plan
gets: the steps are taken in order up to the first that fails. `Conversation` puts the ending
to it: a commit if all went well, else a rollback.
-/

namespace Folio

open Folio.Database
open Folio.Sql (TableName)
open Folio.Statement (Command)

/-- What an answer means for a queued write: it takes a number of rows, and some writes
must have met one. -/
def PendingWrite.verdict (p : PendingWrite) : Answer Reply → Except Halt Unit
  | .never => .error .stalled
  | .failure f =>
    match p.kind with
    | .insert id =>
      if f.isDuplicateKey then .error (.failed ⟨.alreadyExists p.mapping.typeAlias id, []⟩)
      else .error (.failed f)
    | _ => .error (.failed f)
  | .reply (.sets _) => .error (.failed ⟨.result .setsForCount, []⟩)
  | .reply (.count 0) =>
    match p.kind with
    | .update id (some v) | .upsert id (some v) =>
      .error (.failed ⟨.conflict p.mapping.typeAlias id v, []⟩)
    | .update id none => .error (.failed ⟨.notFound p.mapping.typeAlias id, []⟩)
    | _ => .ok ()
  | .reply (.count _) => .ok ()

namespace Saving

/-- A step of a save. -/
inductive Step
  | create (m : Mapping)
  | start
  | write (p : PendingWrite)

/-- The table that a step makes. -/
def Step.table? : Step → Option TableName
  | .create m => some m.table
  | .start | .write _ => none

/-- What becomes of the connection. -/
inductive Fate
  /-- It is given back. -/
  | returned
  /-- It is closed, and no table is taken for granted any more. -/
  | closed
  /-- The save never ends. -/
  | held

/-- The world without the connection, or with it given back. -/
def Fate.leave {σ : Type} (fate : Fate) (c : ConnectionId) (w : World σ) : World σ :=
  match fate with
  | .returned => w.giveBack c
  | .closed => { w with tables := [] }
  | .held => w

section

variable {σ : Type} (store : Store σ) (c : ConnectionId)

/-- The command of a queued write. -/
def command (p : PendingWrite) : Command :=
  .ofStatement store.driver.capability.dialect p.statement

/-- What a step asks. -/
def operation : Step → Operation
  | .create m => .execute (store.createCommand m)
  | .start => .start
  | .write p => .execute (command store p)

/-- The failure of a step that is not sent, since it has more parameters than the database
takes. Only writes have any. -/
def refusal : Step → Option Failure
  | .write p =>
    let limit := store.driver.capability.maxParameters
    let count := (command store p).params.length
    if limit < count then some ⟨.feature (.tooManyParameters count limit), []⟩ else none
  | .create _ | .start => none

/-- What an answer means for a step. -/
def verdict : Step → Answer Reply → Except Halt Unit
  | .write p, answer => p.verdict answer
  | _, .never => .error .stalled
  | _, .failure f => .error (.failed f)
  | .create _, .reply (.sets _) => .error (.failed ⟨.result .setsForCount, []⟩)
  | _, .reply _ => .ok ()

/-- Steps taken in order, up to the first that fails: what was said, the driver's state
then, the steps that passed, and why the next one did not. -/
inductive Progress :
    List Step → σ → Exchange → σ → List Step → Option Halt → Prop
  | done {st : σ} : Progress [] st [] st [] none
  | passed {step rest st answer st₁ x st₂ passed halt} :
      refusal store step = none →
      store.driver.perform c (operation store step) st = (answer, st₁) →
      verdict step answer = .ok () →
      Progress rest st₁ x st₂ passed halt →
      Progress (step :: rest) st ((operation store step, answer) :: x) st₂ (step :: passed) halt
  | failed {step rest st answer st₁ halt} :
      refusal store step = none →
      store.driver.perform c (operation store step) st = (answer, st₁) →
      verdict step answer = .error halt →
      Progress (step :: rest) st [(operation store step, answer)] st₁ [] (some halt)
  | refused {step rest st f} :
      refusal store step = some f →
      Progress (step :: rest) st [] st [] (some (.failed f))

/-- What becomes of a connection on which a rollback was asked for. -/
def fateOf : Answer Reply → Fate
  | .reply _ => .returned
  | .failure _ => .closed
  | .never => .held

/-- How a save ends that was rolled back because of a failure: with that failure, even if
the rollback failed too. -/
def reported (f : Failure) : Answer Reply → Except Halt Unit
  | .never => .error .stalled
  | _ => .error (.failed f)

/-- The mappings whose tables are not known, each table where it is first needed. -/
def firstUses (known : List TableName) : List Mapping → List Mapping
  | [] => []
  | m :: rest =>
    if m.table ∈ known then firstUses known rest
    else m :: firstUses (m.table :: known) rest

/-- The steps before the writes. -/
def preparation (missing : List Mapping) : List Step :=
  missing.map .create ++ [.start]

/-- The tables that steps make. -/
def tablesOf (steps : List Step) : List TableName :=
  steps.filterMap Step.table?

/-- Why the writes of a save are undone. -/
inductive Undone (writes : List PendingWrite) (st : σ) : Exchange → σ → Failure → Prop
  /-- One of them failed. -/
  | write {x st₁ passed f} :
      Progress store c (writes.map .write) st x st₁ passed (some (.failed f)) →
      Undone writes st x st₁ f
  /-- They took too long, on a connection that can be used further. -/
  | timeout {x st₁ passed} :
      Progress store c (writes.map .write) st x st₁ passed (some .stalled) →
      store.driver.capability.cancelSafe = true →
      Undone writes st x st₁ store.timedOut
  /-- All passed, but the commit failed. -/
  | commit {x st₁ st₂ passed f} :
      Progress store c (writes.map .write) st x st₁ passed none →
      store.driver.perform c .commit st₁ = (.failure f, st₂) →
      Undone writes st (x ++ [(.commit, .failure f)]) st₂ f

/-- What is said after the start of the transaction: the driver's state then, the fate of the
connection, and how the save ends. -/
inductive Conclusion (writes : List PendingWrite) (st : σ) :
    Exchange → σ → Fate → Except Halt Unit → Prop
  | committed {x st₁ passed reply st₂} :
      Progress store c (writes.map .write) st x st₁ passed none →
      store.driver.perform c .commit st₁ = (.reply reply, st₂) →
      Conclusion writes st (x ++ [(.commit, .reply reply)]) st₂ .returned (.ok ())
  | commitStall {x st₁ passed st₂} :
      Progress store c (writes.map .write) st x st₁ passed none →
      store.driver.perform c .commit st₁ = (.never, st₂) →
      Conclusion writes st (x ++ [(.commit, .never)]) st₂ .held (.error .stalled)
  | rolledBack {x st₁ f answer st₂} :
      Undone store c writes st x st₁ f →
      store.driver.perform c .rollback st₁ = (answer, st₂) →
      Conclusion writes st (x ++ [(.rollback, answer)]) st₂ (fateOf answer) (reported f answer)
  /-- The writes took too long on a connection that cannot be used further. -/
  | dropped {x st₁ passed} :
      Progress store c (writes.map .write) st x st₁ passed (some .stalled) →
      store.driver.capability.cancelSafe = false →
      Conclusion writes st x st₁ .closed (.error (.failed store.timedOut))

/-- All that is said on the connection of a save that makes the missing tables and carries
out the writes: the driver's state then, the tables made, the fate of the connection, and
how the save ends. -/
inductive Conversation (missing : List Mapping) (writes : List PendingWrite) (st : σ) :
    Exchange → σ → List TableName → Fate → Except Halt Unit → Prop
  /-- A table could not be made, or the transaction not be started. -/
  | unprepared {x st₁ passed f} :
      Progress store c (preparation missing) st x st₁ passed (some (.failed f)) →
      Conversation missing writes st x st₁ (tablesOf passed) .returned (.error (.failed f))
  | preparationStall {x st₁ passed} :
      Progress store c (preparation missing) st x st₁ passed (some .stalled) →
      Conversation missing writes st x st₁ (tablesOf passed) .held (.error .stalled)
  | prepared {x st₁ passed y st₂ fate result} :
      Progress store c (preparation missing) st x st₁ passed none →
      Conclusion store c writes st₁ y st₂ fate result →
      Conversation missing writes st (x ++ y) st₂ (tablesOf passed) fate result

end

end Saving

end Folio
