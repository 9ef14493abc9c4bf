import Folio.Proofs.Database.Run
import Folio.Proofs.Relational.Effect
import Folio.Session.Batch

/-!
# Folio.Proofs.Relational.Server

Databases that carry out what they are asked, as far as it can be told from their answers.

* `Request`: what a session asks, each with its `operation` on a connection.
* `Library.respond`: what a request does to the `Contents` and how it is answered.
* `Database.Serves`: a request is either answered so, or it fails and nothing is committed.
* `Database.Answers`: a request is answered so, and fails only where SQL refuses it.

Changes are only ever made within a transaction, which starts from what is committed. Reads
are made outside of one, and see what is committed.
-/

namespace Folio

open Folio.Database

namespace Statement

open Folio.Relational (Tree)

/-- A command of several statements. -/
def Command.ofStatements (d : Sql.Dialect) (ss : List Statement) : Command :=
  (ss.foldl Builder.append { dialect := d }).build

theorem Command.ofStatements_singleton (d : Sql.Dialect) (s : Statement) :
    Command.ofStatements d [s] = .ofStatement d s := rfl

end Statement

theorem Batch.command_eq {α : Type} (b : Batch α) (schema : Schema) :
    b.command schema = .ofStatements schema.dialect (b.plans.map (·.statement)) := by
  rw [Batch.command, Statement.Command.ofStatements, List.foldl_map]

namespace Statement

open Folio.Relational (Tree)

/-- The texts of trees, put together. -/
def joined (d : Sql.Dialect) (text : String) : List Tree → String
  | [] => text
  | t :: rest => joined d (text ++ (if text.isEmpty then "" else "\n") ++ t.sql d ++ ";") rest

theorem foldl_append (ss : List Statement) (b : Builder) :
    ss.foldl Builder.append b =
      let bound := ss.mapM (Statement.tree b.dialect) b.params
      { b with sql := joined b.dialect b.sql bound.1, params := bound.2 } := by
  induction ss generalizing b with
  | nil => rfl
  | cons s rest ih =>
    rw [List.foldl_cons, ih, Builder.append, Statement.sql_eq_tree, List.mapM_cons]
    rfl

/-- A command is the text of its statements' trees and the values bound with them. -/
theorem Command.ofStatements_eq (d : Sql.Dialect) (ss : List Statement) :
    Command.ofStatements d ss =
      let bound := ss.mapM (Statement.tree d) #[]
      ⟨joined d "" bound.1, bound.2.toList⟩ := by
  rw [Command.ofStatements, foldl_append]
  rfl

/-- So is a command of one statement. -/
theorem Command.ofStatement_eq (d : Sql.Dialect) (s : Statement) :
    Command.ofStatement d s = ⟨(s.tree d #[]).1.sql d ++ ";", (s.tree d #[]).2.toList⟩ := by
  show Command.mk ("" ++ "" ++ (s.sql d #[]).1 ++ ";") (s.sql d #[]).2.toList = _
  rw [sql_eq_tree, String.empty_append, String.empty_append]
  rfl

end Statement

namespace Relational

open Folio.Statement (Command)

/-- What the tables hold: as committed, and as the transaction at hand sees them. -/
structure Contents where
  committed : Content
  working : Content

/-- What a session asks of its database. -/
inductive Request
  | write (s : Statement)
  | read (ss : List Statement)
  | start
  | commit
  | rollback

/-- The request on a connection. -/
def Request.operation (d : Sql.Dialect) : Request → Operation
  | .write s => .execute (.ofStatement d s)
  | .read ss => .query (.ofStatements d ss)
  | .start => .start
  | .commit => .commit
  | .rollback => .rollback

/-- What a request does to the contents, and how it is answered. -/
noncomputable def Library.respond (L : Library) (d : Sql.Dialect) (r : Request) (k : Contents) :
    Except Refusal (Reply × Contents) :=
  match r with
  | .write s => (L.effect d s k.working).map fun (n, working) => (.count n, { k with working })
  | .read ss => .ok (.sets (.ofList (L.answers d ss k.committed)), k)
  | .start | .rollback => .ok (.count 0, { k with working := k.committed })
  | .commit => .ok (.count 0, { k with committed := k.working })

/-- A store whose driver's state stands for the contents of tables. -/
structure Database (σ : Type) where
  store : Store σ
  library : Library
  contents : σ → Contents
  connect_contents : ∀ c st, contents (store.driver.connect c st).2 = contents st

namespace Database

variable {σ : Type} (db : Database σ)

/-- The SQL that the database speaks. -/
def dialect : Sql.Dialect :=
  db.store.driver.capability.dialect

/-- What is committed. -/
def committed (w : World σ) : Content :=
  (db.contents w.state).committed

/-- The database carries the request out, or else fails with nothing committed. -/
def Serves (r : Request) : Prop :=
  ∀ c st, match db.store.driver.perform c (r.operation db.dialect) st with
    | (.reply reply, st') =>
      db.library.respond db.dialect r (db.contents st) = .ok (reply, db.contents st')
    | (_, st') => (db.contents st').committed = (db.contents st).committed

/-- The database carries the request out and fails only if it refuses it, with the failure
that is given for that. -/
def Answers (refused : Request → Refusal → Failure) (r : Request) : Prop :=
  ∀ c st, match db.library.respond db.dialect r (db.contents st) with
    | .ok (reply, k) => ∃ st', db.contents st' = k ∧
      db.store.driver.perform c (r.operation db.dialect) st = (.reply reply, st')
    | .error refusal => ∃ st', db.contents st' = db.contents st ∧
      db.store.driver.perform c (r.operation db.dialect) st = (.failure (refused r refusal), st')

variable {db}

/-- A database that answers every time serves. -/
theorem Answers.serves {refused : Request → Refusal → Failure} {r : Request}
    (h : db.Answers refused r) : db.Serves r := by
  intro c st
  have answered := h c st
  cases response : db.library.respond db.dialect r (db.contents st) with
  | ok p =>
    simp only [response] at answered
    obtain ⟨st', there, performed⟩ := answered
    simp only [performed, there]
  | error refusal =>
    simp only [response] at answered
    obtain ⟨st', same, performed⟩ := answered
    simp only [performed, same]

end Database

/-! ### Databases that answer -/

/-- A library that knows nothing of what SQL leaves to the database. -/
noncomputable def Library.bare : Library where
  json _ _ := .null
  jsonType _ _ := .null
  elements _ _ := []
  cast _ v := v
  byteLength _ := .null
  trimmed v := v
  less _ _ := false
  order _ _ := none
  like _ _ := none
  equalFolded _ _ := none
  free _ _ := none
  aggregate _ _ := .null
  shown v := v
  arrange _ rows := Multiset.toList rows
  arrange_coe _ rows := Multiset.coe_toList rows

/-- A driver that carries out the requests that it makes out in what is asked. -/
noncomputable def Library.driver (L : Library) (capability : Capability)
    (request? : Operation → Option Request) (refused : Request → Refusal → Failure) :
    Driver Contents where
  capability
  connect _ k := (.reply (), k)
  perform _ op k :=
    match request? op with
    | none => (.never, k)
    | some r =>
      match L.respond capability.dialect r k with
      | .ok (reply, k') => (.reply reply, k')
      | .error refusal => (.failure (refused r refusal), k)

/-- A database whose driver's state is what the tables hold. -/
noncomputable def Library.database (L : Library) (capability : Capability) (options : Options)
    (request? : Operation → Option Request) (refused : Request → Refusal → Failure) :
    Database Contents where
  store := { driver := L.driver capability request? refused, options }
  library := L
  contents := id
  connect_contents _ _ := rfl

/-- It answers what it makes out. -/
theorem Library.database_answers {L : Library} {capability : Capability} {options : Options}
    {request? : Operation → Option Request} {refused : Request → Refusal → Failure} {r : Request}
    (known : request? (r.operation capability.dialect) = some r) :
    (L.database capability options request? refused).Answers refused r := by
  intro c k
  have performed : (L.database capability options request? refused).store.driver.perform c
      (r.operation capability.dialect) k =
        match L.respond capability.dialect r k with
        | .ok (reply, k') => (.reply reply, k')
        | .error refusal => (.failure (refused r refusal), k) := by
    show (match request? (r.operation capability.dialect) with | none => _ | some r => _) = _
    rw [known]
  show match L.respond capability.dialect r k with | .ok (reply, k) => _ | .error refusal => _
  cases response : L.respond capability.dialect r k with
  | ok p =>
    rw [response] at performed
    exact ⟨p.2, rfl, performed⟩
  | error refusal =>
    rw [response] at performed
    exact ⟨k, rfl, performed⟩

end Relational

end Folio
