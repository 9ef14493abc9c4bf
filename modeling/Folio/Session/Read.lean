import Folio.Session.Basic
import Folio.Store.Basic

/-!
# Reading

A read takes a connection, makes the tables that it needs, sends its command and gives the connection back before
the rows are looked at.
-/

namespace Folio

open Folio.Database
open Folio.Statement (Command Fragment Selection)

/-- How a call on a session ended, and what it left behind. -/
structure Ended (σ α : Type) where
  result : Except Halt α
  session : Session
  world : World σ

namespace Store

variable {σ α : Type}

/-- Sends a command that answers rows, the tables it needs made first. -/
def fetch (s : Store σ) (ms : List Mapping) (cmd : Command) : Task σ Cursor :=
  s.withConnection fun c => do
    s.ensureTables c ms
    s.query c cmd

end Store

namespace Plan

variable {α : Type}

/-- The plan's selection as a statement. -/
def statement (p : Plan α) : Statement :=
  .select p.selection

/-- The answer in the set that a cursor stands on, or the failure to get one, and the versions known then. -/
def readSet (p : Plan α) (set : Outcome (List Row)) (versions : Versions) : Outcome α × Versions :=
  match set with
  | .ok rows => p.read rows versions
  | .error f => (.error f, versions)

end Plan

namespace Session

variable {σ α : Type}

/-- Carries out a plan. -/
def run (store : Store σ) (p : Plan α) (s : Session) (w : World σ) : Ended σ α :=
  let cmd := Command.ofStatement store.driver.capability.dialect p.statement
  match store.fetch [p.mapping] cmd w with
  | (.error h, w) => ⟨.error h, s, w⟩
  | (.ok cursor, w) =>
    let (answer, versions) := p.readSet cursor.takeCurrent.1 s.versions
    ⟨answer.mapError .failed, { s with versions }, w⟩

/-- The selection of documents of the tenant that are not deleted. -/
def ownDocuments (s : Session) (m : Mapping) (filter : Fragment) : Selection where
  table := m.table
  projection := .documents
  filters := [filter]
  tenant := some s.tenant
  deletion := if m.softDeleted then .notDeleted else .any

/-- The plan that reads the document of the identity. -/
def loadPlan (s : Session) (schema : Schema) (t : DocumentType) (id : DocumentId) : Plan (Option Document) :=
  let m := schema.mapping t
  let filter := Fragment.compare ⟨.column Sql.idColumn, .none⟩ .eq id.toValue
  ⟨m, s.ownDocuments m filter, fun rows versions =>
    let (docs, versions) := readDocuments m (rows.take 1) versions
    (docs.map List.head?, versions)⟩

/-- The plan that reads the documents of the identities. -/
def loadManyPlan (s : Session) (schema : Schema) (t : DocumentType) (ids : List DocumentId) :
    Plan (List Document) :=
  let m := schema.mapping t
  let filter := Fragment.among ⟨.column Sql.idColumn, .none⟩ (ids.map (·.toValue))
  .ofDocuments m (s.ownDocuments m filter)

/-- Reads a document. -/
def load (store : Store σ) (t : DocumentType) (id : DocumentId) (s : Session) (w : World σ) :
    Ended σ (Option Document) :=
  s.run store (s.loadPlan store.schema t id) w

/-- Reads the documents of the identities; those that are not there are passed over. -/
def loadMany (store : Store σ) (t : DocumentType) (ids : List DocumentId) (s : Session) (w : World σ) :
    Ended σ (List Document) :=
  if ids.isEmpty then ⟨.ok [], s, w⟩ else s.run store (s.loadManyPlan store.schema t ids) w

/-- Carries out a plan that could be made, or fails as its making did. -/
def runPlanned (store : Store σ) (p : Outcome (Plan α)) (s : Session) (w : World σ) : Ended σ α :=
  match p with
  | .ok p => s.run store p w
  | .error f => ⟨.error (.failed f), s, w⟩

end Session

end Folio
