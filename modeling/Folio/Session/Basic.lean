import Folio.Session.Plan

/-!
# Sessions

A session works on the documents of one tenant. Its reads are carried out at once, its writes are queued and
saved together. It remembers the version of each document that it has read or written, and each queued write of a
document whose type is written back optimistically carries the version that the row will be at when the write is
carried out.
-/

namespace Folio

open Folio.Statement (StoredDocument)
open Folio.Time (Timestamp)

/-- What a queued write does, and the version that it expects. -/
inductive WriteKind
  | insert (id : DocumentId)
  | update (id : DocumentId) (expected : Option Int64)
  | upsert (id : DocumentId) (expected : Option Int64)
  | delete (id : DocumentId)
  /-- A deletion, or the taking back of one, by a predicate. -/
  | bulk
  deriving Repr, DecidableEq

namespace WriteKind

/-- The document that is written, if it is a single one. -/
def id? : WriteKind → Option DocumentId
  | .insert id | .update id _ | .upsert id _ | .delete id => some id
  | .bulk => none

/-- The version of the row after the write, if it is known. -/
def versionAfter : WriteKind → Option Int64
  | .insert _ => some 1
  | .update _ expected | .upsert _ expected => expected.map (· + 1)
  | .delete _ | .bulk => none

end WriteKind

/-- A queued write. -/
structure PendingWrite where
  mapping : Mapping
  kind : WriteKind
  statement : Statement
  deriving Repr

/-- A unit of work on the documents of one tenant. -/
structure Session where
  tenant : String
  /-- Queued writes, in the order in which they were made. -/
  pending : List PendingWrite := []
  versions : Versions := .empty

namespace Session

/-- A session for the given tenant, or for none in particular. -/
def open? (o : Options) (tenant : Option String) : Outcome Session :=
  return { tenant := ← o.sessionTenant tenant }

/-- The version known of a document. -/
def versionOf (s : Session) (t : DocumentType) (id : DocumentId) : Option Int64 :=
  s.versions.get? ⟨t.name, id⟩

/-- The session's documents of a type. -/
def scope (s : Session) (schema : Schema) (t : DocumentType) : Scope :=
  ⟨schema, t, s.tenant⟩

/-- Drops all queued writes. -/
def discardChanges (s : Session) : Session :=
  { s with pending := [] }

/-- Is it a write of that document? -/
def isWriteOf (m : Mapping) (id : DocumentId) (p : PendingWrite) : Bool :=
  p.mapping.typeName = m.typeName && p.kind.id? = some id

/-- The version that the row will be at when a new write is carried out: that after the last queued write of the
document, or else the known one. -/
def expectedVersion (s : Session) (m : Mapping) (id : DocumentId) : Option Int64 :=
  if m.optimistic then
    match s.pending.reverse.find? (isWriteOf m id) with
    | some p => p.kind.versionAfter
    | none => s.versions.get? ⟨m.typeName, id⟩
  else none

/-- Queues a write. -/
def push (s : Session) (p : PendingWrite) : Session :=
  { s with pending := s.pending ++ [p] }

/-- The row that holds a document. -/
def storedDocument (s : Session) (t : DocumentType) (m : Mapping) (now : Timestamp) (doc : Document) :
    Outcome StoredDocument :=
  return {
    id := doc.id.toValue
    data := ← doc.write t
    type := m.typeAlias
    tenant := s.tenant
    modified := now
  }

/-! ## Queuing writes -/

/-- Queues an insert. -/
def insert (s : Session) (schema : Schema) (t : DocumentType) (now : Timestamp) (doc : Document) :
    Outcome Session := do
  let m := schema.mapping t
  let stored ← s.storedDocument t m now doc
  return s.push ⟨m, .insert doc.id, .insert ⟨m.table, stored⟩⟩

/-- Queues the update of a document that is there. -/
def update (s : Session) (schema : Schema) (t : DocumentType) (now : Timestamp) (doc : Document) :
    Outcome Session := do
  let m := schema.mapping t
  let stored ← s.storedDocument t m now doc
  let expected := s.expectedVersion m doc.id
  return s.push ⟨m, .update doc.id expected, .update ⟨m.table, stored, expected⟩⟩

/-- Queues an insert or an update, whichever it takes. A deleted document comes back. -/
def store (s : Session) (schema : Schema) (t : DocumentType) (now : Timestamp) (doc : Document) :
    Outcome Session := do
  let m := schema.mapping t
  let stored ← s.storedDocument t m now doc
  let expected := s.expectedVersion m doc.id
  return s.push ⟨m, .upsert doc.id expected, .upsert ⟨m.table, stored, expected, m.softDeleted⟩⟩

/-- The time of a deletion that keeps the rows. -/
def softTime (m : Mapping) (now : Timestamp) : Option Timestamp :=
  if m.softDeleted then some now else none

/-- Queues a delete; where documents are deleted softly the row is kept. -/
def delete (s : Session) (schema : Schema) (t : DocumentType) (now : Timestamp) (id : DocumentId) :
    Session :=
  let m := schema.mapping t
  s.push ⟨m, .delete id, .delete ⟨m.table, id.toValue, s.tenant, softTime m now⟩⟩

/-- Queues a delete of the row. -/
def hardDelete (s : Session) (schema : Schema) (t : DocumentType) (id : DocumentId) : Session :=
  let m := schema.mapping t
  s.push ⟨m, .delete id, .delete ⟨m.table, id.toValue, s.tenant, none⟩⟩

/-- Queues a delete of the documents that meet the predicate. -/
def deleteWhere (s : Session) (schema : Schema) (t : DocumentType) (now : Timestamp) (e : Expr) :
    Outcome Session := do
  let m := schema.mapping t
  let filter ← (s.scope schema t).compiler.compile e
  return s.push ⟨m, .bulk, .deleteWhere ⟨m.table, [filter], s.tenant, softTime m now⟩⟩

/-- Queues that the deletion of the documents that meet the predicate is taken back. -/
def undeleteWhere (s : Session) (schema : Schema) (t : DocumentType) (e : Expr) : Outcome Session := do
  let m := schema.mapping t
  if !m.softDeleted then fail (.feature (.notSoftDeleted m.typeAlias))
  else
    let filter ← (s.scope schema t).compiler.compile e
    return s.push ⟨m, .bulk, .undeleteWhere ⟨m.table, [filter], s.tenant⟩⟩

end Session

end Folio
