import Folio.Failure
import Folio.Json.Reader
import Folio.Schema.Mapping

/-!
# Documents

A document is a JSON object whose member `id` is its identity.
-/

namespace Folio

/-- A document, with the identity that it has in it. -/
structure Document where
  id : DocumentId
  body : Json
  deriving Repr

/-- The identity that a JSON value stands for. -/
def IdKind.ofJson (kind : IdKind) (j : Json) : Option DocumentId :=
  match kind, j with
  | .uuid, .text s => if s.length = 36 then (Uuid.read s).map .uuid else none
  | .text, .text s => some (.text s)
  | .int32, .whole n =>
    if Int32.minValue.toInt ≤ n ∧ n ≤ Int32.maxValue.toInt then some (.int32 (Int32.ofInt n)) else none
  | .int64, .whole n =>
    if Int64.minValue.toInt ≤ n ∧ n ≤ Int64.maxValue.toInt then some (.int64 (Int64.ofInt n)) else none
  | _, _ => none

namespace Document

/-- The JSON value as a document whose identity is of the kind. -/
def ofJson (kind : IdKind) (j : Json) : Option Document :=
  ((j.member? "id").bind kind.ofJson).map fun id => ⟨id, j⟩

/-- Reads the stored form of a document. -/
def read (kind : IdKind) (text : String) : Outcome Document :=
  match (Json.read text).bind (ofJson kind) with
  | some doc => .ok doc
  | none => fail .malformedJson

/-- The stored form of a document. -/
def write (t : DocumentType) (doc : Document) : Outcome String :=
  if t.storable doc.body then .ok doc.body.render else fail .malformedJson

end Document

end Folio
