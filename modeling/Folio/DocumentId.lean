import Folio.Value

/-!
# Document identities
-/

namespace Folio

/-- The identity of a document. -/
inductive DocumentId
  | uuid (u : Uuid)
  | text (s : String)
  | int32 (n : Int32)
  | int64 (n : Int64)
  deriving Repr, DecidableEq

/-- The kinds of identity that a type of documents can have. -/
inductive IdKind
  | uuid
  | text
  | int32
  | int64
  deriving Repr, DecidableEq

namespace DocumentId

/-- The identity's kind. -/
def kind : DocumentId → IdKind
  | .uuid _ => .uuid
  | .text _ => .text
  | .int32 _ => .int32
  | .int64 _ => .int64

/-- The identity as people read it. -/
def toText : DocumentId → String
  | .uuid u => u.toText
  | .text s => s
  | .int32 n => toString n.toInt
  | .int64 n => toString n.toInt

/-- The identity as a value. -/
def toValue : DocumentId → Value
  | .uuid u => .uuid u
  | .text s => .text s
  | .int32 n => .int32 n
  | .int64 n => .int64 n

/-- The place of a kind in the order of identities. -/
def rank : DocumentId → Nat
  | .uuid _ => 0
  | .text _ => 1
  | .int32 _ => 2
  | .int64 _ => 3

/-- The order of identities: first by kind, then by value. -/
def le (a b : DocumentId) : Bool :=
  match a, b with
  | .uuid u, .uuid v => u.value ≤ v.value
  | .text s, .text t => s ≤ t
  | .int32 n, .int32 m => n ≤ m
  | .int64 n, .int64 m => n ≤ m
  | a, b => a.rank ≤ b.rank

end DocumentId

end Folio
