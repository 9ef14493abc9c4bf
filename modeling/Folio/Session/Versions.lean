import Folio.DocumentId

/-!
# Versions

The versions at which a session has read or written its documents. Documents of different types may have the same
identity, so a version is filed under both.
-/

namespace Folio

/-- A document, by the name of its type and its identity. -/
structure DocumentKey where
  type : String
  id : DocumentId
  deriving Repr, DecidableEq

/-- The versions that a session knows. -/
structure Versions where
  /-- The version of a document, if it is known. -/
  get? : DocumentKey → Option Int64

namespace Versions

/-- No version is known. -/
def empty : Versions :=
  ⟨fun _ => none⟩

/-- Sets or forgets the version of one document. -/
def put (vs : Versions) (key : DocumentKey) (v : Option Int64) : Versions :=
  ⟨fun k => if k = key then v else vs.get? k⟩

/-- Notes the version of a document. -/
def set (vs : Versions) (key : DocumentKey) (v : Int64) : Versions :=
  vs.put key (some v)

/-- Counts a version that is known up by one. One that is not known stays so, for the document may have been
there before. -/
def bump (vs : Versions) (key : DocumentKey) : Versions :=
  vs.put key ((vs.get? key).map (· + 1))

/-- Forgets the version of a document. -/
def forget (vs : Versions) (key : DocumentKey) : Versions :=
  vs.put key none

end Versions

end Folio
