import Folio.DocumentId
import Folio.Json
import Folio.Schema.Options
import Folio.Sql.Table

/-!
# Mappings

How a type of documents is stored: the alias that marks its rows, its table, the kind of its identity and what
happens when one of its documents is deleted or written back.
-/

namespace Folio

open Folio.Sql (TableName)

/-- A choice that a type of documents makes about its mapping. Of two that contradict each other the later one
holds. -/
inductive Override
  /-- The alias of the type; the table is named after it too. -/
  | typeAlias (name : String)
  /-- Rows of deleted documents are kept and flagged. -/
  | softDeleted
  /-- Is a document written back at the version at which it was read only? -/
  | optimistic (enabled : Bool)
  /-- The member that holds the identity. -/
  | identity (name : String)
  deriving Repr, DecidableEq

/-- A type of documents. -/
structure DocumentType where
  /-- The name of the type in the program; different types have different names. -/
  name : String
  idKind : IdKind
  overrides : List Override := []
  /-- Has the document a stored form? -/
  storable : Json → Bool := fun _ => true

/-- How a type of documents is stored. -/
structure Mapping where
  typeName : String
  typeAlias : String
  table : TableName
  idKind : IdKind
  /-- The member that is found in the identity's column. -/
  idMember : String
  softDeleted : Bool
  optimistic : Bool
  deriving Repr, DecidableEq

/-- The part after the last double colon. -/
def afterLastColons (cs : List Char) : List Char :=
  scan cs cs
where
  /-- The part after the last double colon in the second list, or else the first list. -/
  scan (best : List Char) : List Char → List Char
    | ':' :: ':' :: rest => scan rest rest
    | _ :: rest => scan best rest
    | [] => best

/-- The alias of a type that chooses none: the name by itself, without path and parameters, in snake case. -/
def defaultAlias (typeName : String) : String :=
  Text.Casing.snake.apply (String.ofList (afterLastColons (typeName.toList.takeWhile (· ≠ '<'))))

namespace Mapping

/-- The mapping with a choice made. -/
def override (m : Mapping) : Override → Mapping
  | .typeAlias name => { m with typeAlias := name }
  | .softDeleted => { m with softDeleted := true }
  | .optimistic enabled => { m with optimistic := enabled }
  | .identity name => { m with idMember := name }

/-- The mapping of a type that makes no choices, its table still to be named. -/
def initial (t : DocumentType) : Mapping where
  typeName := t.name
  typeAlias := defaultAlias t.name
  table := ⟨"", ""⟩
  idKind := t.idKind
  idMember := "id"
  softDeleted := false
  optimistic := false

/-- The mapping of a type in a store with the given options. -/
def ofType (o : Options) (t : DocumentType) : Mapping :=
  let m := t.overrides.foldl override (initial t)
  { m with table := ⟨o.schema, o.tablePrefix ++ m.typeAlias⟩ }

end Mapping

end Folio
