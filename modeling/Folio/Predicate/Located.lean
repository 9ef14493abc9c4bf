import Folio.Expr
import Folio.Schema.Mapping
import Folio.Statement.Locator

/-!
# Located members

A member of a document is found in the stored row: the identity in a column of its own, all others in the
document. What it is compared with has to take the form in which the member is stored.
-/

namespace Folio.Predicate

open Folio.Sql (JsonPath)
open Folio.Statement (Conversion Locator)

/-- How a scalar is stored and compared. -/
inductive Storage
  /-- In the identity's column. -/
  | identity
  /-- As `true` or `false` in the document, compared as text. -/
  | boolText
  | enumInteger
  | enumText
  | plain
  deriving Repr, DecidableEq

/-- A scalar's type and storage. -/
structure Scalar where
  type : ValueType
  storage : Storage
  deriving Repr, DecidableEq

namespace Scalar

/-- The storage of a scalar in a document. -/
def ofType (enums : EnumStorage) (type : ValueType) : Scalar where
  type
  storage :=
    match type, enums with
    | .bool, _ => .boolText
    | .enum, .asInteger => .enumInteger
    | .enum, .asText => .enumText
    | _, _ => .plain

/-- The conversion of plain text in a document to a type. -/
def plainConversion : ValueType → Conversion
  | .int32 => .cast .int
  | .int64 => .cast .bigint
  | .float => .cast .float
  | .decimal => .cast .decimal
  | .uuid => .cast .uuid
  | .timestamp => .cast .timestamp
  | _ => .none

/-- The conversion that makes the stored scalar comparable. -/
def conversion (s : Scalar) : Conversion :=
  match s.storage with
  | .identity | .enumText => .none
  | .boolText => .boolText
  | .enumInteger => .cast .bigint
  | .plain => plainConversion s.type

/-- The parameter that stands for a value in a comparison with the scalar. -/
def toParam (s : Scalar) (v : Value) : Outcome Value :=
  match s.storage, v with
  | _, .null => .ok .null
  | .boolText, .bool b => .ok (.text (if b then "true" else "false"))
  | .boolText, v => cannotConvert v "bool"
  | .enumInteger, .enum c => .ok (.int64 c.discriminant)
  | .enumText, .enum c => .ok (.text c.name)
  | _, v => s.type.cast v

end Scalar

/-- A member and where it is stored. -/
structure Located where
  /-- The stored value as it is. -/
  raw : Locator
  /-- The stored value made comparable. -/
  typed : Locator
  scalar : Scalar
  /-- The path into the document; the identity has none. -/
  path : Option JsonPath
  /-- The elements, if the member is a list. -/
  element : Option Scalar
  deriving Repr, DecidableEq

/-- The names on the way to a member; elements of lists have none. -/
def fieldNames : List Segment → Outcome (List String)
  | [] => .ok []
  | .field name :: rest => return name :: (← fieldNames rest)
  | .index i :: _ => unsupported (.indexedMember i)

namespace Located

/-- The identity, in its column. -/
def identity (type : ValueType) : Located where
  raw := ⟨.column Sql.idColumn, .none⟩
  typed := ⟨.column Sql.idColumn, .none⟩
  scalar := ⟨type, .identity⟩
  path := none
  element := none

/-- A member in the document. -/
def inDocument (enums : EnumStorage) (path : JsonPath) (type : ValueType) : Located where
  raw := ⟨.json path, .none⟩
  typed := ⟨.json path, (Scalar.ofType enums type).conversion⟩
  scalar := .ofType enums type
  path := some path
  element :=
    match type with
    | .list item => some (.ofType enums item)
    | _ => none

/-- Locates a member. Names of members are written in the store's casing; the identity is told before that. -/
def ofMember (o : Options) (mapping : Mapping) (m : Member) : Outcome Located := do
  let names ← fieldNames m.segments
  if names.isEmpty then unsupported .emptyPath
  else if names = [mapping.idMember] then return identity m.type
  else return inDocument o.enums ⟨names.map o.casing.apply⟩ m.type

/-- The type of the member. -/
def type (l : Located) : ValueType :=
  l.scalar.type

/-- Is it the identity? -/
def isIdentity (l : Located) : Bool :=
  l.scalar.storage = .identity

/-- The parameter that stands for a value in a comparison with the member. -/
def toParam (l : Located) (v : Value) : Outcome Value :=
  l.scalar.toParam v

end Located

end Folio.Predicate
