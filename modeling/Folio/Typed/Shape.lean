import Folio.Json.Reader
import Folio.ValueType

/-!
# Shapes

A shape is a type of the program that a member of a document is read as. More is known of it than of the type of
a stored value: whether the value may be missing, and which constants an enumeration has.
-/

namespace Folio.Typed

open Folio.Number (Binary64)

/-- An enumeration and its constants; the first one is the default. -/
structure Enumeration where
  name : String
  constants : List EnumConstant
  deriving Repr, DecidableEq

/-- A type of the program that a member is read as. -/
inductive Shape
  | bool
  | int32
  | int64
  | float
  | decimal
  | text
  | uuid
  | timestamp
  | enumeration (e : Enumeration)
  /-- The inner shape, or nothing. -/
  | maybe (inner : Shape)
  | list (item : Shape)
  deriving Repr, DecidableEq

namespace Shape

/-- The type of the stored values. -/
def type : Shape → ValueType
  | .bool => .bool
  | .int32 => .int32
  | .int64 => .int64
  | .float => .float
  | .decimal => .decimal
  | .text => .text
  | .uuid => .uuid
  | .timestamp => .timestamp
  | .enumeration _ => .enum
  | .maybe inner => inner.type
  | .list item => .list item.type

/-- May a value of the shape be missing? -/
def nullable : Shape → Bool
  | .maybe _ => true
  | _ => false

/-- The value that stands for nothing at all: zero, an empty text, the first constant. -/
def default : Shape → Value
  | .bool => .bool false
  | .int32 => .int32 0
  | .int64 => .int64 0
  | .float => .float (.ofInt 0)
  | .decimal => .decimal (.ofInt32 0)
  | .text => .text ""
  | .uuid => .uuid ⟨0⟩
  | .timestamp => .timestamp .epoch
  | .enumeration e => (e.constants.head?.map .enum).getD .null
  | .maybe _ => .null
  | .list _ => .list []

/-- The value read in the type, which must not be missing. -/
def loadScalar (type : ValueType) (v : Value) : Outcome Value := do
  match ← type.cast v with
  | .null => cannotConvert .null type.name
  | w => return w

/-- The constant of that name. -/
def loadConstant (e : Enumeration) (v : Value) : Outcome Value :=
  match v.text?.bind fun s => e.constants.find? (·.name = s) with
  | some c => .ok (.enum c)
  | none => cannotConvert v e.name

/-- An item of a JSON array as a value. Arrays and objects are no values. -/
def scalarOfJson : Json → Outcome Value
  | .null => .ok .null
  | .bool b => .ok (.bool b)
  | .whole n => .ok <|
    match int64? n with
    | some n => .int64 n
    | none => .float (.ofInt n)
  | .float x => .ok (.float x)
  | .text s => .ok (.text s)
  | j => cannotConvert (.text j.render) "scalar"

/-- The items of a list, which databases give as the text of a JSON array. Each is an outcome of its own, for
items are read one after the other. -/
def listItems : Value → Outcome (List (Outcome Value))
  | .list items => .ok (items.map .ok)
  | .text s =>
    match Json.read s with
    | some (.array items) => .ok (items.map scalarOfJson)
    | _ => fail .malformedJson
  | v => cannotConvert v "list"

/-- Reads a value in a shape. -/
def load (shape : Shape) (v : Value) : Outcome Value :=
  match shape with
  | .enumeration e => loadConstant e v
  | .maybe inner => if v.isNull then .ok .null else inner.load v
  | .list item => do
    let items ← listItems v
    return .list (← items.mapM fun x => do item.load (← x))
  | .bool => loadScalar .bool v
  | .int32 => loadScalar .int32 v
  | .int64 => loadScalar .int64 v
  | .float => loadScalar .float v
  | .decimal => loadScalar .decimal v
  | .text => loadScalar .text v
  | .uuid => loadScalar .uuid v
  | .timestamp => loadScalar .timestamp v

end Shape

end Folio.Typed
