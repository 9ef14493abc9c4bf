import Folio.Number.Decimal
import Folio.Text.Quoted
import Folio.Time.Timestamp
import Folio.Uuid

/-!
# Values

What a program and a database exchange: parameters bound to a statement and the columns of a row.
-/

namespace Folio

open Folio.Number (Binary64 Decimal FloatFormat)
open Folio.Time (Timestamp)

/-- A constant of an enumeration: documents hold either its name or its discriminant. -/
structure EnumConstant where
  name : String
  discriminant : Int64
  deriving Repr, DecidableEq

/-- A scalar, or a list of values. -/
inductive Value
  | null
  | bool (b : Bool)
  | int32 (n : Int32)
  | int64 (n : Int64)
  | float (x : Binary64)
  | decimal (d : Decimal)
  | text (s : String)
  | uuid (u : Uuid)
  | timestamp (t : Timestamp)
  | enum (c : EnumConstant)
  | list (items : List Value)
  deriving Repr, Inhabited

/-- A row, as its columns. -/
abbrev Row := List Value

namespace Value

/-- Is it the missing value? -/
def isNull : Value → Bool
  | .null => true
  | _ => false

/-- The text that the value is, if it is one. -/
def text? : Value → Option String
  | .text s => some s
  | _ => none

/-- The name of the value's kind in messages. -/
def kindName : Value → String
  | .null => "null"
  | .bool _ => "bool"
  | .int32 _ => "i32"
  | .int64 _ => "i64"
  | .float _ => "f64"
  | .decimal _ => "decimal"
  | .text _ => "string"
  | .uuid _ => "uuid"
  | .timestamp _ => "datetime"
  | .enum _ => "enum"
  | .list _ => "list"

/-- Numbers in messages have an exponent from `10 ^ 16` on and below `10 ^ -4`. -/
def floatFormat : FloatFormat := ⟨-4, 15, false, .up⟩

/-- A number in messages. -/
def shownFloat (x : Binary64) : String :=
  if x.isNaN then "NaN"
  else if !x.isFinite then if x.negative then "-inf" else "inf"
  else floatFormat.render x

mutual

/-- The value as messages show it, with its kind. -/
def shown : Value → String
  | .null => "Null"
  | .bool b => if b then "Bool(true)" else "Bool(false)"
  | .int32 n => "I32(" ++ toString n.toInt ++ ")"
  | .int64 n => "I64(" ++ toString n.toInt ++ ")"
  | .float x => "F64(" ++ shownFloat x ++ ")"
  | .decimal d => "Decimal(" ++ d.toText ++ ")"
  | .text s => "String(" ++ Text.quoted s ++ ")"
  | .uuid u => "Uuid(" ++ u.toText ++ ")"
  | .timestamp t => "DateTime(" ++ t.shown ++ ")"
  | .enum c =>
    "Enum(ValueEnum \x7b name: " ++ Text.quoted c.name ++ ", discriminant: " ++
      toString c.discriminant.toInt ++ " \x7d)"
  | .list items => "List([" ++ String.intercalate ", " (shownItems items) ++ "])"

/-- The items of a list as messages show them. -/
def shownItems : List Value → List String
  | [] => []
  | v :: rest => v.shown :: shownItems rest

end

end Value

end Folio
