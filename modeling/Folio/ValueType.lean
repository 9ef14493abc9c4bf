import Folio.Failure
import Folio.Number.Decimal.Binary
import Folio.Number.Decimal.Reader
import Folio.Text.Blank
import Folio.Time.Reader

/-!
# Types of values, and casts to them

A database answers in its own representation: it may have no booleans or identifiers, and it gives every part of
a document as text. A cast takes each reading of a value in a type that loses nothing, and rejects the others.
-/

namespace Folio

open Folio.Number
open Folio.Time (Timestamp)

/-- The type of a member of a document, or of a column. -/
inductive ValueType
  | bool
  | int32
  | int64
  | float
  | decimal
  | text
  | uuid
  | timestamp
  /-- A constant of an enumeration. -/
  | enum
  | list (item : ValueType)
  /-- A part of a document with members of its own. -/
  | object
  deriving Repr, DecidableEq

namespace ValueType

/-- The name of the type in messages. -/
def name : ValueType → String
  | .bool => "bool"
  | .int32 => "i32"
  | .int64 => "i64"
  | .float => "f64"
  | .decimal => "decimal"
  | .text => "string"
  | .uuid => "uuid"
  | .timestamp => "datetime"
  | .enum => "enum"
  | .list _ => "list"
  | .object => "object"

/-- Is it a type of numbers? -/
def isNumeric : ValueType → Bool
  | .int32 | .int64 | .float | .decimal => true
  | _ => false

/-- Is it a type of lists? -/
def isList : ValueType → Bool
  | .list _ => true
  | _ => false

end ValueType

/-- The whole number, if it has 32 bits. -/
def int32? (n : Int) : Option Int32 :=
  if Int32.minValue.toInt ≤ n ∧ n ≤ Int32.maxValue.toInt then some (Int32.ofInt n) else none

/-- The whole number, if it has 64 bits. -/
def int64? (n : Int) : Option Int64 :=
  if Int64.minValue.toInt ≤ n ∧ n ≤ Int64.maxValue.toInt then some (Int64.ofInt n) else none

/-- The number between the bounds that is nearest to `n`. -/
def clamp (lo hi n : Int) : Int :=
  max lo (min hi n)

/-- Reads a timestamp, blanks around it aside. -/
def readTimestamp (s : String) : Outcome Timestamp :=
  let s := Text.trim s
  match Timestamp.read s with
  | some t => .ok t
  | none => cannotConvert (.text s) "datetime"

namespace Value

/-- The value, or a failed conversion of `v`. -/
def orCannot {α : Type} (v : Value) (target : String) (wrap : α → Value) : Option α → Outcome Value
  | some a => .ok (wrap a)
  | none => cannotConvert v target

/-- The value read from text, or the fault of the reading. -/
def orFault {α : Type} (wrap : α → Value) : Except WholeFault α → Outcome Value
  | .ok a => .ok (wrap a)
  | .error fault => fail (.wholeNumber fault)

/-- The value as a boolean. -/
def toBool (v : Value) : Outcome Value :=
  match v with
  | .bool _ => .ok v
  | .int32 n => .ok (.bool (n != 0))
  | .int64 n => .ok (.bool (n != 0))
  | .text s =>
    if s = "true" || s = "1" then .ok (.bool true)
    else if s = "false" || s = "0" then .ok (.bool false)
    else cannotConvert v "bool"
  | _ => cannotConvert v "bool"

/-- The value as a whole number of 32 bits. -/
def toInt32 (v : Value) : Outcome Value :=
  match v with
  | .int32 _ => .ok v
  | .int64 n => orCannot v "i32" .int32 (int32? n.toInt)
  | .bool b => .ok (.int32 (if b then 1 else 0))
  | .float x =>
    if x.isWhole then
      .ok (.int32 (Int32.ofInt (clamp Int32.minValue.toInt Int32.maxValue.toInt x.truncate)))
    else cannotConvert v "i32"
  | .decimal d => orCannot v "i32" .int32 (d.toInt?.bind int32?)
  | .text s => orFault .int32 (readInt32 (Text.trim s))
  | _ => cannotConvert v "i32"

/-- The value as a whole number of 64 bits. -/
def toInt64 (v : Value) : Outcome Value :=
  match v with
  | .int64 _ => .ok v
  | .int32 n => .ok (.int64 n.toInt64)
  | .bool b => .ok (.int64 (if b then 1 else 0))
  | .float x =>
    if x.isWhole then
      .ok (.int64 (Int64.ofInt (clamp Int64.minValue.toInt Int64.maxValue.toInt x.truncate)))
    else cannotConvert v "i64"
  | .decimal d => orCannot v "i64" .int64 (d.toInt?.bind int64?)
  | .text s => orFault .int64 (readInt64 (Text.trim s))
  | _ => cannotConvert v "i64"

/-- The value as a floating-point number. -/
def toFloat (v : Value) : Outcome Value :=
  match v with
  | .float _ => .ok v
  | .int32 n => .ok (.float (.ofInt n.toInt))
  | .int64 n => .ok (.float (.ofInt n.toInt))
  | .decimal d => .ok (.float d.toBinary)
  | .text s => orCannot v "f64" .float (readFloat (Text.trim s))
  | _ => cannotConvert v "f64"

/-- The value as a decimal. -/
def toDecimal (v : Value) : Outcome Value :=
  match v with
  | .decimal _ => .ok v
  | .int32 n => .ok (.decimal (.ofInt32 n))
  | .int64 n => .ok (.decimal (.ofInt64 n))
  | .float x => orCannot v "decimal" .decimal (Decimal.ofBinary x)
  | .text s => orCannot v "decimal" .decimal (Decimal.read (Text.trim s))
  | _ => cannotConvert v "decimal"

/-- The value as text. -/
def toTextValue (v : Value) : Outcome Value :=
  match v with
  | .text _ => .ok v
  | .timestamp t => .ok (.text t.toText)
  | .uuid u => .ok (.text u.toText)
  | .int32 n => .ok (.text (toString n.toInt))
  | .int64 n => .ok (.text (toString n.toInt))
  | .enum c => .ok (.text c.name)
  | _ => cannotConvert v "string"

/-- The value as an identifier. -/
def toUuid (v : Value) : Outcome Value :=
  match v with
  | .uuid _ => .ok v
  | .text s =>
    match Uuid.read (Text.trim s) with
    | some u => .ok (.uuid u)
    | none => fail .malformedUuid
  | _ => cannotConvert v "uuid"

/-- The value as a timestamp. -/
def toTimestamp (v : Value) : Outcome Value :=
  match v with
  | .timestamp _ => .ok v
  | .text s => (readTimestamp s).map .timestamp
  | _ => cannotConvert v "datetime"

end Value

/-- The value read in the type. The missing value belongs to every type, a constant of an enumeration and an
object are taken as they come, and a list is cast item by item. -/
def ValueType.cast (type : ValueType) (v : Value) : Outcome Value :=
  match type, v with
  | _, .null => .ok .null
  | .bool, v => v.toBool
  | .int32, v => v.toInt32
  | .int64, v => v.toInt64
  | .float, v => v.toFloat
  | .decimal, v => v.toDecimal
  | .text, v => v.toTextValue
  | .uuid, v => v.toUuid
  | .timestamp, v => v.toTimestamp
  | .enum, v => .ok v
  | .object, v => .ok v
  | .list item, .list items => (items.mapM item.cast).map .list
  | .list _, v => cannotConvert v "list"

/-- The whole number that the value is, in any representation. -/
def Value.whole (v : Value) : Outcome Int64 :=
  match ValueType.int64.cast v with
  | .ok (.int64 n) => .ok n
  | .ok other => cannotConvert other "i64"
  | .error f => .error f

end Folio
