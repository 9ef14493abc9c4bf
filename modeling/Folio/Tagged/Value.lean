import Folio.DocumentId
import Folio.Operator
import Folio.Tagged.Basic
import Folio.ValueType

/-!
# Values in tagged JSON

Only the missing value and booleans stand for themselves. Numbers of 64 bits are text, and floating-point numbers
are the hexadecimal digits of their bits, so that no reader of JSON can change them.
-/

namespace Folio.Tagged

open Folio.Number (Binary64 Decimal)
open Folio.Time (Timestamp)

/-- The names of the comparisons. -/
def operators : Names Operator :=
  [("eq", .eq), ("ne", .ne), ("ge", .ge), ("gt", .gt), ("le", .le), ("lt", .lt)]

/-- The names of the kinds of identities. -/
def idKinds : Names IdKind :=
  [("uuid", .uuid), ("string", .text), ("i32", .int32), ("i64", .int64)]

/-! ## Types -/

/-- The names of the types without parts. -/
def plainTypes : Names ValueType :=
  [.bool, .int32, .int64, .float, .decimal, .text, .uuid, .timestamp, .enum, .object].map fun t => (t.name, t)

/-- The type that the JSON value stands for. -/
def type? : Json → Option ValueType
  | .object [("list", item)] => (type? item).map .list
  | j => plainTypes.read? j

/-- The JSON value for a type. -/
def ofType : ValueType → Json
  | .list item => .object [("list", ofType item)]
  | t => .text t.name

/-! ## Values -/

/-- Sixteen hexadecimal digits. -/
def hexSixteen (n : Nat) : String :=
  let ds := Nat.toDigits 16 n
  String.ofList (List.replicate (16 - ds.length) '0' ++ ds)

/-- The bits of a number; one pattern stands for all that are not a number. -/
def floatBits (x : Binary64) : String :=
  if x.isNaN then "7ff8000000000000" else hexSixteen x.bits.toNat

/-- The number with these bits. -/
def floatOfBits? (s : String) : Option Binary64 :=
  (s.toList.foldlM (fun n c => (Uuid.hexDigit? c).map (n * 16 + ·)) 0).map fun n => ⟨UInt64.ofNat n⟩

/-- The moment given by seconds and nanoseconds. -/
def moment? : Json → Option Timestamp
  | .array [s, n] => do Timestamp.of? (← int? s) (← nat? n)
  | _ => none

/-- The constant of an enumeration given by name and discriminant. -/
def enum? : Json → Option EnumConstant
  | .array [name, d] => do return ⟨← text? name, Int64.ofInt (← int? d)⟩
  | _ => none

/-- The whole numbers from the first to before the second. -/
def range? : Json → Option (List Value)
  | .array [lo, hi] => do
    let lo ← int? lo
    let hi ← int? hi
    return (List.range (hi - lo).toNat).map fun (i : Nat) => .int32 (Int32.ofInt (lo + (i : Int)))
  | _ => none

/-- A text written so many times. -/
def repeat? : Json → Option String
  | .array [s, n] => do return String.join (List.replicate (← nat? n) (← text? s))
  | _ => none

/-- The value that is no list. -/
def scalar? (tag : String) (j : Json) : Option Value :=
  match tag with
  | "i32" => (int? j).map fun n => .int32 (Int32.ofInt n)
  | "i64" => (int? j).map fun n => .int64 (Int64.ofInt n)
  | "f64" => ((text? j).bind floatOfBits?).map .float
  | "dec" => ((text? j).bind Decimal.read).map .decimal
  | "str" => (text? j).map .text
  | "uuid" => ((text? j).bind Uuid.read).map .uuid
  | "dt" => (moment? j).map .timestamp
  | "enum" => (enum? j).map .enum
  | "range" => (range? j).map .list
  | "repeat" => (repeat? j).map .text
  | _ => none

mutual

/-- The value that the JSON value stands for. -/
def value? : Json → Option Value
  | .null => some .null
  | .bool b => some (.bool b)
  | .object [("list", .array items)] => (values? items).map .list
  | .object [(tag, j)] => scalar? tag j
  | _ => none

/-- The values that the JSON values stand for. -/
def values? : List Json → Option (List Value)
  | [] => some []
  | j :: rest => do return (← value? j) :: (← values? rest)

end

/-- The values in an array, or in a range. -/
def valueList? : Json → Option (List Value)
  | .object [("range", j)] => range? j
  | j => (items? j).bind values?

mutual

/-- The JSON value for a value. -/
def ofValue : Value → Json
  | .null => .null
  | .bool b => .bool b
  | .int32 n => .object [("i32", .whole n.toInt)]
  | .int64 n => .object [("i64", intText n.toInt)]
  | .float x => .object [("f64", .text (floatBits x))]
  | .decimal d => .object [("dec", .text d.toText)]
  | .text s => .object [("str", .text s)]
  | .uuid u => .object [("uuid", .text u.toText)]
  | .timestamp t => .object [("dt", .array [.whole t.seconds, .whole t.nanos])]
  | .enum c => .object [("enum", .array [.text c.name, intText c.discriminant.toInt])]
  | .list vs => .object [("list", .array (ofValues vs))]

/-- The JSON values for values. -/
def ofValues : List Value → List Json
  | [] => []
  | v :: rest => ofValue v :: ofValues rest

end

/-- The identity that the JSON value stands for. -/
def id? (j : Json) : Option DocumentId :=
  match value? j with
  | some (.uuid u) => some (.uuid u)
  | some (.text s) => some (.text s)
  | some (.int32 n) => some (.int32 n)
  | some (.int64 n) => some (.int64 n)
  | _ => none

end Folio.Tagged
