import Folio.Number.Decimal.Binary
import Folio.Number.FloatText
import Folio.Value

/-!
# Values in SQLite

SQLite stores whole numbers, floating-point numbers, texts and nothing. All other values take one of these forms
when they are bound, and only these come back. A column has an affinity: a value that can be read in the column's
own form without loss is stored in that form.
-/

namespace Folio.Sqlite

open Folio.Number

/-- A value as SQLite stores it. -/
inductive Stored
  | null
  | integer (n : Int64)
  | real (x : Binary64)
  | text (s : String)
  deriving Repr, DecidableEq

/-- A floating-point number; there is no place for one that is not a number. -/
def Stored.ofFloat (x : Binary64) : Stored :=
  if x.isNaN then .null else .real x

namespace Stored

/-- The form in which a value is bound; a list has none. -/
def ofValue : Value → Option Stored
  | .null => some .null
  | .bool b => some (.integer (if b then 1 else 0))
  | .int32 n => some (.integer n.toInt64)
  | .int64 n => some (.integer n)
  | .float x => some (.ofFloat x)
  | .decimal d => some (.ofFloat d.toBinary)
  | .text s => some (.text s)
  | .uuid u => some (.text u.toText)
  | .timestamp t => some (.text t.sortable)
  | .enum c => some (.integer c.discriminant)
  | .list _ => none

/-- The value that comes back. -/
def toValue : Stored → Value
  | .null => .null
  | .integer n => .int64 n
  | .real x => .float x
  | .text s => .text s

/-! ## Numbers in texts -/

/-- Is it a space in the sense of SQL? -/
def isSpace (c : Char) : Bool :=
  c = ' ' || ('\t' ≤ c && c ≤ '\r')

/-- The text without the spaces at its two ends. -/
def stripSpaces (cs : List Char) : List Char :=
  ((cs.dropWhile isSpace).reverse.dropWhile isSpace).reverse

/-- The number that a text is: a whole number if it has digits alone and 64 bits hold it. -/
def numberOfText? (s : String) : Option Stored :=
  let cs := stripSpaces s.toList
  let (negative, digits) :=
    match cs with
    | '-' :: rest => (true, rest)
    | '+' :: rest => (false, rest)
    | rest => (false, rest)
  match readInt64 (String.ofList cs) with
  | .ok n => some (.integer n)
  | .error _ => (readMagnitude negative digits).map .real

/-- The whole number that a floating-point number is, the two ends of the range left out. -/
def wholeOfFloat? (x : Binary64) : Option Int64 :=
  if x.isWhole && Int64.minValue.toInt < x.truncate && x.truncate < Int64.maxValue.toInt then
    some (Int64.ofInt x.truncate)
  else none

/-- A text that is a number as that number; all else as it is. -/
def numeric : Stored → Stored
  | .text s => (numberOfText? s).getD (.text s)
  | v => v

/-- The whole number that a row can be numbered by. -/
def key? (v : Stored) : Option Int64 :=
  match v.numeric with
  | .integer n => some n
  | .real x => wholeOfFloat? x
  | _ => none

/-! ## Numbers as texts -/

/-- The number of significant digits that a floating-point number is written with. -/
def significantDigits : Nat := 15

/-- The significant digits of a positive number, a half rounding upwards, and the place of the first one. -/
def roundedDigits (x : Binary64) : Digits × Int :=
  let (num, den) := x.fraction
  let order := decimalOrder num den
  let (a, b) := shiftTen num den (significantDigits - 1 - order)
  let m := (2 * a + b) / (2 * b)
  let order := if m = 10 ^ significantDigits then order + 1 else order
  (Digits.strip ⟨m, 0⟩ significantDigits, order)

/-- The exponent with its sign, in two digits at least. -/
def exponentText (e : Int) : List Char :=
  let ds := Nat.toDigits 10 e.natAbs
  (if e < 0 then '-' else '+') :: (List.replicate (2 - ds.length) '0' ++ ds)

/-- A floating-point number as text: with an exponent if it has more digits before the point than are shown, or
more than three zeros behind it. -/
def floatText (x : Binary64) : String :=
  if !x.isFinite then if x.negative then "-Inf" else "Inf"
  else if x.isZero then "0.0"
  else
    let (digits, order) := roundedDigits x
    let ds := Nat.toDigits 10 digits.digits
    let body :=
      if -4 ≤ order && order < (significantDigits : Int) then plainDigits ds order
      else plainDigits ds 0 ++ 'e' :: exponentText order
    String.ofList (if x.negative then '-' :: body else body)

/-- The text of a value, if it is there. -/
def text? : Stored → Option String
  | .null => none
  | .integer n => some (toString n.toInt)
  | .real x => some (floatText x)
  | .text s => some s

/-! ## Order -/

/-- Is a whole number greater than a floating-point number? -/
def exceedsFloat (n : Int64) (x : Binary64) : Bool :=
  if !x.isFinite then x.negative
  else
    let (num, den) := x.fraction
    (if x.negative then -(num : Int) else num) < n.toInt * den

/-- Is a whole number greater than the value? Numbers are less than texts, and nothing compares with the missing
value. -/
def exceeds (n : Int64) (v : Stored) : Bool :=
  match v.numeric with
  | .null => false
  | .integer m => m < n
  | .real x => exceedsFloat n x
  | .text _ => false

end Stored

end Folio.Sqlite
