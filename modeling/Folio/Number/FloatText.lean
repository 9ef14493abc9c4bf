import Folio.Number.Shortest
import Folio.Number.Whole

/-!
# Floating-point numbers as text

Numbers are written with their shortest digits, plainly or with an exponent, and read from digits with an
optional point and exponent, rounded to the nearest.
-/

namespace Folio.Number

/-- How numbers are written. -/
structure FloatFormat where
  /-- The least and the greatest decimal order written without an exponent. -/
  leastPlain : Int
  greatestPlain : Int
  /-- Does a plus sign stand before a positive exponent? -/
  signed : Bool
  /-- Which digits are taken for a number midway between two shortest texts. -/
  midway : Midway
  deriving Repr, DecidableEq

/-- The digits with a point `order + 1` places from their left end, a zero on an empty side. -/
def plainDigits (ds : List Char) (order : Int) : List Char :=
  if order < 0 then
    '0' :: '.' :: (List.replicate (-order - 1).toNat '0' ++ ds)
  else
    let n := order.toNat + 1
    let whole := ds.take n ++ List.replicate (n - ds.length) '0'
    let rest := ds.drop n
    whole ++ '.' :: (if rest.isEmpty then ['0'] else rest)

/-- The digits as one digit, the point and the others, and the exponent, with a plus sign before a positive one
where that is asked for. -/
def scientificDigits (signed : Bool) (ds : List Char) (order : Int) : List Char :=
  match ds with
  | [] => []
  | d :: rest =>
    let mantissa := if rest.isEmpty then [d] else d :: '.' :: rest
    mantissa ++ 'e' :: ((if signed && 0 < order then ['+'] else []) ++ (toString order).toList)

/-- The text of a finite number: plain within the format's orders, with an exponent beyond them. -/
def FloatFormat.render (f : FloatFormat) (x : Binary64) : String :=
  let sign := if x.negative then ['-'] else []
  if x.isZero then String.ofList (sign ++ ['0', '.', '0'])
  else
    let s := x.shortest f.midway
    let ds := Nat.toDigits 10 s.digits
    let order : Int := s.exponent + ds.length - 1
    let body :=
      if f.leastPlain ≤ order && order ≤ f.greatestPlain then plainDigits ds order
      else scientificDigits f.signed ds order
    String.ofList (sign ++ body)

/-- The number nearest to `digits * 10 ^ exponent`. Exponents far out of range are settled by the number of
digits alone. -/
def Binary64.ofDecimal (negative : Bool) (digits : Nat) (exponent : Int) : Binary64 :=
  let order := exponent + (Nat.toDigits 10 digits).length
  if digits = 0 || order < -400 then .zero negative
  else if 400 < order then .infinity negative
  else
    let (a, b) := shiftTen digits 1 exponent
    .ofFraction negative a b

/-- The value of the leading digits, how many there are, and the rest. -/
def takeDigits (n count : Nat) : List Char → Nat × Nat × List Char
  | [] => (n, count, [])
  | c :: rest =>
    match digit? c with
    | some d => takeDigits (n * 10 + d) (count + 1) rest
    | none => (n, count, c :: rest)

/-- Reads what may stand after the digits of a number: nothing, or an exponent. -/
def readExponent : List Char → Option Int
  | [] => some 0
  | e :: rest =>
    if e = 'e' || e = 'E' then
      let (negative, ds) :=
        match rest with
        | '-' :: ds => (true, ds)
        | '+' :: ds => (false, ds)
        | ds => (false, ds)
      match takeDigits 0 0 ds with
      | (n, count, []) => if count = 0 then none else some (if negative then -(n : Int) else n)
      | _ => none
    else none

/-- Reads an unsigned number: digits with a point somewhere, at least one of them, and an exponent. -/
def readMagnitude (negative : Bool) (cs : List Char) : Option Binary64 :=
  let (n, count, rest) := takeDigits 0 0 cs
  let (m, total, rest) :=
    match rest with
    | '.' :: rest => takeDigits n count rest
    | rest => (n, count, rest)
  if total = 0 then none
  else (readExponent rest).map fun e => .ofDecimal negative m (e - (total - count : Nat))

/-- Reads a number. Infinities and NaNs are words, in any case. -/
def readFloat (s : String) : Option Binary64 :=
  let (negative, cs) :=
    match s.toList with
    | '-' :: cs => (true, cs)
    | '+' :: cs => (false, cs)
    | cs => (false, cs)
  let word := String.ofList (cs.map Char.toLower)
  if word = "inf" || word = "infinity" then some (.infinity negative)
  else if word = "nan" then some .nan
  else readMagnitude negative cs

end Folio.Number
