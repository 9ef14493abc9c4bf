import Folio.Number.Decimal

/-!
# Reading decimals

A decimal is written as digits with an optional sign before and a point somewhere; underscores may stand after
the first digit. A fraction may have more digits than a decimal can hold: the first of those rounds the last
digit that fits, a five upwards, and the others count for nothing. Before the point there is no room to spare,
so there too many digits are a fault. An exponent may follow, which moves the point of what is read so far.
-/

namespace Folio.Number.Decimal

/-- The text from the first character that no longer fits on: digits and underscores, of which the first rounds
what is read, an underscore like a zero. -/
def roundBy (negative : Bool) (magnitude scale : Nat) (c : Char) (rest : List Char) : Option Decimal :=
  if (c :: rest).all fun e => (digit? e).isSome || e = '_' then
    if (digit? c).getD 0 < 5 then of? negative magnitude scale
    else if magnitude + 1 < 2 ^ 96 then of? negative (magnitude + 1) scale
    else if scale = 0 then none
    else of? negative ((magnitude + 5) / 10) (scale - 1)
  else none

/-- Continues a decimal of which `magnitude` and `scale` are read: `started` when a digit has been seen, `point`
when the point has. -/
def readFrom (negative started point : Bool) (magnitude scale : Nat) : List Char → Option Decimal
  | [] => if started then of? negative magnitude scale else none
  | c :: rest =>
    if point && 28 ≤ scale then roundBy negative magnitude scale c rest
    else
      match digit? c with
      | some d =>
        let next := magnitude * 10 + d
        if next < 2 ^ 96 then readFrom negative true point next (if point then scale + 1 else 0) rest
        else if point then roundBy negative magnitude scale c rest
        else none
      | none =>
        if c = '.' && !point then readFrom negative started true magnitude scale rest
        else if c = '_' && started then readFrom negative started point magnitude scale rest
        else none

/-- Reads a decimal without an exponent. -/
def readPlain : List Char → Option Decimal
  | '-' :: rest => readFrom true false false 0 0 rest
  | '+' :: rest => readFrom false false false 0 0 rest
  | cs => readFrom false false false 0 0 cs

/-- Reads an exponent: a whole number up to twenty-eight, with a minus sign before it for a move to the left. -/
def readMove : List Char → Option Int
  | '-' :: '-' :: _ => none
  | '-' :: cs => (readWhole 0 28 cs).toOption.map (-·)
  | cs => (readWhole 0 28 cs).toOption

/-- The decimal with its point moved to the right, or to the left for a negative number of places. A fraction
keeps the zeros at its end and loses what it has no place for; past the last digit a move to the right adds
zeros. -/
def movePoint (d : Decimal) (places : Int) : Option Decimal :=
  if d.scale < places then of? d.negative (d.magnitude * 10 ^ (places - d.scale).toNat) 0
  else
    let scale := (d.scale - places).toNat
    let excess := scale - 28
    ofParts? d.negative (dropDigits d.magnitude excess) (scale - excess)

/-- Does an exponent begin here? -/
def isExponentMark (c : Char) : Bool :=
  c = 'e' || c = 'E'

/-- Reads a decimal. -/
def read (s : String) : Option Decimal :=
  let cs := s.toList
  let plain := readPlain (cs.takeWhile (!isExponentMark ·))
  match cs.dropWhile (!isExponentMark ·) with
  | [] => plain
  | _ :: exponent =>
    match plain, readMove exponent with
    | some d, some places => d.movePoint places
    | _, _ => none

end Folio.Number.Decimal
