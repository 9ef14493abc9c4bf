import Folio.Time.Civil

/-!
# Timestamps

A timestamp is a moment of universal time, to the nanosecond. A leap second has no number of its own: it is
the second before it with a nanosecond count of `10 ^ 9` or more, and is written as second 60.
-/

namespace Folio.Time

/-- A moment: whole seconds since the start of 1970, and nanoseconds from there. -/
structure Timestamp where
  seconds : Int
  nanos : Nat
  nanos_lt : nanos < 2000000000
  deriving Repr, DecidableEq

namespace Timestamp

/-- The moment with these parts, if the nanoseconds are in range. -/
def of? (seconds : Int) (nanos : Nat) : Option Timestamp :=
  if h : nanos < 2000000000 then some ⟨seconds, nanos, h⟩ else none

/-- The start of 1970. -/
def epoch : Timestamp := ⟨0, 0, by decide⟩

/-- The date. -/
def date (t : Timestamp) : Civil :=
  .ofDays (t.seconds / 86400)

/-- The second of the day. -/
def secondOfDay (t : Timestamp) : Nat :=
  (t.seconds % 86400).toNat

/-- A number in decimal digits, filled up with zeros to the width. -/
def padded (width n : Nat) : List Char :=
  let ds := Nat.toDigits 10 n
  List.replicate (width - ds.length) '0' ++ ds

/-- A year: four digits from 0 to 9999, and with a sign beyond. -/
def yearText (year : Int) : List Char :=
  if 0 ≤ year && year ≤ 9999 then padded 4 year.toNat
  else (if year < 0 then '-' else '+') :: padded 4 year.natAbs

/-- How many digits of the second's fraction are written. -/
inductive Fraction
  /-- None, three, six or nine: as few of these as show every digit. -/
  | fewest
  /-- Always nine. -/
  | nine
  deriving Repr, DecidableEq

/-- The fraction of a second in nanoseconds, with its point. -/
def Fraction.render (style : Fraction) (nanos : Nat) : List Char :=
  match style with
  | .nine => '.' :: padded 9 nanos
  | .fewest =>
    if nanos = 0 then []
    else if nanos % 1000000 = 0 then '.' :: padded 3 (nanos / 1000000)
    else if nanos % 1000 = 0 then '.' :: padded 6 (nanos / 1000)
    else '.' :: padded 9 nanos

/-- Date, `T`, time of day, and the zone as given. -/
def render (style : Fraction) (zone : String) (t : Timestamp) : String :=
  let d := t.date
  let s := t.secondOfDay
  let leap := t.nanos / 1000000000
  String.ofList <|
    yearText d.year ++ '-' :: padded 2 d.month ++ '-' :: padded 2 d.day ++
    'T' :: padded 2 (s / 3600) ++ ':' :: padded 2 (s / 60 % 60) ++ ':' :: padded 2 (s % 60 + leap) ++
    style.render (t.nanos % 1000000000) ++ zone.toList

/-- The text with a numeric zone, as documents hold it. -/
def toText (t : Timestamp) : String :=
  t.render .fewest "+00:00"

/-- The text in messages. -/
def shown (t : Timestamp) : String :=
  t.render .fewest "Z"

/-- The text with every digit, whose order is that of the moments from year 0 to 9999. -/
def sortable (t : Timestamp) : String :=
  t.render .nine "Z"

end Timestamp

end Folio.Time
