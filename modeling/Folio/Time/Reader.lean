import Folio.Number.Whole
import Folio.Text.Blank
import Folio.Time.Timestamp

/-!
# Reading timestamps

Two layouts are read. The strict one has every field at its full width and ends with a zone (`Z`, or a sign,
hours and minutes). The loose one has no zone, takes fields of fewer digits with blanks before them, allows a
signed year of any length, and separates date and time by blanks or by `T`. In both, digits of the second's
fraction after the ninth are read over.
-/

namespace Folio.Time

open Folio.Number (digit?)
open Folio.Text (isBlank)

/-- At least `least` and at most `most` digits: their value, how many they are, and the rest. -/
def takeNumber (least most : Nat) (cs : List Char) : Option (Nat × Nat × List Char) :=
  let ds := (cs.take most).takeWhile fun c => (digit? c).isSome
  if ds.length < least then none
  else some (ds.foldl (fun n c => n * 10 + (digit? c).getD 0) 0, ds.length, cs.drop ds.length)

/-- The rest after a given character. -/
def takeChar (c : Char) : List Char → Option (List Char)
  | d :: rest => if c = d then some rest else none
  | [] => none

/-- A fraction of a second after its point, if there is one, in nanoseconds. -/
def takeFraction : List Char → Option (Nat × List Char)
  | '.' :: cs => do
    let (n, count, rest) ← takeNumber 1 9 cs
    some (n * 10 ^ (9 - count), rest.dropWhile fun c => (digit? c).isSome)
  | cs => some (0, cs)

/-- The fields of a timestamp as written. -/
structure Fields where
  year : Int
  month : Nat
  day : Nat
  hour : Nat
  minute : Nat
  second : Nat
  nanos : Nat
  deriving Repr, DecidableEq

/-- The moment that the fields name, at a zone so many seconds east. Second 60 is a leap second. -/
def Fields.toTimestamp (f : Fields) (east : Int) : Option Timestamp :=
  let d : Civil := ⟨f.year, f.month, f.day⟩
  if -262143 ≤ f.year && f.year ≤ 262142 && d.isValid && f.hour ≤ 23 && f.minute ≤ 59 && f.second ≤ 60 then
    let leap := f.second / 60
    let time := f.hour * 3600 + f.minute * 60 + f.second - leap
    Timestamp.of? (d.toDays * 86400 + time - east) (f.nanos + leap * 1000000000)
  else none

/-- A zone: how many seconds it lies east, less than a day. -/
def takeZone : List Char → Option (Int × List Char)
  | [] => none
  | c :: rest =>
    if c = 'Z' || c = 'z' then some (0, rest)
    else if c = '+' || c = '-' || c = '−' then do
      let (hours, _, rest) ← takeNumber 2 2 rest
      let rest ← takeChar ':' rest
      let (minutes, _, rest) ← takeNumber 2 2 rest
      if 23 < hours || 59 < minutes then none
      else
        let east : Int := hours * 3600 + minutes * 60
        some (if c = '+' then east else -east, rest)
    else none

/-- Reads the strict layout. -/
def readStrict (cs : List Char) : Option Timestamp := do
  let (year, _, cs) ← takeNumber 4 4 cs
  let cs ← takeChar '-' cs
  let (month, _, cs) ← takeNumber 2 2 cs
  let cs ← takeChar '-' cs
  let (day, _, cs) ← takeNumber 2 2 cs
  let cs ← (takeChar 'T' cs).or ((takeChar 't' cs).or (takeChar ' ' cs))
  let (hour, _, cs) ← takeNumber 2 2 cs
  let cs ← takeChar ':' cs
  let (minute, _, cs) ← takeNumber 2 2 cs
  let cs ← takeChar ':' cs
  let (second, _, cs) ← takeNumber 2 2 cs
  let (nanos, cs) ← takeFraction cs
  let (east, cs) ← takeZone cs
  if cs.isEmpty then Fields.toTimestamp ⟨year, month, day, hour, minute, second, nanos⟩ east else none

/-- A field of one or two digits after blanks. -/
def takeShort (cs : List Char) : Option (Nat × List Char) :=
  (takeNumber 1 2 (cs.dropWhile isBlank)).map fun (n, _, rest) => (n, rest)

/-- A year after blanks: four digits at most, or any number of them after a sign. -/
def takeYear (cs : List Char) : Option (Int × List Char) :=
  match cs.dropWhile isBlank with
  | '-' :: rest => (takeNumber 1 rest.length rest).map fun (n, _, rest) => (-(n : Int), rest)
  | '+' :: rest => (takeNumber 1 rest.length rest).map fun (n, _, rest) => ((n : Int), rest)
  | rest => (takeNumber 1 4 rest).map fun (n, _, rest) => ((n : Int), rest)

/-- Reads the loose layout, with date and time separated as told. -/
def readLoose (separator : List Char → Option (List Char)) (cs : List Char) : Option Timestamp := do
  let (year, cs) ← takeYear cs
  let cs ← takeChar '-' cs
  let (month, cs) ← takeShort cs
  let cs ← takeChar '-' cs
  let (day, cs) ← takeShort cs
  let cs ← separator cs
  let (hour, cs) ← takeShort cs
  let cs ← takeChar ':' cs
  let (minute, cs) ← takeShort cs
  let cs ← takeChar ':' cs
  let (second, cs) ← takeShort cs
  let (nanos, cs) ← takeFraction cs
  if cs.isEmpty then Fields.toTimestamp ⟨year, month, day, hour, minute, second, nanos⟩ 0 else none

/-- Reads a timestamp in any of the layouts. -/
def Timestamp.read (s : String) : Option Timestamp :=
  let cs := s.toList
  (readStrict cs).or <|
    (readLoose (fun cs => some (cs.dropWhile isBlank)) cs).or (readLoose (takeChar 'T') cs)

end Folio.Time
