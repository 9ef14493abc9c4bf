import Folio.Json
import Folio.Number.Whole

/-!
# Reading JSON

A value is read from the front of the text and the rest is handed on. Arrays and objects may only be nested up
to a limit; the last of several members of one name counts.

Numbers without point and exponent that fit 64 bits are whole. The others are computed as the floating-point
number of their digits, multiplied or divided by a power of ten, each step rounded; digits beyond 64 bits are
dropped.
-/

namespace Folio.Json

open Folio.Number (Binary64 digit?)

/-- Does JSON allow the character between tokens? -/
def isSpace (c : Char) : Bool :=
  c == ' ' || c == '\n' || c == '\t' || c == '\r'

/-- The text without leading white space. -/
def skipSpace (cs : List Char) : List Char :=
  cs.dropWhile isSpace

/-- The value of a hexadecimal digit. -/
def hexDigit? (c : Char) : Option Nat :=
  if '0' ≤ c ∧ c ≤ '9' then some (c.toNat - '0'.toNat)
  else if 'a' ≤ c ∧ c ≤ 'f' then some (c.toNat - 'a'.toNat + 10)
  else if 'A' ≤ c ∧ c ≤ 'F' then some (c.toNat - 'A'.toNat + 10)
  else none

/-- The number of four hexadecimal digits. -/
def hexFour? (a b c d : Char) : Option Nat := do
  let a ← hexDigit? a
  let b ← hexDigit? b
  let c ← hexDigit? c
  let d ← hexDigit? d
  some (((a * 16 + b) * 16 + c) * 16 + d)

/-- The character that a one-letter escape stands for. -/
def simpleEscape? : Char → Option Char
  | '"' => some '"'
  | '\\' => some '\\'
  | '/' => some '/'
  | 'b' => some '\x08'
  | 'f' => some '\x0c'
  | 'n' => some '\n'
  | 'r' => some '\r'
  | 't' => some '\t'
  | _ => none

/-- The character of a pair of surrogates. -/
def ofSurrogates? (high low : Nat) : Option Char :=
  if 0xD800 ≤ high ∧ high < 0xDC00 ∧ 0xDC00 ≤ low ∧ low < 0xE000 then
    some (Char.ofNat (0x10000 + (high - 0xD800) * 0x400 + (low - 0xDC00)))
  else none

/-- Reads the rest of a string after its opening quote; `seen` holds what is read, last character first. A
surrogate stands for a character only together with its other half. -/
def readText (seen : List Char) : List Char → Option (String × List Char)
  | [] => none
  | '"' :: rest => some (String.ofList seen.reverse, rest)
  | '\\' :: 'u' :: a :: b :: c :: d :: rest =>
    match hexFour? a b c d with
    | none => none
    | some n =>
      if n < 0xD800 ∨ 0xE000 ≤ n then readText (Char.ofNat n :: seen) rest
      else
        match rest with
        | '\\' :: 'u' :: a :: b :: c :: d :: rest =>
          match (hexFour? a b c d).bind (ofSurrogates? n) with
          | some c => readText (c :: seen) rest
          | none => none
        | _ => none
  | '\\' :: e :: rest =>
    match simpleEscape? e with
    | some c => readText (c :: seen) rest
    | none => none
  | c :: rest => if c.toNat < 0x20 || c == '\\' then none else readText (c :: seen) rest

/-- The floating-point number next to `10 ^ n`. -/
def powerOfTen (n : Nat) : Binary64 :=
  .ofDecimal false 1 n

/-- Divides by a power of ten, at most by `10 ^ 308` at a time. After three steps nothing is left of a number
below `2 ^ 64`. -/
def divideTen (x : Binary64) (n : Nat) : Nat → Binary64
  | 0 => .zero false
  | steps + 1 =>
    if n ≤ 308 then x.div (powerOfTen n)
    else if x.isZero then x
    else divideTen (x.div (powerOfTen 308)) (n - 308) steps

/-- The floating-point number `significand * 10 ^ exponent`, if it is finite. -/
def float? (negative : Bool) (significand : Nat) (exponent : Int) : Option Binary64 :=
  let x := Binary64.ofInt significand
  let y :=
    if exponent < 0 then some (divideTen x exponent.natAbs 3)
    else if exponent ≤ 308 then some (x.mul (powerOfTen exponent.natAbs))
    else if x.isZero then some x
    else none
  match y with
  | some y => if y.isFinite then some (if negative then y.neg else y) else none
  | none => none

/-- Digits of a number as far as they are kept: their value, how many were read before the value became too long
for 64 bits, whether it did, how many were read in all, and the rest. -/
structure DigitRun where
  value : Nat
  kept : Nat
  full : Bool
  count : Nat
  rest : List Char

/-- Continues a value by the leading digits. -/
def takeDigits (value kept : Nat) (full : Bool) (count : Nat) : List Char → DigitRun
  | [] => ⟨value, kept, full, count, []⟩
  | c :: rest =>
    match digit? c with
    | none => ⟨value, kept, full, count, c :: rest⟩
    | some d =>
      if full || 2 ^ 64 ≤ value * 10 + d then takeDigits value kept true (count + 1) rest
      else takeDigits (value * 10 + d) (kept + 1) false (count + 1) rest

/-- Reads an exponent with its letter, if there is one; a letter without digits is a fault. -/
def takeExponent : List Char → Option (Option Int × List Char)
  | [] => some (none, [])
  | e :: rest =>
    if e = 'e' || e = 'E' then
      let (negative, ds) :=
        match rest with
        | '-' :: ds => (true, ds)
        | '+' :: ds => (false, ds)
        | ds => (false, ds)
      let (n, count, rest) := Number.takeDigits 0 0 ds
      if count = 0 then none else some (some (if negative then -(n : Int) else n), rest)
    else some (none, e :: rest)

/-- Reads a number after its sign. A zero in front stands alone. -/
def readMagnitude (negative : Bool) (cs : List Char) : Option (Json × List Char) := do
  let whole : DigitRun :=
    match cs with
    | '0' :: rest => ⟨0, 1, false, 1, rest⟩
    | cs => takeDigits 0 0 false 0 cs
  if whole.count = 0 then none
  else if cs.head? = some '0' && (whole.rest.head?.bind digit?).isSome then none
  else
    let dropped : Int := (whole.count - whole.kept : Nat)
    match whole.rest with
    | '.' :: rest =>
      let fraction := takeDigits whole.value 0 false 0 rest
      if fraction.count = 0 then none
      else
        let (e, rest) ← takeExponent fraction.rest
        let x ← float? negative fraction.value (dropped - fraction.kept + e.getD 0)
        some (.float x, rest)
    | rest =>
      match ← takeExponent rest with
      | (some e, rest) =>
        let x ← float? negative whole.value (dropped + e)
        some (.float x, rest)
      | (none, rest) =>
        if whole.full then
          let x ← float? negative whole.value dropped
          some (.float x, rest)
        else if negative then
          if whole.value = 0 || 2 ^ 63 < whole.value then
            some (.float (Binary64.ofInt whole.value).neg, rest)
          else some (.whole (-(whole.value : Int)), rest)
        else some (.whole whole.value, rest)

mutual

/-- Reads a value; arrays and objects may be nested less than `depth` deep. Every step spends fuel, of which two
units per character suffice. -/
def readValue (depth : Nat) (cs : List Char) : Nat → Option (Json × List Char)
  | 0 => none
  | fuel + 1 =>
    match skipSpace cs with
    | 'n' :: 'u' :: 'l' :: 'l' :: rest => some (.null, rest)
    | 't' :: 'r' :: 'u' :: 'e' :: rest => some (.bool true, rest)
    | 'f' :: 'a' :: 'l' :: 's' :: 'e' :: rest => some (.bool false, rest)
    | '"' :: rest => (readText [] rest).map fun (s, rest) => (.text s, rest)
    | '[' :: rest =>
      if depth ≤ 1 then none
      else
        match skipSpace rest with
        | ']' :: rest => some (.array [], rest)
        | rest => (readItems (depth - 1) rest fuel).map fun (items, rest) => (.array items, rest)
    | '\x7b' :: rest =>
      if depth ≤ 1 then none
      else
        match skipSpace rest with
        | '\x7d' :: rest => some (.object [], rest)
        | rest => (readMembers (depth - 1) rest [] fuel).map fun (members, rest) => (.object members, rest)
    | '-' :: rest => readMagnitude true rest
    | rest => readMagnitude false rest

/-- Reads the items of an array up to its end. -/
def readItems (depth : Nat) (cs : List Char) : Nat → Option (List Json × List Char)
  | 0 => none
  | fuel + 1 =>
    match readValue depth cs fuel with
    | none => none
    | some (j, rest) =>
      match skipSpace rest with
      | ']' :: rest => some ([j], rest)
      | ',' :: rest => (readItems depth rest fuel).map fun (items, rest) => (j :: items, rest)
      | _ => none

/-- Reads the members of an object up to its end, and sets them in those read before. -/
def readMembers (depth : Nat) (cs : List Char) (members : List (String × Json)) :
    Nat → Option (List (String × Json) × List Char)
  | 0 => none
  | fuel + 1 =>
    match skipSpace cs with
    | '"' :: rest =>
      match readText [] rest with
      | none => none
      | some (name, rest) =>
        match skipSpace rest with
        | ':' :: rest =>
          match readValue depth rest fuel with
          | none => none
          | some (j, rest) =>
            match skipSpace rest with
            | '\x7d' :: rest => some (setMember name j members, rest)
            | ',' :: rest => readMembers depth rest (setMember name j members) fuel
            | _ => none
        | _ => none
    | _ => none

end

/-- Reads a text that holds one value and nothing else. -/
def readWithin (depth : Nat) (s : String) : Option Json :=
  let cs := s.toList
  match readValue depth cs (2 * cs.length + 2) with
  | some (j, rest) => if (skipSpace rest).isEmpty then some j else none
  | none => none

/-- Reads a document's text. -/
def read (s : String) : Option Json :=
  readWithin 128 s

end Folio.Json
