import Folio.Number.FloatText

/-!
# Scaled decimal numbers

A decimal is a sign, a whole magnitude below `2 ^ 96` and the number of its digits that stand after the point, at
most twenty-eight. The scale is part of the number's text: `1.5` and `1.50` are different decimals. So is the sign;
a zero has one only where an exponent moved all digits of a negative number out of reach.
-/

namespace Folio.Number

/-- A decimal number, `magnitude / 10 ^ scale` or its negative. -/
structure Decimal where
  negative : Bool
  magnitude : Nat
  scale : Nat
  magnitude_lt : magnitude < 2 ^ 96
  scale_le : scale ≤ 28
  deriving Repr, DecidableEq

namespace Decimal

/-- The coefficient of a decimal, which denotes `coefficient / 10 ^ scale`. -/
def coefficient (d : Decimal) : Int :=
  if d.negative then -(d.magnitude : Int) else d.magnitude

/-- The decimal with exactly these parts, if they are in range. -/
def ofParts? (negative : Bool) (magnitude scale : Nat) : Option Decimal :=
  if h : magnitude < 2 ^ 96 ∧ scale ≤ 28 then some ⟨negative, magnitude, scale, h.1, h.2⟩ else none

/-- The decimal with these parts, if they are in range; zero is positive. -/
def of? (negative : Bool) (magnitude scale : Nat) : Option Decimal :=
  ofParts? (negative && magnitude != 0) magnitude scale

/-- A whole number of 64 bits as a decimal. -/
def ofInt64 (n : Int64) : Decimal where
  negative := n.toInt < 0
  magnitude := n.toInt.natAbs
  scale := 0
  magnitude_lt := by
    have h₁ := n.le_toInt
    have h₂ := n.toInt_lt
    omega
  scale_le := Nat.zero_le _

/-- A whole number of 32 bits as a decimal. -/
def ofInt32 (n : Int32) : Decimal :=
  ofInt64 n.toInt64

/-- The digits of the coefficient with the point in its place, at least one digit before it. -/
def toText (d : Decimal) : String :=
  let ds := Nat.toDigits 10 d.magnitude
  let padded := List.replicate (d.scale + 1 - ds.length) '0' ++ ds
  let whole := padded.take (padded.length - d.scale)
  let rest := padded.drop (padded.length - d.scale)
  let sign := if d.negative then ['-'] else []
  String.ofList (sign ++ whole ++ if rest.isEmpty then [] else '.' :: rest)

/-- The whole number that the decimal denotes, if it is whole. -/
def toInt? (d : Decimal) : Option Int :=
  if d.coefficient % 10 ^ d.scale = 0 then some (d.coefficient / 10 ^ d.scale) else none

/-- A magnitude without its last `count` digits, the first of them rounding what stays, a five upwards. -/
def dropDigits (magnitude count : Nat) : Nat :=
  (magnitude + 10 ^ count / 2) / 10 ^ count

/-- A magnitude without the zeros at the end of its fraction digits. -/
def stripZeros (magnitude : Nat) : Nat → Nat × Nat
  | 0 => (magnitude, 0)
  | scale + 1 => if magnitude % 10 = 0 then stripZeros (magnitude / 10) scale else (magnitude, scale + 1)

end Decimal

end Folio.Number
