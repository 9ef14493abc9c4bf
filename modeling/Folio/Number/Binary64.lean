import Folio.Number.Whole

/-!
# Binary floating-point numbers

A number of 64 bits: a sign, eleven bits of exponent and fifty-two of fraction. What a finite one denotes is a
rational number, and every operation here computes that rational exactly and then takes the nearest number of
64 bits, the one with the even fraction when two are equally near.
-/

namespace Folio.Number

/-- A floating-point number, as its bits. -/
structure Binary64 where
  bits : UInt64
  deriving Repr, DecidableEq

namespace Binary64

/-- Is the sign bit set? -/
def negative (x : Binary64) : Bool :=
  2 ^ 63 ≤ x.bits.toNat

/-- The eleven bits of the exponent. -/
def exponentBits (x : Binary64) : Nat :=
  x.bits.toNat / 2 ^ 52 % 2 ^ 11

/-- The fifty-two bits of the fraction. -/
def fractionBits (x : Binary64) : Nat :=
  x.bits.toNat % 2 ^ 52

/-- Is it neither infinite nor a NaN? -/
def isFinite (x : Binary64) : Bool :=
  x.exponentBits != 2047

/-- Is it a NaN? -/
def isNaN (x : Binary64) : Bool :=
  x.exponentBits == 2047 && x.fractionBits != 0

/-- Is it one of the two zeros? -/
def isZero (x : Binary64) : Bool :=
  x.exponentBits == 0 && x.fractionBits == 0

/-- The significand `m` of a finite number, whose magnitude is `m * 2 ^ (e - 1075)` for the exponent `e`. -/
def significand (x : Binary64) : Nat :=
  if x.exponentBits = 0 then x.fractionBits else 2 ^ 52 + x.fractionBits

/-- The exponent of two that goes with the significand. -/
def scale (x : Binary64) : Int :=
  (max x.exponentBits 1 : Nat) - 1075

/-- The magnitude of a finite number, as a fraction. -/
def fraction (x : Binary64) : Nat × Nat :=
  if 0 ≤ x.scale then (x.significand * 2 ^ x.scale.toNat, 1)
  else (x.significand, 2 ^ (-x.scale).toNat)

/-- The bits with the given sign and the rest of the given magnitude. -/
def ofMagnitude (negative : Bool) (magnitude : Nat) : Binary64 :=
  ⟨UInt64.ofNat (if negative then 2 ^ 63 + magnitude else magnitude)⟩

/-- Infinity of either sign. -/
def infinity (negative : Bool) : Binary64 :=
  ofMagnitude negative (2047 * 2 ^ 52)

/-- The quiet NaN without a sign. -/
def nan : Binary64 :=
  ofMagnitude false (2047 * 2 ^ 52 + 2 ^ 51)

/-- Zero of either sign. -/
def zero (negative : Bool) : Binary64 :=
  ofMagnitude negative 0

/-- The whole number nearest to `num / den`; of two, the even one. -/
def divNearest (num den : Nat) : Nat :=
  let q := num / den
  let twice := 2 * (num % den)
  if twice < den || (twice == den && q % 2 == 0) then q else q + 1

/-- The greatest `e` for which `2 ^ e ≤ num / den`. -/
def binaryOrder (num den : Nat) : Int :=
  let e : Int := (num.log2 : Int) - den.log2
  let reached := if 0 ≤ e then den * 2 ^ e.toNat ≤ num else den ≤ num * 2 ^ (-e).toNat
  if reached then e else e - 1

/-- The number nearest to `num / den`. The significand has fifty-three bits unless the number is too small for
the least exponent; what rounds up beyond the greatest number is infinite. -/
def ofFraction (negative : Bool) (num den : Nat) : Binary64 :=
  if num = 0 then zero negative
  else
    let e : Int := max (binaryOrder num den - 52) (-1074)
    let m := if 0 ≤ e then divNearest num (den * 2 ^ e.toNat) else divNearest (num * 2 ^ (-e).toNat) den
    let magnitude := (e + 1074).toNat * 2 ^ 52 + m
    if 2047 * 2 ^ 52 ≤ magnitude then infinity negative else ofMagnitude negative magnitude

/-- The number nearest to a whole number. -/
def ofInt (n : Int) : Binary64 :=
  ofFraction (n < 0) n.natAbs 1

/-- The product of two finite numbers. -/
def mul (x y : Binary64) : Binary64 :=
  let (a, b) := x.fraction
  let (c, d) := y.fraction
  ofFraction (x.negative != y.negative) (a * c) (b * d)

/-- The quotient of two finite numbers, the second not zero. -/
def div (x y : Binary64) : Binary64 :=
  let (a, b) := x.fraction
  let (c, d) := y.fraction
  ofFraction (x.negative != y.negative) (a * d) (b * c)

/-- The sum of two finite numbers that are not negative. -/
def add (x y : Binary64) : Binary64 :=
  let (a, b) := x.fraction
  let (c, d) := y.fraction
  ofFraction false (a * d + c * b) (b * d)

/-- The whole number nearest to a finite number that is not negative; a half goes up. -/
def roundHalfUp (x : Binary64) : Binary64 :=
  let (a, b) := x.fraction
  ofFraction x.negative ((2 * a + b) / (2 * b)) 1

/-- The number with its sign turned. -/
def neg (x : Binary64) : Binary64 :=
  ofMagnitude (!x.negative) (x.bits.toNat % 2 ^ 63)

/-- Is it finite and whole? -/
def isWhole (x : Binary64) : Bool :=
  let (a, b) := x.fraction
  x.isFinite && a % b == 0

/-- The whole part of a finite number. -/
def truncate (x : Binary64) : Int :=
  let (a, b) := x.fraction
  if x.negative then -(a / b : Nat) else (a / b : Nat)

end Binary64

end Folio.Number
