import Folio.Number.Decimal

/-!
# Decimals and floating-point numbers

A whole floating-point number of at most ninety-six bits is a decimal as it is. One with a fraction becomes a
decimal of about as many digits as it can be relied on, by halving and multiplying by five in ninety-six bits. A decimal becomes a floating-point number by dividing in floating point,
once more rounded at its own scale.
-/

namespace Folio.Number.Decimal

/-- A number `magnitude * 10 ^ exponent` on its way to a decimal. -/
structure Scaled where
  magnitude : Nat
  exponent : Int
  deriving Repr, DecidableEq

namespace Scaled

/-- Halves the number as often as told, keeping its tens: an even magnitude is halved, an odd one takes a factor
five against a ten, and one with no room for that loses its last bit. -/
def halve (s : Scaled) : Nat → Scaled
  | 0 => s
  | n + 1 =>
    if s.magnitude % 2 = 0 then halve ⟨s.magnitude / 2, s.exponent + 1⟩ n
    else if s.magnitude * 5 < 2 ^ 96 then halve ⟨s.magnitude * 5, s.exponent⟩ n
    else halve ⟨s.magnitude / 2, s.exponent + 1⟩ n

/-- Drops the last digit as often as told, a five rounding upwards; what has no other digit becomes zero. -/
def shorten (s : Scaled) : Nat → Scaled
  | 0 => s
  | n + 1 =>
    let q := s.magnitude / 10
    if q = 0 then ⟨0, 0⟩
    else shorten ⟨if 5 ≤ s.magnitude % 10 then q + 1 else q, s.exponent + 1⟩ n

/-- Drops fraction digits until the magnitude fits in fifty-two bits. -/
def fitPrecision (magnitude : Nat) : Nat → Nat × Nat
  | 0 => (magnitude, 0)
  | scale + 1 =>
    if magnitude < 2 ^ 52 then (magnitude, scale + 1)
    else
      let q := magnitude / 10
      fitPrecision (if 5 ≤ magnitude % 10 then q + 1 else q) scale

end Scaled

/-- The decimal for a floating-point number, without zeros at the end of its fraction. There is none for an
infinity, a NaN or a number of more than ninety-six bits. -/
def ofBinary (x : Binary64) : Option Decimal :=
  if !x.isFinite then none
  else if 0 ≤ x.scale then of? x.negative (x.significand * 2 ^ x.scale.toNat) 0
  else
    let s := Scaled.halve ⟨x.significand, x.scale⟩ (-x.scale).toNat
    let s := s.shorten (-s.exponent - 28).toNat
    let (m, scale) := Scaled.fitPrecision s.magnitude (-s.exponent).toNat
    let (m, scale) := stripZeros m scale
    of? x.negative m scale

/-- A power of ten by repeated squaring, each product rounded. -/
def powTen (square acc : Binary64) (n : Nat) : Binary64 :=
  if n = 0 then acc
  else
    let acc := if n % 2 = 1 then acc.mul square else acc
    powTen (square.mul square) acc (n / 2)
termination_by n

/-- The floating-point number for a decimal. -/
def toBinary (d : Decimal) : Binary64 :=
  if d.scale = 0 then .ofInt d.coefficient
  else
    let unit := 10 ^ d.scale
    let whole := Binary64.ofInt ((d.magnitude / unit : Nat) : Int)
    let rest := (Binary64.ofInt ((d.magnitude % unit : Nat) : Int)).div (.ofInt (unit : Nat))
    let magnitude :=
      if rest.isZero then whole
      else
        let ten := powTen (.ofInt 10) (.ofInt 1) d.scale
        (((whole.add rest).mul ten).roundHalfUp).div ten
    if d.negative then magnitude.neg else magnitude

end Folio.Number.Decimal
