import Folio.Number.Binary64

/-!
# The fewest digits that read back

The decimal numbers that read back as a given floating-point number fill an interval around it. The shortest
digits are those of the first grid `d * 10 ^ p` (with one digit, with two, …) that meets the interval; of two
points in it the nearer counts, and between two equally near ones a rule decides. Seventeen digits always suffice.
-/

namespace Folio.Number

/-- A positive decimal number `digits * 10 ^ exponent`. -/
structure Digits where
  digits : Nat
  exponent : Int
  deriving Repr, DecidableEq

/-- Which of two neighbouring points of a grid stands for a number midway between them. -/
inductive Midway
  /-- The greater one. -/
  | up
  /-- The one with an even last digit. -/
  | even
  deriving Repr, DecidableEq

/-- Does the lower of the two neighbours, of which `d` is the lower, stand for a number that lies `part / whole`
of the way to the upper one? -/
def Midway.takesLower (rule : Midway) (d part whole : Nat) : Bool :=
  2 * part < whole || (2 * part == whole && rule == .even && d % 2 == 0)

/-- Drops zeros at the end of the digits, as many as told at most. -/
def Digits.strip (d : Digits) : Nat → Digits
  | 0 => d
  | fuel + 1 =>
    if d.digits != 0 && d.digits % 10 == 0 then
      Digits.strip ⟨d.digits / 10, d.exponent + 1⟩ fuel
    else d

/-- The fraction `num * 10 ^ k / den`, for `k` of either sign. -/
def shiftTen (num den : Nat) (k : Int) : Nat × Nat :=
  if 0 ≤ k then (num * 10 ^ k.toNat, den) else (num, den * 10 ^ (-k).toNat)

/-- The greatest `p` for which `10 ^ p ≤ num / den`. -/
def decimalOrder (num den : Nat) : Int :=
  let guess : Int := (Binary64.binaryOrder num den) * 30103 / 100000
  let reaches (p : Int) : Bool :=
    let (a, b) := shiftTen num den (-p)
    b ≤ a
  if reaches (guess + 1) then guess + 1
  else if reaches guess then guess
  else guess - 1

namespace Binary64

/-- Does `num / den` round to the positive finite number `x`? The ends of the interval are the midpoints to the
two neighbours; they belong to it when the significand is even. Below a power of two the neighbour is nearer
by half. -/
def roundsTo (x : Binary64) (num den : Nat) : Bool :=
  let m := x.significand
  let nearer := x.fractionBits == 0 && 1 < x.exponentBits
  -- In units of a quarter of the last place: the number, and the two ends of its interval.
  let below := if nearer then 4 * m - 1 else 4 * m - 2
  let above := 4 * m + 2
  let (a, b) :=
    if 0 ≤ x.scale - 2 then (num, den * 2 ^ (x.scale - 2).toNat)
    else (num * 2 ^ (2 - x.scale).toNat, den)
  if m % 2 == 0 then below * b ≤ a && a ≤ above * b else below * b < a && a < above * b

/-- The point of the grid `d * 10 ^ p` that reads back as the positive finite number `x`, if there is one. -/
def onGrid (rule : Midway) (x : Binary64) (p : Int) : Option Nat :=
  let (num, den) := x.fraction
  let (a, b) := shiftTen num den (-p)
  let d := a / b
  let fits (d : Nat) : Bool :=
    let (c, e) := shiftTen d 1 p
    d != 0 && x.roundsTo c e
  match fits d, fits (d + 1) with
  | true, true => if rule.takesLower d (a % b) b then some d else some (d + 1)
  | true, false => some d
  | false, true => some (d + 1)
  | false, false => none

/-- Tries grids with more and more digits, `count` of them at most. -/
def shortestFrom (rule : Midway) (x : Binary64) (p : Int) : Nat → Digits
  | 0 => ⟨x.fraction.1, 0⟩
  | count + 1 =>
    match onGrid rule x p with
    | some d => ⟨d, p⟩
    | none => shortestFrom rule x (p - 1) count

/-- The shortest digits of a positive finite number. -/
def shortest (rule : Midway) (x : Binary64) : Digits :=
  let (num, den) := x.fraction
  Digits.strip (shortestFrom rule x (decimalOrder num den) 18) 18

end Binary64

end Folio.Number
