/-!
# Reading whole numbers

A whole number is written as decimal digits after an optional sign. The digits are taken from the left, and
the first fault on the way is the one reported, so `99999999999x` is too large before it is malformed.
-/

namespace Folio.Number

/-- A power means the same in every module, whatever else is imported there. -/
@[default_instance 20000]
instance (priority := 20000) instPow {α : Type} [NatPow α] : Pow α Nat := instPowNat

/-- Why a text is not a whole number of the wanted range. -/
inductive WholeFault
  | empty
  | invalidDigit
  | tooLarge
  | tooSmall
  deriving Repr, DecidableEq

/-- The wording of the fault. -/
def WholeFault.message : WholeFault → String
  | .empty => "cannot parse integer from empty string"
  | .invalidDigit => "invalid digit found in string"
  | .tooLarge => "number too large to fit in target type"
  | .tooSmall => "number too small to fit in target type"

/-- The value of a decimal digit. -/
def digit? (c : Char) : Option Nat :=
  if '0' ≤ c ∧ c ≤ '9' then some (c.toNat - '0'.toNat) else none

/-- Continues `n` by digits, downwards when `negative`, as long as it stays between `lo` and `hi`. -/
def readDigits (lo hi : Int) (negative : Bool) (n : Int) : List Char → Except WholeFault Int
  | [] => .ok n
  | c :: rest =>
    match digit? c with
    | none => .error .invalidDigit
    | some d =>
      let next := if negative then n * 10 - d else n * 10 + d
      if next < lo then .error .tooSmall
      else if hi < next then .error .tooLarge
      else readDigits lo hi negative next rest

/-- Reads a whole number from `lo` to `hi`. -/
def readWhole (lo hi : Int) (cs : List Char) : Except WholeFault Int :=
  match cs with
  | [] => .error .empty
  | ['+'] | ['-'] => .error .invalidDigit
  | '+' :: rest => readDigits lo hi false 0 rest
  | '-' :: rest => readDigits lo hi true 0 rest
  | _ => readDigits lo hi false 0 cs

/-- Reads a 32-bit whole number. -/
def readInt32 (s : String) : Except WholeFault Int32 :=
  (readWhole Int32.minValue.toInt Int32.maxValue.toInt s.toList).map Int32.ofInt

/-- Reads a 64-bit whole number. -/
def readInt64 (s : String) : Except WholeFault Int64 :=
  (readWhole Int64.minValue.toInt Int64.maxValue.toInt s.toList).map Int64.ofInt

end Folio.Number
