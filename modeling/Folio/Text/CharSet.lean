/-!
# Sets and mappings of characters

The tables of a character property list code points in runs: `first`, `first + step`, and so on up to
`last`. Upper and lower case letters often alternate, so many runs have step two.
-/

namespace Folio.Text

/-- The code points `first, first + step, …, last`. -/
structure Run where
  first : Nat
  last : Nat
  step : Nat
  deriving Repr, DecidableEq

/-- Is the code point one of the run? -/
def Run.contains (r : Run) (n : Nat) : Bool :=
  r.first ≤ n && n ≤ r.last && (n - r.first) % r.step == 0

/-- A set of characters, listed in runs. -/
structure CharSet where
  runs : Array Run
  deriving Repr, DecidableEq

/-- Is the character in the set? -/
def CharSet.contains (s : CharSet) (c : Char) : Bool :=
  s.runs.any (·.contains c.toNat)

/-- The code points of a run, each of which maps to the code point `delta` further on. -/
structure Shift where
  run : Run
  delta : Int
  deriving Repr, DecidableEq

/-- A mapping of characters to texts that moves most code points by a distance shared by their run, and
gives the few others a text of their own. What neither part lists stays as it is. -/
structure CaseMap where
  shifts : Array Shift
  expansions : Array (Nat × List Nat)
  deriving Repr, DecidableEq

/-- The text that a character maps to. -/
def CaseMap.apply (m : CaseMap) (c : Char) : List Char :=
  match m.shifts.find? (·.run.contains c.toNat) with
  | some s => [Char.ofNat ((c.toNat : Int) + s.delta).toNat]
  | none =>
    match m.expansions.find? (·.1 == c.toNat) with
    | some (_, cs) => cs.map Char.ofNat
    | none => [c]

end Folio.Text
