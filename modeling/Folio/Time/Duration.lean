/-!
# Durations

A span of time is written in the greatest of seconds, milliseconds, microseconds and nanoseconds that it
reaches, with as many decimals as it needs.
-/

namespace Folio.Time

/-- A number with `places` digits after the point, of which zeros at the end are left out. -/
def fixedText (whole rest places : Nat) : String :=
  let ds := Nat.toDigits 10 rest
  let fraction := List.replicate (places - ds.length) '0' ++ ds
  let kept := (fraction.reverse.dropWhile (· == '0')).reverse
  toString whole ++ if rest = 0 then "" else "." ++ String.ofList kept

/-- The text of a span of nanoseconds. -/
def durationText (nanos : Nat) : String :=
  if 1000000000 ≤ nanos then fixedText (nanos / 1000000000) (nanos % 1000000000) 9 ++ "s"
  else if 1000000 ≤ nanos then fixedText (nanos / 1000000) (nanos % 1000000) 6 ++ "ms"
  else if 1000 ≤ nanos then fixedText (nanos / 1000) (nanos % 1000) 3 ++ "µs"
  else toString nanos ++ "ns"

end Folio.Time
