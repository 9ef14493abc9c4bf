import Folio.Number.Whole

/-!
# Universally unique identifiers

A 128-bit number, written as 32 hexadecimal digits in groups of 8, 4, 4, 4 and 12.
-/

namespace Folio

/-- A universally unique identifier. -/
structure Uuid where
  value : BitVec 128
  deriving Repr, DecidableEq

namespace Uuid

/-- The value of a hexadecimal digit, in either case. -/
def hexDigit? (c : Char) : Option Nat :=
  if '0' ≤ c ∧ c ≤ '9' then some (c.toNat - '0'.toNat)
  else if 'a' ≤ c ∧ c ≤ 'f' then some (c.toNat - 'a'.toNat + 10)
  else if 'A' ≤ c ∧ c ≤ 'F' then some (c.toNat - 'A'.toNat + 10)
  else none

/-- The text in groups, with lower-case digits. -/
def toText (u : Uuid) : String :=
  let digit (i : Nat) : Char := Nat.digitChar (u.value.toNat / 16 ^ (31 - i) % 16)
  let group (start count : Nat) : List Char := (List.range' start count).map digit
  String.ofList <|
    group 0 8 ++ '-' :: group 8 4 ++ '-' :: group 12 4 ++ '-' :: group 16 4 ++ '-' :: group 20 12

/-- The number with these hexadecimal digits, of which there must be 32. -/
def ofHex (cs : List Char) : Option Uuid :=
  if cs.length = 32 then
    (cs.foldlM (fun n c => (hexDigit? c).map (n * 16 + ·)) 0).map fun n => ⟨BitVec.ofNat 128 n⟩
  else none

/-- Reads the text in groups. -/
def readGroups (cs : List Char) : Option Uuid :=
  if cs.length = 36 && [8, 13, 18, 23].all (fun i => cs[i]? == some '-') then
    ofHex (cs.take 8 ++ (cs.drop 9).take 4 ++ (cs.drop 14).take 4 ++ (cs.drop 19).take 4 ++ cs.drop 24)
  else none

/-- Reads an identifier: its digits alone, in groups, in groups between braces, or as a name of the scheme
`urn:uuid:` in any case. -/
def read (s : String) : Option Uuid :=
  let cs := s.toList
  if cs.length = 32 then ofHex cs
  else if cs.length = 38 && cs.head? == some '\x7b' && cs.getLast? == some '\x7d' then
    readGroups ((cs.drop 1).take 36)
  else if cs.length = 45 && String.ofList ((cs.take 9).map Char.toLower) == "urn:uuid:" then
    readGroups (cs.drop 9)
  else readGroups cs

end Uuid

end Folio
