import Folio.Url.Basic
import Folio.Url.Percent

/-!
# Hosts

A host in brackets is an address of eight groups. Any other is a name; for the schemes of the network, one whose
last part is a number must be an address of four parts.
-/

namespace Folio.Url

/-- The number that the digits are in the base, if there are any. -/
def numberIn? (base : Nat) (cs : List Char) : Option Nat :=
  if cs.isEmpty then none
  else
    cs.foldlM (fun n c => do
      let d ← Uuid.hexDigit? c
      if d < base then some (n * base + d) else none) 0

/-! ## Addresses of eight groups -/

/-- One of four numbers at the end of an address: at most 255, and without zeros in front. -/
def readOctet (cs : List Char) : Option Nat := do
  let n ← numberIn? 10 cs
  if n ≤ 255 && (cs.length = 1 || cs.head? ≠ some '0') then some n else none

/-- The two groups written as four numbers. -/
def readDotted (cs : List Char) : Option (List Nat) :=
  match (cs.splitOnP (· = '.')).mapM readOctet with
  | some [a, b, c, d] => some [a * 256 + b, c * 256 + d]
  | _ => none

/-- A group of up to four hexadecimal digits. -/
def readGroup (cs : List Char) : Option Nat :=
  if cs.length ≤ 4 then numberIn? 16 cs else none

/-- The groups between the colons; the last two may be written as four numbers. -/
def readGroups : List (List Char) → Option (List Nat)
  | [] => some []
  | [last] => if last.contains '.' then readDotted last else (readGroup last).map ([·])
  | group :: rest => do return (← readGroup group) :: (← readGroups rest)

/-- Splits a text at the first double colon. -/
def splitAtGap : List Char → Option (List Char × List Char)
  | ':' :: ':' :: rest => some ([], rest)
  | c :: rest => (splitAtGap rest).map fun (front, back) => (c :: front, back)
  | [] => none

/-- The groups of one side of the double colon, which may be none. -/
def readSide (cs : List Char) : Option (List Nat) :=
  if cs.isEmpty then some [] else readGroups (cs.splitOnP (· = ':'))

/-- An address of eight groups; a double colon stands for as many zeros as are missing, one at least. -/
def readIpv6 (cs : List Char) : Option (List Nat) :=
  match splitAtGap cs with
  | none => do
    let groups ← readGroups (cs.splitOnP (· = ':'))
    if groups.length = 8 then some groups else none
  | some (front, back) => do
    if front.contains '.' then none
    let front ← readSide front
    let back ← readSide back
    let given := front.length + back.length
    if given < 8 then some (front ++ List.replicate (8 - given) 0 ++ back) else none

/-! ## Addresses of four parts -/

/-- A part of an address: hexadecimal behind `0x`, octal behind `0`, and else decimal. -/
def readPart : List Char → Option Nat
  | ['0', 'x'] | ['0', 'X'] => some 0
  | '0' :: 'x' :: cs | '0' :: 'X' :: cs => numberIn? 16 cs
  | ['0'] => some 0
  | '0' :: cs => numberIn? 8 cs
  | cs => numberIn? 10 cs

/-- The parts of a name; a dot at its end adds none. -/
def partsOf (cs : List Char) : List (List Char) :=
  let parts := cs.splitOnP (· = '.')
  if 1 < parts.length && parts.getLast? = some [] then parts.dropLast else parts

/-- Is the last part a number? -/
def endsInNumber (cs : List Char) : Bool :=
  match (partsOf cs).getLast? with
  | some last => (!last.isEmpty && last.all Char.isDigit) || (readPart last).isSome
  | none => false

/-- An address of up to four parts, the last of which takes the room of those that are missing. -/
def readIpv4 (cs : List Char) : Option Nat := do
  let numbers ← (partsOf cs).mapM readPart
  let last ← numbers.getLast?
  let front := numbers.dropLast
  if front.length ≤ 3 && front.all (· ≤ 255) && last < 256 ^ (4 - front.length) then
    some (front.foldl (fun n part => n * 256 + part) 0 * 256 ^ (4 - front.length) + last)
  else none

/-! ## Names -/

/-- The characters that no host may have. -/
def hostEnds : List Char :=
  ['\x00', '\t', '\n', '\r', ' ', '#', '/', ':', '<', '>', '?', '@', '[', '\\', ']', '^', '|']

/-- May the character not stand in a name of the network? -/
def isBarredFromName (c : Char) : Bool :=
  c < ' ' || c = '\x7f' || c = '%' || hostEnds.contains c

/-- The host that a name of the network stands for, read in lower case. Letters outside ASCII stand for
themselves. -/
def readName (cs : List Char) : Except Fault Host :=
  match String.fromUTF8? ⟨(percentDecode cs).toArray⟩ with
  | none => .error .hostName
  | some name =>
    let name := name.toList.map Char.toLower
    if name.any isBarredFromName then .error .hostName
    else if name.isEmpty then .error .emptyHost
    else if endsInNumber name then
      match readIpv4 name with
      | some address => .ok (.ipv4 address)
      | none => .error .ipv4
    else .ok (.name (String.ofList name))

/-- The host that a text stands for behind any other scheme. -/
def readPlainHost (cs : List Char) : Except Fault Host :=
  if cs.any hostEnds.contains then .error .hostCharacter
  else .ok (.name (String.ofList (percentEncode isControl cs)))

/-- The address in brackets, or else what the name stands for. -/
def readHost (name : List Char → Except Fault Host) (cs : List Char) : Except Fault Host :=
  match cs with
  | '[' :: rest =>
    match rest.getLast?, readIpv6 rest.dropLast with
    | some ']', some groups => .ok (.ipv6 groups)
    | _, _ => .error .ipv6
  | cs => name cs

end Folio.Url
