import Folio.Number.FloatText

/-!
# JSON

Documents are kept as JSON text. The members of an object are in the order of their names, each name once, so a
document has one text: no blanks, only the escapes that must be, whole numbers in digits and others with their
shortest digits.
-/

namespace Folio

open Folio.Number (Binary64 FloatFormat)

/-- A JSON value. -/
inductive Json
  | null
  | bool (b : Bool)
  /-- A whole number of at most 64 bits, with or without a sign. -/
  | whole (n : Int)
  | float (x : Binary64)
  | text (s : String)
  | array (items : List Json)
  | object (members : List (String × Json))
  deriving Repr, Inhabited

namespace Json

/-- Sets a member of an object, whose members are in order. -/
def setMember (name : String) (j : Json) : List (String × Json) → List (String × Json)
  | [] => [(name, j)]
  | (key, old) :: rest =>
    if name < key then (name, j) :: (key, old) :: rest
    else if name = key then (name, j) :: rest
    else (key, old) :: setMember name j rest

/-- The member of that name. -/
def member? (j : Json) (name : String) : Option Json :=
  match j with
  | .object members => members.lookup name
  | _ => none

/-- Four hexadecimal digits. -/
def hexFour (n : Nat) : List Char :=
  let ds := Nat.toDigits 16 n
  List.replicate (4 - ds.length) '0' ++ ds

/-- A character inside a JSON string. -/
def escapeChar (c : Char) : List Char :=
  match c with
  | '"' => ['\\', '"']
  | '\\' => ['\\', '\\']
  | '\x08' => ['\\', 'b']
  | '\t' => ['\\', 't']
  | '\n' => ['\\', 'n']
  | '\x0c' => ['\\', 'f']
  | '\r' => ['\\', 'r']
  | c => if c.toNat < 0x20 then '\\' :: 'u' :: hexFour c.toNat else [c]

/-- A JSON string. -/
def textChars (s : String) : List Char :=
  '"' :: (s.toList.flatMap escapeChar ++ ['"'])

/-- Numbers have an exponent with its sign from `10 ^ 16` on and below `10 ^ -5`. -/
def floatFormat : FloatFormat := ⟨-5, 15, true, .even⟩

/-- A floating-point number; JSON has no infinities and no NaN. -/
def floatChars (x : Binary64) : List Char :=
  if x.isFinite then (floatFormat.render x).toList else ['n', 'u', 'l', 'l']

mutual

/-- The text of a value. -/
def chars : Json → List Char
  | .null => ['n', 'u', 'l', 'l']
  | .bool true => ['t', 'r', 'u', 'e']
  | .bool false => ['f', 'a', 'l', 's', 'e']
  | .whole n => (toString n).toList
  | .float x => floatChars x
  | .text s => textChars s
  | .array items => '[' :: (itemChars items ++ [']'])
  | .object members => '\x7b' :: (memberChars members ++ ['\x7d'])

/-- The texts of the items of an array, with commas between them. -/
def itemChars : List Json → List Char
  | [] => []
  | [j] => j.chars
  | j :: k :: rest => j.chars ++ ',' :: itemChars (k :: rest)

/-- The texts of the members of an object, with commas between them. -/
def memberChars : List (String × Json) → List Char
  | [] => []
  | [(name, j)] => textChars name ++ ':' :: j.chars
  | (name, j) :: m :: rest => textChars name ++ ':' :: (j.chars ++ ',' :: memberChars (m :: rest))

end

/-- The text of a value. -/
def render (j : Json) : String :=
  String.ofList j.chars

end Json

end Folio
