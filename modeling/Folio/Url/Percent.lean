import Folio.Uuid

/-!
# Percent encoding

A character that may not stand in a part of a URL is written as its bytes, each a percent sign and two hexadecimal
digits. A percent sign itself may stand everywhere, so an encoded text is not encoded again.
-/

namespace Folio.Url

/-- A byte as a percent sign and two digits. -/
def escapeByte (b : UInt8) : List Char :=
  ['%', Nat.digitChar (b.toNat / 16) |>.toUpper, Nat.digitChar (b.toNat % 16) |>.toUpper]

/-- A character as its escaped bytes. -/
def escape (c : Char) : List Char :=
  (String.utf8EncodeChar c).flatMap escapeByte

/-- The text with some of its characters escaped. -/
def percentEncode (escaped : Char → Bool) (cs : List Char) : List Char :=
  cs.flatMap fun c => if escaped c then escape c else [c]

/-- Is the character a control or outside ASCII? Such a one is escaped everywhere. -/
def isControl (c : Char) : Bool :=
  c < ' ' || '~' < c

/-- The characters that are escaped in a path, besides the controls. -/
def pathEscapes : List Char :=
  [' ', '"', '#', '<', '>', '?', '^', '\x60', '\x7b', '\x7d']

/-- Is the character escaped in a segment of a path? -/
def isEscapedInPath (c : Char) : Bool :=
  isControl c || pathEscapes.contains c

/-- The bytes of a text, the escaped ones read back. -/
def percentDecode : List Char → List UInt8
  | '%' :: a :: b :: rest =>
    match Uuid.hexDigit? a, Uuid.hexDigit? b with
    | some hi, some lo => UInt8.ofNat (hi * 16 + lo) :: percentDecode rest
    | _, _ => String.utf8EncodeChar '%' ++ percentDecode (a :: b :: rest)
  | c :: rest => String.utf8EncodeChar c ++ percentDecode rest
  | [] => []

end Folio.Url
