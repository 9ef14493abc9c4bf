import Folio.Json

/-!
# Tagged JSON

Values and expressions can be sent as JSON from which they are read back as they were. What JSON has no form for
is tagged: an object of one member, whose name says what is inside. Here are the parts that all tagged forms share.
-/

namespace Folio.Tagged

/-- The text that the JSON value is. -/
def text? : Json → Option String
  | .text s => some s
  | _ => none

/-- The whole number that the JSON value is, be it a number or text. -/
def int? : Json → Option Int
  | .whole n => some n
  | .text s => s.toInt?
  | _ => none

/-- The number that the JSON value is, be it a number or text. -/
def nat? (j : Json) : Option Nat :=
  (int? j).bind Int.toNat?

/-- The items of an array; nothing at all is an array without items. -/
def items? : Json → Option (List Json)
  | .array items => some items
  | .null => some []
  | _ => none

/-- The choice that the JSON value is; nothing at all is a no. -/
def flag? : Json → Option Bool
  | .bool b => some b
  | .null => some false
  | _ => none

/-- The member of an object; nothing at all if it has none of that name. -/
def field (j : Json) (name : String) : Json :=
  (j.member? name).getD .null

/-- A whole number as text, which has no bounds. -/
def intText (n : Int) : Json :=
  .text (toString n)

/-- Names for the constants of a type. -/
abbrev Names (α : Type) := List (String × α)

namespace Names

variable {α : Type}

/-- The constant of that name. -/
def read? (names : Names α) (j : Json) : Option α :=
  (text? j).bind fun s => List.lookup s names

/-- The name of the constant. -/
def write [DecidableEq α] (names : Names α) (a : α) : Json :=
  match names.find? (·.2 = a) with
  | some (name, _) => .text name
  | none => .null

end Names

end Folio.Tagged
