import Folio.Sql.Term

/-!
# Locators

Where a member of a document is found in a row, and how what is found there is read.
-/

namespace Folio.Statement

open Folio.Sql (Cast Dialect JsonPath Term)

/-- How the text found in a document is read. -/
inductive Conversion
  /-- As it is. -/
  | none
  /-- As one of the texts `true` and `false`. -/
  | boolText
  | cast (type : Cast)
  deriving Repr, DecidableEq

/-- Where a member is found. -/
inductive Place
  | column (name : String)
  | json (path : JsonPath)
  deriving Repr, DecidableEq

/-- A place and the reading of what is found there. -/
structure Locator where
  place : Place
  conversion : Conversion := .none
  deriving Repr, DecidableEq

/-- The term read by a conversion. -/
def Conversion.apply (c : Conversion) (t : Term) : Term :=
  match c with
  | .none | .boolText => t
  | .cast type => .cast type t

/-- The term for a place. -/
def Place.toTerm : Place → Term
  | .column name => .column name
  | .json path => .json path

namespace Locator

/-- The locator without its conversion. -/
def raw (l : Locator) : Locator :=
  { l with conversion := .none }

/-- The term for a locator. SQLite reads a boolean of a document as a number, so there its text is the name of its
type. -/
def toTerm (d : Dialect) (l : Locator) : Term :=
  match d, l.conversion, l.place with
  | .sqlite, .boolText, .json path => .jsonType path
  | _, c, place => c.apply place.toTerm

end Locator

end Folio.Statement
