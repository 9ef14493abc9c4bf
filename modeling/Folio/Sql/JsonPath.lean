import Folio.Sql.Dialect

/-!
# Paths into a document

A path is a list of member names. A name that is not a plain word stands between double quotes.
-/

namespace Folio.Sql

/-- The names of the members on the way, from the outside in. -/
structure JsonPath where
  names : List String
  deriving Repr, DecidableEq

namespace JsonPath

/-- Is it a letter, a digit or an underscore of ASCII? -/
def isWordChar (c : Char) : Bool :=
  c.isAlphanum || c == '_'

/-- Can the name stand without quotes? -/
def isPlain : List Char → Bool
  | [] => false
  | c :: rest => !c.isDigit && isWordChar c && rest.all isWordChar

/-- A character of a quoted name. -/
def escapeChar (c : Char) : List Char :=
  if c = '"' then ['\\', '"'] else [c]

/-- One step of a path. -/
def stepChars (name : String) : List Char :=
  if isPlain name.toList then '.' :: name.toList
  else '.' :: '"' :: (name.toList.flatMap escapeChar ++ ['"'])

/-- The text of a path: `$` and its steps. -/
def toText (p : JsonPath) : String :=
  String.ofList ('$' :: p.names.flatMap stepChars)

/-- Does the path lead to the whole document? -/
def isRoot (p : JsonPath) : Bool :=
  p.names.isEmpty

/-- The path as a text in a statement. -/
def sql (p : JsonPath) : String :=
  quoteText p.toText

end JsonPath

end Folio.Sql
